import IntegrationHost.Proofs.Adapter.Coherence
import IntegrationHost.Proofs.Lifecycle.Initialisation

/-!
# Initialising adapters and their parts again

Lists of services, workflows, channels and adapters pass `init` on to what they drive. From the
closed state it takes everything below along, at every level. From the stopped state it is a step of
the component alone: what it drove stays stopped until it is started or closed.
-/

namespace IntegrationHost

open Lifecycle Service

variable {ω C : Type}

/-- What `init` brings to the services of a list and of a workflow, to the workflows of a channel
and to the channels of an adapter, wherever commands have led these, and whatever comes of the hooks
of services. -/
theorem hooks_initPassOn (b : Behaviour ω C) :
    (Chain.hooks b).InitPassesOn Chain.services (fun _ => true) ∧
      (Workflow.hooks b).InitPassesOn Workflow.services (fun _ => true) ∧
      (Channel.hooks b).InitPassesOn Channel.workflows (fun _ => true) ∧
      (Adapter.hooks b).InitPassesOn Adapter.channels Channel.autoStart := by
  have all {D : Type} (hooks : Hooks ω D) : hooks.Fixes fun _ => true := fun _ _ _ => rfl
  refine ⟨?list, ?workflow, ?channel, ?adapter⟩
  case list => exact Hooks.initPassesOn (all b.hooks) (fun _ _ => rfl) (fun _ => rfl)
  case workflow => exact Hooks.initPassesOn (all b.hooks) (fun _ _ => rfl) (fun _ => rfl)
  case channel => exact Hooks.initPassesOn (all (Workflow.hooks b)) (fun _ _ => rfl) (fun _ => rfl)
  case adapter =>
    exact Hooks.initPassesOn (Channel.hooks_fixes b) (fun _ _ => rfl) (fun _ => rfl)

/-- An adapter comes to work at the second attempt and is stopped. When it is initialised after
that, the channel that starts with it stays stopped. -/
theorem hooks_initPassOn_twoChannels :
    let hooks := Adapter.hooks (Live.behaviour Adapter.everyEighth 1)
    let left := Managed.performAll hooks [.request .start, .moveTo .started, .fire .stop]
      (.new "adapter" Adapter.twoChannels) 0
    let asked := left.1.perform hooks (.fire .init) left.2
    (∀ m ∈ Adapter.twoChannels.channels, m.state = .closed) ∧
      left.1.state = .stopped ∧ asked.verdict = .ok () ∧
      asked = .done { left.1 with state := .initialised } left.2 ∧
      asked.value.component.channels.map Managed.state = [.stopped, .initialised] := by
  intro hooks left asked
  have new : ∀ m ∈ Adapter.twoChannels.channels, m.state = .closed := by decide
  have stopped : left.1.state = .stopped := by decide
  have ok : asked.verdict = .ok () := by decide
  have led : Managed.Led hooks (.new "adapter" Adapter.twoChannels) left.1 :=
    Managed.Led.refl.performAll _ _
  obtain ⟨_, _, same⟩ := (hooks_initPassOn (Live.behaviour Adapter.everyEighth 1)).2.2.2
    "adapter" Adapter.twoChannels new left.1 led (.fire .init) left.2 rfl ok
  exact ⟨new, stopped, ok, same stopped, by decide⟩

/-- A list of one service is started, stopped and initialised. The last command succeeds, and the
service stays stopped. -/
theorem Service.Chain.init_leaves_stopped :
    let hooks := Chain.hooks Adapter.everyEighth
    let list := Chain.new Adapter.everyEighth "list" [()]
    let left := Managed.performAll hooks [.request .start, .fire .stop] (.new "list" list) 0
    let asked := left.1.perform hooks (.fire .init) left.2
    asked.verdict = .ok () ∧ asked.value.state = .initialised ∧
      asked.value.component.services.map Managed.state = [.stopped] ∧
      ¬ ∀ m ∈ asked.value.component.services, m.state = .initialised := by
  decide

end IntegrationHost
