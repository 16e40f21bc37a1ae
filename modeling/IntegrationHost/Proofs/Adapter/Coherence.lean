import IntegrationHost.Adapter.Live
import IntegrationHost.Proofs.Service.Coherence
import Mathlib.Data.List.TakeDrop

/-!
# Coherence of adapters

An adapter with its channels, workflows and services is a tree of components, each with a state of
its own. From a new tree, commands to the adapter and messages to its workflows lead to coherent
trees only: every component goes along with the one that drives it, whichever hooks of services fail
and wherever in the tree. A channel that does not start with its adapter is never started.
-/

namespace IntegrationHost

open Lifecycle Service

variable {ω C : Type} {b : Behaviour ω C} {P : State → C → Prop} {state : State}

/-! ## Workflows -/

namespace Workflow

/-- The services go along with their workflow. -/
def Coherent (P : State → C → Prop) (state : State) (w : Workflow C) : Prop :=
  w.services.InStep P state

/-- A new workflow has new services. -/
def Fresh (fresh : C → Prop) (w : Workflow C) : Prop :=
  w.services.Fresh fresh

theorem fresh_new {fresh : C → Prop} {services : List C} (new : ∀ s ∈ services, fresh s)
    (channelId uniqueId : String) :
    (Workflow.new b channelId uniqueId services).Fresh fresh :=
  Members.fresh_map new

theorem hooks_keeps (keeps : b.Keeps P) : (hooks b).Keeps State.accepts (Coherent P) :=
  (Members.hooks_keeps_inStep keeps.hooks).ofPart fun _ _ => rfl

theorem process_coherent (keeps : b.Keeps P) {w : Workflow C} (coherent : w.Coherent P state)
    (message : Message) (world : ω) :
    (w.process b message world).value.1.Coherent P state :=
  processAll_inStep keeps coherent (w.mark message) world

end Workflow

/-! ## Channels -/

namespace Channel

/-- The workflows go along with their channel, and their services with them. -/
def Coherent (P : State → C → Prop) (state : State) (c : Channel C) : Prop :=
  c.workflows.InStep (Workflow.Coherent P) state

/-- A new channel has new workflows. -/
def Fresh (fresh : C → Prop) (c : Channel C) : Prop :=
  c.workflows.Fresh (Workflow.Fresh fresh)

theorem hooks_keeps (keeps : b.Keeps P) : (hooks b).Keeps State.accepts (Coherent P) :=
  (Members.hooks_keeps_inStep (Workflow.hooks_keeps keeps).expected).ofPart fun _ _ => rfl

/-- No event changes whether a channel starts with its adapter. -/
theorem hooks_fixes (b : Behaviour ω C) : (hooks b).Fixes autoStart :=
  fun _ _ _ => rfl

end Channel

/-! ## Adapters -/

namespace Adapter

/-- The channels go along with their adapter, those that do not start with it only as far as
initialised; their workflows and services go along with them. -/
def Coherent (P : State → C → Prop) (state : State) (a : Adapter C) : Prop :=
  a.channels.Coherent Channel.autoStart (Channel.Coherent P) state

/-- A new adapter has new channels. -/
def Fresh (fresh : C → Prop) (a : Adapter C) : Prop :=
  a.channels.Fresh (Channel.Fresh fresh)

/-- A new adapter is coherent while it is closed. -/
theorem Fresh.coherent {fresh : C → Prop} {a : Adapter C} (new : a.Fresh fresh)
    (fits : ∀ c, fresh c → P .closed c) :
    a.Coherent P .closed := by
  have workflowFits : ∀ w : Workflow C, w.Fresh fresh → w.Coherent P .closed :=
    fun w new => Members.Fresh.coherent new fits _
  have channelFits : ∀ c : Channel C, c.Fresh fresh → c.Coherent P .closed :=
    fun c new => Members.Fresh.coherent new workflowFits _
  exact Members.Fresh.coherent new channelFits _

theorem hooks_keeps (keeps : b.Keeps P) : (hooks b).Keeps State.accepts (Coherent P) := by
  have channels := (Channel.hooks_keeps keeps).expected
  exact (Members.hooks_keeps channels (Channel.hooks_fixes b)).ofPart fun _ _ => rfl

/-! ## Messages -/

/-- Where a workflow is found it is one of the members. -/
theorem eq_of_started? {D : Type} {name : String} {members before behind : Members D}
    {m : Managed D} (found : started? name members = some (before, m, behind)) :
    members = before ++ m :: behind := by
  unfold started? at found
  rw [List.span_eq_takeWhile_dropWhile] at found
  have parts := List.takeWhile_append_dropWhile (p := fun m => m.name != name) (l := members)
  generalize members.takeWhile (fun m => m.name != name) = front at found parts
  generalize members.dropWhile (fun m => m.name != name) = back at found parts
  cases back with
  | nil => cases found
  | cons first rest =>
      simp only [Option.ite_none_right_eq_some, Option.some.injEq, Prod.mk.injEq] at found
      obtain ⟨_, rfl, rfl, rfl⟩ := found
      exact parts.symm

/-- A message goes on behind the first channel, or to one of its workflows. -/
theorem route_cons_cases {name : String} {message : Message} {world : ω}
    {m : Managed (Channel C)} {rest : Members (Channel C)}
    {done : Attempt Fault ω (Members (Channel C) × Message)}
    (routed : route b name message world (m :: rest) = some done) :
    (∃ further, route b name message world rest = some further ∧
        done.value.1 = m :: further.value.1) ∨
      ∃ before workflow behind, m.component.workflows = before ++ workflow :: behind ∧
        done.value.1 = m.withComponent { m.component with
          workflows := before ++ workflow.withComponent
            (workflow.component.process b message world).value.1 :: behind } :: rest := by
  cases found : if m.state = .started then started? name m.component.workflows else none with
  | none =>
      simp only [route, found, Option.map_eq_some_iff] at routed
      obtain ⟨further, routed, rfl⟩ := routed
      exact Or.inl ⟨further, routed, rfl⟩
  | some parts =>
      rcases parts with ⟨before, workflow, behind⟩
      simp only [route, found, Option.some.injEq] at routed
      subst routed
      refine Or.inr ⟨before, workflow, behind, ?_, rfl⟩
      split at found
      · exact eq_of_started? found
      · cases found

/-- A message that finds a workflow changes no state. -/
theorem route_coherent (keeps : b.Keeps P) {name : String} {message : Message} {world : ω}
    {members : Members (Channel C)}
    {done : Attempt Fault ω (Members (Channel C) × Message)}
    (coherent : members.Coherent Channel.autoStart (Channel.Coherent P) state)
    (routed : route b name message world members = some done) :
    done.value.1.Coherent Channel.autoStart (Channel.Coherent P) state := by
  induction members generalizing done with
  | nil => cases routed
  | cons m rest ih =>
      obtain ⟨⟨suits, fits⟩, others⟩ := List.forall_mem_cons.mp coherent
      rcases route_cons_cases routed with
        ⟨further, goesOn, left⟩ | ⟨before, workflow, behind, workflows_eq, left⟩
      · rw [left]
        exact List.forall_mem_cons.mpr ⟨⟨suits, fits⟩, ih others goesOn⟩
      · rw [left]
        have inStep : m.component.workflows.InStep (Workflow.Coherent P) m.state := fits
        rw [workflows_eq] at inStep
        obtain ⟨front, atWork, back⟩ :
            (∀ w ∈ before, w.Suits (fun _ => true) (Workflow.Coherent P) m.state) ∧
              workflow.Suits (fun _ => true) (Workflow.Coherent P) m.state ∧
              ∀ w ∈ behind, w.Suits (fun _ => true) (Workflow.Coherent P) m.state := by
          rw [← List.forall_mem_cons, ← List.forall_mem_append]
          exact inStep
        have processed := Workflow.process_coherent keeps atWork.2 message world
        refine List.forall_mem_cons.mpr ⟨⟨suits, ?_⟩, others⟩
        exact List.forall_mem_append.mpr
          ⟨front, List.forall_mem_cons.mpr ⟨⟨atWork.1, processed⟩, back⟩⟩

theorem process_coherent (keeps : b.Keeps P) {a : Adapter C} (coherent : a.Coherent P state)
    (workflow : String) (message : Message) (world : ω) :
    (a.process b workflow message world).value.1.Coherent P state := by
  unfold process
  cases routed : route b workflow message world a.channels with
  | none => exact coherent
  | some done => exact route_coherent keeps coherent routed

/-! ## The life of an adapter -/

/-- What an adapter may be asked to do. -/
inductive Deed where
  /-- Carry out a command. -/
  | obey (command : Command)
  /-- Process a message in the workflow of a name. -/
  | process (workflow : String) (message : Message)

/-- Do a deed, whatever comes of it. -/
def act (b : Behaviour ω C) : Deed → Managed (Adapter C) → ω → Managed (Adapter C) × ω
  | .obey command, root, world => (root.perform (hooks b) command world).left
  | .process workflow message, root, world =>
      let done := root.component.process b workflow message world
      (root.withComponent done.value.1, done.world)

/-- Do deeds one after the other. -/
def actAll (b : Behaviour ω C) : List Deed → Managed (Adapter C) → ω → Managed (Adapter C) × ω
  | [], root, world => (root, world)
  | first :: rest, root, world =>
      let left := act b first root world
      actAll b rest left.1 left.2

/-- What commands and messages keep, one deed keeps. -/
theorem act_fits {Q : State → Adapter C → Prop} (keeps : (hooks b).Keeps State.accepts Q)
    (served : ∀ state a workflow message world, Q state a →
      Q state (a.process b workflow message world).value.1)
    (deed : Deed) {root : Managed (Adapter C)} (fits : root.Fits Q) (world : ω) :
    (act b deed root world).1.Fits Q := by
  cases deed with
  | obey command => exact fits.perform keeps command world
  | process workflow message => exact served root.state root.component workflow message world fits

/-- What commands and messages keep, a whole life keeps. -/
theorem actAll_fits {Q : State → Adapter C → Prop} (keeps : (hooks b).Keeps State.accepts Q)
    (served : ∀ state a workflow message world, Q state a →
      Q state (a.process b workflow message world).value.1)
    (deeds : List Deed) {root : Managed (Adapter C)} (fits : root.Fits Q) (world : ω) :
    (actAll b deeds root world).1.Fits Q := by
  induction deeds generalizing root world with
  | nil => exact fits
  | cons first rest ih => exact ih (act_fits keeps served first fits world) _

/-- Every life keeps an adapter coherent. -/
theorem actAll_coherent (keeps : b.Keeps P) (deeds : List Deed) {root : Managed (Adapter C)}
    (coherent : root.Fits (Coherent P)) (world : ω) :
    (actAll b deeds root world).1.Fits (Coherent P) :=
  actAll_fits (hooks_keeps keeps) (fun _ _ workflow message world coherent =>
    process_coherent keeps coherent workflow message world) deeds coherent world

/-- Whatever a new adapter is asked to do and whichever hooks of its services fail: all components
go along with the one that drives them, and no channel that does not start with the adapter is
started. -/
theorem actAll_keeps_coherence {L : Type} (leaf : Behaviour ω L) (level : Nat) (name : String)
    {a : Adapter (Live ω L level)} (new : a.Fresh (Live.Fresh level)) (deeds : List Deed)
    (world : ω) :
    let root := (actAll (Live.behaviour leaf level) deeds (.new name a) world).1
    root.component.Coherent (Live.Coherent level) root.state ∧
      ∀ channel ∈ root.component.channels, channel.component.autoStart = false →
        channel.state ≠ .started := by
  intro root
  have start : (Managed.new name a).Fits (Coherent (Live.Coherent level)) :=
    new.coherent fun _ => Live.Fresh.coherent
  have coherent := actAll_coherent (Live.behaviour_keeps leaf level) deeds start world
  refine ⟨coherent, ?_⟩
  intro channel isChannel notPicked
  have suits := (coherent channel isChannel).1
  rw [notPicked] at suits
  exact suits.ne_started

/-- Services whose hooks fail at every eighth call, over all services together. -/
def everyEighth : Behaviour Nat Unit where
  hooks := ⟨fun _ s calls =>
    if calls % 8 = 7 then .refused (.reported "eighth call") s (calls + 1) else .done s (calls + 1)⟩
  uniqueId _ := "service"
  process s message calls := .done (s, message) calls
  isValid _ := true

/-- A list of services and a single one. -/
def twoServices : List (Live Nat Unit 1) :=
  [Layer.chain ⟨"list", ["a", "b"].map fun name => .new name ()⟩, Layer.single (.leaf ())]

/-- An adapter with one channel that starts with it and one that does not. -/
def twoChannels : Adapter (Live Nat Unit 1) :=
  let workflow := Workflow.new (Live.behaviour everyEighth 1) "channel" "workflow" twoServices
  ⟨"adapter", [
    .new "auto" ⟨"auto", true, [.new "workflow" workflow]⟩,
    .new "manual" ⟨"manual", false, [.new "workflow" workflow]⟩]⟩

theorem twoChannels_fresh : twoChannels.Fresh (Live.Fresh 1) := by
  have workflowNew :
      (Workflow.new (Live.behaviour everyEighth 1) "channel" "workflow" twoServices).Fresh
        (Live.Fresh 1) := by
    apply Workflow.fresh_new
    refine List.forall_mem_cons.mpr ⟨?_, List.forall_mem_singleton.mpr trivial⟩
    exact Members.fresh_map fun _ _ => trivial
  simp [twoChannels, Fresh, Channel.Fresh, Members.Fresh, Managed.new, workflowNew]

/-- The first attempt to start two channels fails midway, and the second one starts the channel that
is to be started. -/
theorem actAll_keeps_coherence_twoChannels :
    let left :=
      actAll (Live.behaviour everyEighth 1) [.obey (.request .start), .obey (.moveTo .started)]
        (.new "adapter" twoChannels) 0
    twoChannels.Fresh (Live.Fresh 1) ∧
      left.1.component.channels.map Managed.state = [.started, .initialised] ∧
      left.1.component.Coherent (Live.Coherent 1) left.1.state :=
  ⟨twoChannels_fresh, by decide,
    (actAll_keeps_coherence everyEighth 1 "adapter" twoChannels_fresh _ 0).1⟩

end Adapter

/-- An adapter made from a definition is new. -/
theorem AdapterDefinition.instantiate_fresh [Journal ω] (d : AdapterDefinition) :
    (d.instantiate (ω := ω)).Fresh (Live.Fresh d.rank) := by
  refine Members.fresh_map fun channel _ => ?_
  refine Members.fresh_map fun workflow _ => Workflow.fresh_new ?_ _ _
  intro service isService
  obtain ⟨s, _, rfl⟩ := List.mem_map.mp isService
  exact Definition.instantiate_fresh d.rank s.1 _

end IntegrationHost
