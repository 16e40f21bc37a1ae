import IntegrationHost.Proofs.Adapter.Coherence
import IntegrationHost.Proofs.Service.Projection

/-!
# Adapters in less detail

An adapter of services with more detail to them does what an adapter of the services themselves
does, at each command and with each message, and so throughout its life.
-/

namespace IntegrationHost

open Lifecycle Service

variable {ω C D : Type} {f : C → D} {fine : Behaviour ω C} {coarse : Behaviour ω D}

/-! ## Workflows -/

namespace Workflow

/-- A workflow in less detail. -/
def map (f : C → D) (w : Workflow C) : Workflow D :=
  ⟨w.uniqueId, w.channelId, w.services.map (Managed.map f)⟩

theorem map_leftInverse {g : D → C} (inverse : Function.LeftInverse g f) :
    Function.LeftInverse (map g) (map f) := by
  intro w
  simp only [map, Members.map_leftInverse inverse w.services]

theorem hooks_projection (projection : Behaviour.Projection f fine coarse) :
    Hooks.Projection (map f) (hooks fine) (hooks coarse) :=
  (Members.hooks_projection projection.hooks fun _ => rfl).ofPart (fun _ => rfl) fun _ _ => rfl

theorem process_map (projection : Behaviour.Projection f fine coarse) (w : Workflow C)
    (message : Message) (world : ω) :
    (w.map f).process coarse message world =
      (w.process fine message world).map fun left => (left.1.map f, left.2) := by
  have processed := processAll_map projection w.services (w.mark message) world
  simp only [process, map, mark] at processed ⊢
  rw [processed]
  rfl

end Workflow

/-! ## Channels -/

namespace Channel

/-- A channel in less detail. -/
def map (f : C → D) (c : Channel C) : Channel D :=
  ⟨c.uniqueId, c.autoStart, c.workflows.map (Managed.map (Workflow.map f))⟩

theorem map_leftInverse {g : D → C} (inverse : Function.LeftInverse g f) :
    Function.LeftInverse (map g) (map f) := by
  intro c
  simp only [map, Members.map_leftInverse (Workflow.map_leftInverse inverse) c.workflows]

theorem hooks_projection (projection : Behaviour.Projection f fine coarse) :
    Hooks.Projection (map f) (hooks fine) (hooks coarse) :=
  (Members.hooks_projection (Workflow.hooks_projection projection) fun _ => rfl).ofPart
    (fun _ => rfl) fun _ _ => rfl

end Channel

/-! ## Adapters -/

namespace Adapter

/-- An adapter in less detail. -/
def map (f : C → D) (a : Adapter C) : Adapter D :=
  ⟨a.uniqueId, a.channels.map (Managed.map (Channel.map f))⟩

theorem map_leftInverse {g : D → C} (inverse : Function.LeftInverse g f) :
    Function.LeftInverse (map g) (map f) := by
  intro a
  simp only [map, Members.map_leftInverse (Channel.map_leftInverse inverse) a.channels]

theorem hooks_projection (projection : Behaviour.Projection f fine coarse) :
    Hooks.Projection (map f) (hooks fine) (hooks coarse) :=
  (Members.hooks_projection (Channel.hooks_projection projection) fun _ => rfl).ofPart
    (fun _ => rfl) fun _ _ => rfl

/-- A workflow is found in the same place. -/
theorem started?_map {W V : Type} (g : W → V) (name : String) (members : Members W) :
    started? name (members.map (Managed.map g)) =
      (started? name members).map fun found =>
        (found.1.map (Managed.map g), found.2.1.map g, found.2.2.map (Managed.map g)) := by
  unfold started?
  rw [List.span_eq_takeWhile_dropWhile, List.span_eq_takeWhile_dropWhile, List.takeWhile_map,
    List.dropWhile_map]
  have sameName : (fun m : Managed V => m.name != name) ∘ Managed.map g =
      fun m => m.name != name := rfl
  rw [sameName]
  cases members.dropWhile fun m => m.name != name with
  | nil => rfl
  | cons first rest =>
      by_cases started : first.state = .started
      · simp [Managed.map, Managed.withComponent, started]
      · simp [Managed.map, Managed.withComponent, started]

theorem route_map (projection : Behaviour.Projection f fine coarse) (name : String)
    (message : Message) (world : ω) (members : Members (Channel C)) :
    route coarse name message world (members.map (Managed.map (Channel.map f))) =
      (route fine name message world members).map fun done =>
        done.map fun left => (left.1.map (Managed.map (Channel.map f)), left.2) := by
  induction members with
  | nil => rfl
  | cons first rest ih =>
      have found : (if (first.map (Channel.map f)).state = .started then
            started? name (first.map (Channel.map f)).component.workflows
          else none) =
          (if first.state = .started then started? name first.component.workflows else none).map
            fun found =>
              (found.1.map (Managed.map (Workflow.map f)), found.2.1.map (Workflow.map f),
                found.2.2.map (Managed.map (Workflow.map f))) := by
        by_cases started : first.state = .started
        · simp only [Managed.map, Managed.withComponent, started, if_true]
          exact started?_map (Workflow.map f) name first.component.workflows
        · simp only [Managed.map, Managed.withComponent, started, if_false, Option.map_none]
      simp only [List.map_cons, route, found]
      cases if first.state = .started then started? name first.component.workflows else none with
      | none =>
          simp only [Option.map_none, ih, Option.map_map]
          rfl
      | some parts =>
          have processed := Workflow.process_map projection parts.2.1.component message world
          simp only [Option.map_some, Managed.map, Managed.withComponent] at processed ⊢
          rw [processed]
          simp only [Attempt.map, List.map_cons, List.map_append, Channel.map, Managed.map,
            Managed.withComponent]

theorem process_map (projection : Behaviour.Projection f fine coarse) (a : Adapter C)
    (workflow : String) (message : Message) (world : ω) :
    (a.map f).process coarse workflow message world =
      (a.process fine workflow message world).map fun left => (left.1.map f, left.2) := by
  simp only [process, map, route_map projection]
  cases route fine workflow message world a.channels <;> rfl

theorem act_map (projection : Behaviour.Projection f fine coarse) (deed : Deed)
    (root : Managed (Adapter C)) (world : ω) :
    act coarse deed (root.map (map f)) world =
      ((act fine deed root world).1.map (map f), (act fine deed root world).2) := by
  cases deed with
  | obey command =>
      simp only [act, Managed.perform_map (hooks_projection projection)]
      rfl
  | process workflow message =>
      have processed := process_map projection root.component workflow message world
      simp only [act, Managed.map, Managed.withComponent, processed]
      rfl

/-- The life of an adapter in less detail is its life with detail left out afterwards. -/
theorem actAll_map (projection : Behaviour.Projection f fine coarse) (deeds : List Deed)
    (root : Managed (Adapter C)) (world : ω) :
    actAll coarse deeds (root.map (map f)) world =
      ((actAll fine deeds root world).1.map (map f), (actAll fine deeds root world).2) := by
  induction deeds generalizing root world with
  | nil => rfl
  | cons first rest ih =>
      simp only [actAll, act_map projection]
      exact ih _ _

end Adapter

end IntegrationHost
