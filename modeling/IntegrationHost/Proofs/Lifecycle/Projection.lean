import IntegrationHost.Lifecycle.Members
import IntegrationHost.Proofs.Lifecycle.Simulation
import Mathlib.Data.List.Basic

/-!
# Components in less detail

Two kinds of components whose hooks do the same, one of them with more detail to it, also do the
same when they are managed, alone or together. So what is taken down about a component beside what
it does has no effect on any of its events.
-/

namespace IntegrationHost.Lifecycle

variable {ω C D : Type}

/-- Each hook of `coarse` does what that of `fine` does, with the detail left out by `f`. -/
def Hooks.Projection (f : C → D) (fine : Hooks ω C) (coarse : Hooks ω D) : Prop :=
  ∀ event component world,
    coarse.run event (f component) world = (fine.run event component world).map f

/-- A managed component in less detail. -/
def Managed.map (f : C → D) (m : Managed C) : Managed D :=
  m.withComponent (f m.component)

/-- What is undone for components is undone for managed ones. -/
theorem Managed.map_leftInverse {f : C → D} {g : D → C} (inverse : Function.LeftInverse g f) :
    Function.LeftInverse (Managed.map g) (Managed.map f) := by
  intro m
  simp only [Managed.map, Managed.withComponent, inverse m.component]

theorem Members.map_leftInverse {f : C → D} {g : D → C} (inverse : Function.LeftInverse g f) :
    Function.LeftInverse (List.map (Managed.map g)) (List.map (Managed.map f)) :=
  (Managed.map_leftInverse inverse).list_map

section

variable {f : C → D} {fine : Hooks ω C} {coarse : Hooks ω D}
  (projection : Hooks.Projection f fine coarse)

include projection

/-- The projection of a part is one of the whole that passes its events on to the part. -/
theorem Hooks.Projection.ofPart {W V : Type} {g : W → V} {part : W → C} {put : C → W → W}
    {coarsePart : V → D} {coarsePut : D → V → V} (part_map : ∀ w, coarsePart (g w) = f (part w))
    (put_map : ∀ c w, coarsePut (f c) (g w) = g (put c w)) :
    Hooks.Projection g (Hooks.ofPart part put fine) (Hooks.ofPart coarsePart coarsePut coarse) := by
  intro event whole world
  simp only [Hooks.ofPart, part_map, projection event, Attempt.map, put_map]

/-- Components and what is left of them without the detail do alike. -/
theorem Hooks.Projection.simulates :
    Hooks.Simulates (fun component other => other = f component) id fine coarse := by
  intro event component _ world rfl
  rw [projection event]
  exact ⟨rfl, rfl, rfl⟩

namespace Managed

omit projection in
theorem related_map (f : C → D) (m : Managed C) :
    m.Related (fun component other => other = f component) (m.map f) :=
  ⟨rfl, rfl, rfl⟩

omit projection in
theorem Related.eq_map (m : Managed C) (other : Managed D)
    (related : m.Related (fun component other => other = f component) other) :
    other = m.map f := by
  rcases other with ⟨name, state, component⟩
  obtain ⟨rfl, rfl, rfl⟩ := related
  rfl

theorem request_map (event : Event) (m : Managed C) (world : ω) :
    (m.map f).request coarse event world = (m.request fine event world).map (Managed.map f) :=
  (request_alike projection.simulates (related_map f m) event world).eq Related.eq_map

theorem perform_map (command : Command) (m : Managed C) (world : ω) :
    (m.map f).perform coarse command world =
      (m.perform fine command world).map (Managed.map f) :=
  (perform_alike projection.simulates (related_map f m) command world).eq Related.eq_map

end Managed

namespace Members

theorem requestEach_map (event : Event) (members : Members C) (world : ω) :
    requestEach coarse event (members.map (Managed.map f)) world =
      ((requestEach fine event members world).1.map (Managed.map f),
        (requestEach fine event members world).2) := by
  induction members generalizing world with
  | nil => rfl
  | cons first rest ih =>
      simp only [List.map_cons, requestEach, Managed.request_map projection, Attempt.map, ih]

theorem requestBackwards_map (event : Event) (members : Members C) (world : ω) :
    requestBackwards coarse event (members.map (Managed.map f)) world =
      ((requestBackwards fine event members world).1.map (Managed.map f),
        (requestBackwards fine event members world).2) := by
  induction members generalizing world with
  | nil => rfl
  | cons first rest ih =>
      simp only [List.map_cons, requestBackwards, Managed.request_map projection, Attempt.map, ih]

theorem initFrom_map (before members : Members C) (world : ω) :
    initFrom coarse (before.map (Managed.map f)) (members.map (Managed.map f)) world =
      (initFrom fine before members world).map (List.map (Managed.map f)) := by
  induction members generalizing before world with
  | nil => rfl
  | cons first rest ih =>
      simp only [List.map_cons, initFrom, Managed.request_map projection, Attempt.map]
      cases (first.request fine .init world).verdict with
      | ok _ =>
          have next := ih (before ++ [(first.request fine .init world).value])
            (first.request fine .init world).world
          rw [List.map_append] at next
          exact next
      | error error =>
          simp [requestEach_map projection, Attempt.refused]

/-- A visited member in less detail. -/
def Visited.map (f : C → D) (v : Visited C) : Visited D :=
  ⟨v.member.map f, v.startedNow⟩

theorem undoStarts_map (before : List (Visited C)) (world : ω) :
    undoStarts coarse (before.map (Visited.map f)) world =
      ((undoStarts fine before world).1.map (Managed.map f), (undoStarts fine before world).2) := by
  induction before generalizing world with
  | nil => rfl
  | cons first rest ih =>
      simp only [List.map_cons, undoStarts, Visited.map, Managed.request_map projection,
        Attempt.map, ih]
      cases first.startedNow <;> rfl

theorem startFrom_map {accept : Managed C → Bool} {coarseAccept : Managed D → Bool}
    (accept_map : ∀ m, coarseAccept (m.map f) = accept m) (before : List (Visited C))
    (members : Members C) (world : ω) :
    startFrom coarse coarseAccept (before.map (Visited.map f)) (members.map (Managed.map f)) world =
      (startFrom fine accept before members world).map (List.map (Managed.map f)) := by
  induction members generalizing before world with
  | nil => simp [startFrom, Attempt.map, Attempt.done, Visited.map, Function.comp_def]
  | cons first rest ih =>
      simp only [List.map_cons, startFrom, accept_map, Managed.request_map projection, Attempt.map]
      by_cases accepted : accept first = true
      · rw [if_pos accepted, if_pos accepted]
        cases (first.request fine .start world).verdict with
        | ok _ =>
            have next := ih
              (before ++ [⟨(first.request fine .start world).value, first.state != .started⟩])
              (first.request fine .start world).world
            rw [List.map_append] at next
            exact next
        | error error => simp [undoStarts_map projection, Attempt.refused]
      · rw [if_neg accepted, if_neg accepted]
        have next := ih (before ++ [⟨first, false⟩]) world
        rw [List.map_append] at next
        exact next

/-- The projection of members is one of their parent. -/
theorem hooks_projection {accept : Managed C → Bool} {coarseAccept : Managed D → Bool}
    (accept_map : ∀ m, coarseAccept (m.map f) = accept m) :
    Hooks.Projection (List.map (Managed.map f)) (Members.hooks fine accept)
      (Members.hooks coarse coarseAccept) := by
  intro event members world
  cases event with
  | init => exact initFrom_map projection [] members world
  | start => exact startFrom_map projection accept_map [] members world
  | stop =>
      simp only [Members.hooks, stopAll, requestBackwards_map projection]
      rfl
  | close =>
      simp only [Members.hooks, closeAll, requestBackwards_map projection]
      rfl

end Members

end

end IntegrationHost.Lifecycle
