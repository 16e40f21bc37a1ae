import IntegrationHost.Proofs.Lifecycle.Life

/-!
# Components that do alike

Two kinds of components, each in surroundings of its own, do alike when related components stay
related at every event, with the same verdicts, and when the surroundings of one are seen in those
of the other. Managed components then do alike as well, through requests, commands and whole lives.
-/

namespace IntegrationHost

variable {ε ω ν α β : Type}

/-- Two attempts have the same verdict and leave what is related. -/
structure Attempt.Alike (R : α → β → Prop) (h : ω → ν) (fine : Attempt ε ω α)
    (coarse : Attempt ε ν β) : Prop where
  verdict : coarse.verdict = fine.verdict
  value : R fine.value coarse.value
  world : coarse.world = h fine.world

/-- An attempt is known from one that it is alike to when what it leaves is. -/
theorem Attempt.Alike.eq {R : α → β → Prop} {h : ω → ν} {fine : Attempt ε ω α}
    {coarse : Attempt ε ν β} (alike : fine.Alike R h coarse) {f : α → β}
    (reads : ∀ a b, R a b → b = f a) :
    coarse = ⟨fine.verdict, f fine.value, h fine.world⟩ := by
  rcases coarse with ⟨verdict, value, world⟩
  obtain ⟨verdict_eq, related, world_eq⟩ := alike
  dsimp only at verdict_eq related world_eq
  rw [verdict_eq, reads _ _ related, world_eq]

namespace Lifecycle

variable {C D M : Type}

/-- The hooks of related components do alike. -/
def Hooks.Simulates (R : C → D → Prop) (h : ω → ν) (fine : Hooks ω C) (coarse : Hooks ν D) : Prop :=
  ∀ event component other world, R component other →
    (fine.run event component world).Alike R h (coarse.run event other (h world))

namespace Managed

/-- Managed components of the same name and state that are related. -/
structure Related (R : C → D → Prop) (m : Managed C) (other : Managed D) : Prop where
  name : other.name = m.name
  state : other.state = m.state
  component : R m.component other.component

section

variable {R : C → D → Prop} {h : ω → ν} {fine : Hooks ω C} {coarse : Hooks ν D}
  (simulates : Hooks.Simulates R h fine coarse) {m : Managed C} {other : Managed D}

include simulates

theorem fire_alike (related : m.Related R other) (event : Event) (world : ω) :
    (m.fire fine event world).Alike (Related R) h (other.fire coarse event (h world)) := by
  have ran := simulates event m.component other.component world related.component
  unfold fire
  rw [related.state]
  generalize fine.run event m.component world = left at ran ⊢
  generalize coarse.run event other.component (h world) = otherLeft at ran ⊢
  rcases left with ⟨verdict, value, left⟩
  rcases otherLeft with ⟨otherVerdict, otherValue, otherLeft⟩
  obtain ⟨verdict_eq, value_related, world_eq⟩ := ran
  dsimp only at verdict_eq value_related world_eq
  subst verdict_eq world_eq
  by_cases legal : m.state.canMoveTo event.target = true
  · rw [if_pos legal, if_pos legal]
    cases event.canFail with
    | false => exact ⟨rfl, ⟨related.name, rfl, value_related⟩, rfl⟩
    | true =>
        cases otherVerdict with
        | ok _ => exact ⟨rfl, ⟨related.name, rfl, value_related⟩, rfl⟩
        | error reason =>
            refine ⟨?_, ⟨related.name, rfl, value_related⟩, rfl⟩
            simp only [Attempt.refused, failure, related.name]
  · rw [if_neg legal, if_neg legal]
    refine ⟨?_, related, rfl⟩
    simp only [Attempt.refused, related.name]

theorem fireAll_alike (related : m.Related R other) (events : List Event) (world : ω) :
    (m.fireAll fine events world).Alike (Related R) h (other.fireAll coarse events (h world)) := by
  induction events generalizing m other world with
  | nil => exact ⟨rfl, related, rfl⟩
  | cons event rest ih =>
      have first := fire_alike simulates related event world
      simp only [fireAll, Attempt.andThen]
      rw [first.verdict, first.world]
      cases (m.fire fine event world).verdict with
      | ok _ => exact ih first.value _
      | error error => exact first

theorem request_alike (related : m.Related R other) (event : Event) (world : ω) :
    (m.request fine event world).Alike (Related R) h (other.request coarse event (h world)) := by
  unfold request
  rw [related.state]
  exact fireAll_alike simulates related _ world

theorem perform_alike (related : m.Related R other) (command : Command) (world : ω) :
    (m.perform fine command world).Alike (Related R) h
      (other.perform coarse command (h world)) := by
  cases command with
  | fire event => exact fire_alike simulates related event world
  | request event => exact request_alike simulates related event world
  | moveTo target =>
      simp only [perform, moveTo]
      rw [related.state]
      exact fireAll_alike simulates related _ world

/-- Components that do alike at events and at work live alike. -/
theorem live_alike {work : M → C → ω → C × ω} {otherWork : M → D → ν → D × ν}
    (works : ∀ matter component otherComponent world, R component otherComponent →
      R (work matter component world).1 (otherWork matter otherComponent (h world)).1 ∧
        (otherWork matter otherComponent (h world)).2 = h (work matter component world).2)
    (related : m.Related R other) (deeds : List (Deed M)) (world : ω) :
    (m.live fine work deeds world).1.Related R (other.live coarse otherWork deeds (h world)).1 ∧
      (other.live coarse otherWork deeds (h world)).2 = h (m.live fine work deeds world).2 := by
  induction deeds generalizing m other world with
  | nil => exact ⟨related, rfl⟩
  | cons first rest ih =>
      cases first with
      | obey command =>
          have performed := perform_alike simulates related command world
          simp only [live, act, Attempt.left]
          rw [performed.world]
          exact ih performed.value _
      | work matter =>
          obtain ⟨stillRelated, left⟩ :=
            works matter m.component other.component world related.component
          have after : (m.withComponent (work matter m.component world).1).Related R
              (other.withComponent (otherWork matter other.component (h world)).1) :=
            ⟨related.name, related.state, stillRelated⟩
          simp only [live, act]
          rw [left]
          exact ih after _

end

end Managed

end Lifecycle

end IntegrationHost
