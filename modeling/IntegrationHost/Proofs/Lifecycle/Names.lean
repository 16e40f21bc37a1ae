import IntegrationHost.Lifecycle.Members
import IntegrationHost.Proofs.Lifecycle.Requests
import Mathlib.Data.List.Basic

/-!
# Names of members

Whatever is asked of a parent, also when it fails midway and is rolled back, its members keep their
order and everything that requests leave alone, such as their names. So a member is found under its
name at any time.
-/

namespace IntegrationHost.Lifecycle

variable {ω C : Type} (hooks : Hooks ω C)

namespace Managed

theorem fire_name (event : Event) (m : Managed C) (world : ω) :
    (m.fire hooks event world).value.name = m.name := by
  rcases fire_cases hooks event m world with ⟨_, fired⟩ | ⟨_, _, _, _, fired⟩ | ⟨_, _, fired⟩
  · rw [fired]
    rfl
  · rw [fired]
    rfl
  · rw [fired]
    rfl

theorem fireAll_name (events : List Event) (m : Managed C) (world : ω) :
    (m.fireAll hooks events world).value.name = m.name := by
  induction events generalizing m world with
  | nil => rfl
  | cons event rest ih =>
      cases fired : (m.fire hooks event world).verdict with
      | ok _ =>
          rw [fireAll_cons_of_ok fired, ih]
          exact fire_name hooks event m world
      | error error =>
          simp only [fireAll, Attempt.andThen, fired]
          exact fire_name hooks event m world

theorem request_name (event : Event) (m : Managed C) (world : ω) :
    (m.request hooks event world).value.name = m.name :=
  fireAll_name hooks _ m world

end Managed

namespace Members

/-! ## What requests leave alone -/

section

variable {α : Type} {read : Managed C → α}
  (fixed : ∀ event m world, read (m.request hooks event world).value = read m)

include fixed

theorem map_requestEach (event : Event) (members : Members C) (world : ω) :
    (requestEach hooks event members world).1.map read = members.map read := by
  induction members generalizing world with
  | nil => rfl
  | cons m rest ih => exact congrArg₂ List.cons (fixed event m world) (ih _)

theorem map_requestBackwards (event : Event) (members : Members C) (world : ω) :
    (requestBackwards hooks event members world).1.map read = members.map read := by
  induction members generalizing world with
  | nil => rfl
  | cons m rest ih => exact congrArg₂ List.cons (fixed event m _) (ih world)

theorem map_undoStarts (visited : List (Visited C)) (world : ω) :
    (undoStarts hooks visited world).1.map read = (visited.map Visited.member).map read := by
  induction visited generalizing world with
  | nil => rfl
  | cons v rest ih =>
      unfold undoStarts
      split
      · exact congrArg₂ List.cons (fixed .stop v.member world) (ih _)
      · exact congrArg (read v.member :: ·) (ih world)

theorem map_initFrom (before members : Members C) (world : ω) :
    (initFrom hooks before members world).value.map read = before.map read ++ members.map read := by
  induction members generalizing before world with
  | nil => exact (List.append_nil _).symm
  | cons m rest ih =>
      have asked := fixed .init m world
      cases verdict : (m.request hooks .init world).verdict with
      | ok _ =>
          simp only [initFrom, verdict]
          rw [ih]
          simp only [List.map_append, List.map_cons, List.map_nil, List.append_assoc,
            List.singleton_append, asked]
      | error error =>
          have closed :=
            map_requestEach hooks fixed .close before (m.request hooks .init world).world
          simp only [initFrom, verdict, Attempt.refused, List.map_append, List.map_cons, closed,
            asked]

theorem map_startFrom (accept : Managed C → Bool) (before : List (Visited C)) (members : Members C)
    (world : ω) :
    (startFrom hooks accept before members world).value.map read =
      (before.map Visited.member).map read ++ members.map read := by
  induction members generalizing before world with
  | nil => exact (List.append_nil _).symm
  | cons m rest ih =>
      have asked := fixed .start m world
      by_cases accepted : accept m = true
      · cases verdict : (m.request hooks .start world).verdict with
        | ok _ =>
            simp only [startFrom, if_pos accepted, verdict]
            rw [ih]
            simp only [List.map_append, List.map_cons, List.map_nil, List.append_assoc,
              List.singleton_append, asked]
        | error error =>
            have undone := map_undoStarts hooks fixed before (m.request hooks .start world).world
            simp only [startFrom, if_pos accepted, verdict, Attempt.refused, List.map_append,
              List.map_cons, undone, asked]
      · simp only [startFrom, if_neg accepted]
        rw [ih]
        simp only [List.map_append, List.map_cons, List.map_nil, List.append_assoc,
          List.singleton_append]

/-- What no request changes about a member, nothing that its parent is asked changes about any. -/
theorem hooks_fix_map (accept : Managed C → Bool) :
    (Members.hooks hooks accept).Fixes (List.map read) := by
  intro event members world
  cases event with
  | init => exact map_initFrom hooks fixed [] members world
  | start => exact map_startFrom hooks fixed accept [] members world
  | stop => exact map_requestBackwards hooks fixed .stop members world
  | close => exact map_requestBackwards hooks fixed .close members world

end

/-! ## Names -/

/-- The names of members, in order. -/
def names (members : Members C) : List String :=
  members.map Managed.name

/-- Nothing that a parent is asked changes the names of its members. -/
theorem hooks_fix_names (accept : Managed C → Bool) :
    (Members.hooks hooks accept).Fixes names :=
  hooks_fix_map hooks (Managed.request_name hooks) accept

end Members

end IntegrationHost.Lifecycle
