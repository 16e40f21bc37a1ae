/-!
# Attempts

What an operation leaves behind, whether it succeeded or not: a verdict, the thing it worked on, and
the surroundings it worked in. A failed operation does not undo what it has already done.
-/

namespace IntegrationHost

/-- The end of an operation on an `α` in surroundings `ω` that may fail with an `ε`. -/
structure Attempt (ε ω α : Type) where
  verdict : Except ε Unit
  value : α
  world : ω

namespace Attempt

variable {ε ω α β : Type}

/-- An operation that changes nothing and succeeds. -/
def done (value : α) (world : ω) : Attempt ε ω α :=
  ⟨.ok (), value, world⟩

/-- An operation that changes nothing and fails. -/
def refused (error : ε) (value : α) (world : ω) : Attempt ε ω α :=
  ⟨.error error, value, world⟩

/-- Go on with what a successful operation left. -/
def andThen (first : Attempt ε ω α) (next : α → ω → Attempt ε ω α) : Attempt ε ω α :=
  match first.verdict with
  | .ok () => next first.value first.world
  | .error _ => first

/-- See what was worked on as part of something else. -/
def map (f : α → β) (a : Attempt ε ω α) : Attempt ε ω β :=
  ⟨a.verdict, f a.value, a.world⟩

/-- Report a failure in other words. -/
def mapError {δ : Type} (f : ε → δ) (a : Attempt ε ω α) : Attempt δ ω α :=
  ⟨a.verdict.mapError f, a.value, a.world⟩

/-- Whether the operation succeeded. -/
def succeeded (a : Attempt ε ω α) : Bool :=
  match a.verdict with
  | .ok () => true
  | .error _ => false

theorem succeeded_iff {a : Attempt ε ω α} : a.succeeded = true ↔ a.verdict = .ok () := by
  unfold succeeded
  cases a.verdict with
  | ok _ => exact iff_of_true rfl rfl
  | error _ => exact iff_of_false nofun nofun

/-- What an operation left, its verdict forgotten. -/
def left (a : Attempt ε ω α) : α × ω :=
  (a.value, a.world)

end Attempt

end IntegrationHost
