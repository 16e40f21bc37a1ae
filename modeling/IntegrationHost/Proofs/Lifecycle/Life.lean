import IntegrationHost.Proofs.Lifecycle.Requests

/-!
# Lives of components

The life of a managed component is a sequence of deeds: it carries out commands and does its work,
in any order and whatever comes of either. What a life keeps follows from what hooks and work keep.
-/

namespace IntegrationHost.Lifecycle

variable {ω C M : Type}

/-- What a component may be asked to do. -/
inductive Deed (M : Type) where
  /-- Carry out a command. -/
  | obey (command : Command)
  /-- Do its work on something, in whatever state it is. -/
  | work (matter : M)

namespace Managed

/-- Do a deed, whatever comes of it. -/
def act (hooks : Hooks ω C) (work : M → C → ω → C × ω) : Deed M → Managed C → ω → Managed C × ω
  | .obey command, m, world => (m.perform hooks command world).left
  | .work matter, m, world =>
      let left := work matter m.component world
      (m.withComponent left.1, left.2)

/-- Do deeds one after the other. -/
def live (hooks : Hooks ω C) (work : M → C → ω → C × ω) :
    List (Deed M) → Managed C → ω → Managed C × ω
  | [], m, world => (m, world)
  | first :: rest, m, world =>
      let left := m.act hooks work first world
      live hooks work rest left.1 left.2

variable {hooks : Hooks ω C} {work : M → C → ω → C × ω} {Q : State → C → ω → Prop} {m : Managed C}
  {world : ω}

/-- What hooks keep at legal events, and work in every state, is kept by each deed. -/
theorem FitsIn.act (maintains : hooks.Maintains State.accepts Q)
    (works : ∀ matter state component world, Q state component world →
      Q state (work matter component world).1 (work matter component world).2)
    (fits : m.FitsIn Q world) (deed : Deed M) :
    (m.act hooks work deed world).1.FitsIn Q (m.act hooks work deed world).2 := by
  cases deed with
  | obey command => exact fits.perform maintains command
  | work matter => exact works matter m.state m.component world fits

/-- It is kept by a whole life. -/
theorem FitsIn.live (maintains : hooks.Maintains State.accepts Q)
    (works : ∀ matter state component world, Q state component world →
      Q state (work matter component world).1 (work matter component world).2)
    (fits : m.FitsIn Q world) (deeds : List (Deed M)) :
    (m.live hooks work deeds world).1.FitsIn Q (m.live hooks work deeds world).2 := by
  induction deeds generalizing m world with
  | nil => exact fits
  | cons first rest ih => exact ih (fits.act maintains works first)

end Managed

end IntegrationHost.Lifecycle
