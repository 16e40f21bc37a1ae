/-!
# Saying something once

A flag that goes up when it is first asked for, for notices that are given once and not again.
-/

namespace IntegrationHost

/-- Whether a notice has been given. -/
structure OnceFlag where
  raised : Bool
  deriving DecidableEq, Repr

namespace OnceFlag

/-- The flag before anything is said. -/
def down : OnceFlag := ⟨false⟩

/-- Raise the flag. The answer is whether this is the first time. -/
def raise (flag : OnceFlag) : Bool × OnceFlag := (!flag.raised, ⟨true⟩)

end OnceFlag

end IntegrationHost
