/-!
# Failures from outside

What the system, or a library, reports when it fails.
-/

namespace IntegrationHost

/-- A failure that is none of the host's own. What lies behind it is up to where it comes from. -/
structure ExternalError where
  message : String
  /-- The wordings of what lies behind it, the nearest first. -/
  causes : List String
  deriving DecidableEq, Repr

/-- A failure with nothing behind it. -/
def ExternalError.plain (message : String) : ExternalError :=
  ⟨message, []⟩

end IntegrationHost
