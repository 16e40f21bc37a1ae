import IntegrationHost.Lifecycle.State

/-!
# Lifecycle failures

Why an event could not be carried out. A failure of a component's own making is wrapped once by
each component around it, which is told the wording of the inner one.
-/

namespace IntegrationHost.Lifecycle

/-- Why a component did not move. -/
inductive Error where
  | invalidTransition (component : String) (origin : State) (event : Event)
  | initFailed (component reason : String)
  | startFailed (component reason : String)
  /-- What a component itself reports from inside an event. -/
  | reported (reason : String)
  deriving DecidableEq, Repr

/-- The kind of a failure, as it is named in reports. -/
def Error.kind : Error → String
  | .invalidTransition .. => "InvalidTransition"
  | .initFailed .. => "InitFailed"
  | .startFailed .. => "StartFailed"
  | .reported _ => "Component"

/-- The wording of a failure. -/
def Error.message : Error → String
  | .invalidTransition component origin event =>
    "Invalid lifecycle transition for " ++ component ++ ": cannot " ++ event.name ++ " from " ++
      origin.name
  | .initFailed component reason => "Failed to initialise " ++ component ++ ": " ++ reason
  | .startFailed component reason => "Failed to start " ++ component ++ ": " ++ reason
  | .reported reason => "Component error: " ++ reason

end IntegrationHost.Lifecycle
