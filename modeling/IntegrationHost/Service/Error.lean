import IntegrationHost.Lifecycle.Error
import IntegrationHost.Pool.Error

/-!
# Service failures

Why a message was not processed. Failures of a lifecycle or a pool underneath are passed on in their
own words.
-/

namespace IntegrationHost.Service

/-- Why a message was not processed. -/
inductive Error where
  | failed (service reason : String)
  | unavailable (service reason : String)
  | lifecycle (error : Lifecycle.Error)
  | pool (error : Pool.Error)
  deriving DecidableEq, Repr

namespace Error

/-- The kind of a failure, as it is named in reports; that of a failure underneath follows behind a
point. -/
def kind : Error → String
  | failed .. => "Failed"
  | unavailable .. => "Unavailable"
  | lifecycle error => "Lifecycle." ++ error.kind
  | pool error => "Pool." ++ error.kind

/-- The wording of a failure. -/
def message : Error → String
  | failed service reason => "Service " ++ service ++ " failed: " ++ reason
  | unavailable service reason => "Service " ++ service ++ " is not available: " ++ reason
  | lifecycle error => error.message
  | pool error => error.message

/-- The wordings of what lies behind a failure, the nearest first. -/
def causes : Error → List String
  | pool error => error.causes
  | _ => []

end Error

/-- How the processing of a message can be cut short. -/
inductive Fault where
  | error (error : Error)
  /-- The service breaks off without an answer. -/
  | breakdown
  deriving DecidableEq, Repr

end IntegrationHost.Service
