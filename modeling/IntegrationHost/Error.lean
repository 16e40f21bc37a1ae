import IntegrationHost.Config.Error
import IntegrationHost.Management.Operation
import IntegrationHost.Service.Error
import IntegrationHost.Violation

/-!
# Failures of the host

Every failure that the host reports, with those of its parts wrapped. A wrapped failure is one of
the causes behind the wrapping one; `flatten` puts a failure and its causes on one line, and leaves
out a cause whose words already end the line.
-/

namespace IntegrationHost

/-- A failure of the host. -/
inductive Error where
  | validation (violations : List Violation)
  | collision (name : ObjectName)
  | notFound (name : ObjectName)
  | destroyed (name : ObjectName)
  | lifecycle (error : Lifecycle.Error)
  | pool (error : Pool.Error)
  | service (error : Service.Error)
  | configuration (error : Config.Error)
  /-- Reading or writing failed. -/
  | io (error : ExternalError)
  | serialization (error : ExternalError)
  | management (error : Management.Error)
  | missingCollaborator (role : String)
  | core (text : String)
  deriving DecidableEq

namespace Error

/-- The kind of a failure, as it is named in reports; that of a wrapped failure follows behind a
point. -/
def kind : Error → String
  | validation _ => "Validation"
  | collision _ => "Collision"
  | notFound _ => "NotFound"
  | destroyed _ => "Destroyed"
  | lifecycle error => "Lifecycle." ++ error.kind
  | pool error => "Pool." ++ error.kind
  | service error => "Service." ++ error.kind
  | configuration error => "Configuration." ++ error.kind
  | io _ => "Io"
  | serialization _ => "Serialization"
  | management error => "Management." ++ error.kind
  | missingCollaborator _ => "MissingCollaborator"
  | core _ => "Core"

/-- What a registry lacks when it has nothing to update its configuration with. -/
def versionControlRole : String := "runtime version control"

/-- The wording of a failure. -/
def message : Error → String
  | validation violations => "\n" ++ Violation.lines violations
  | collision name => "[" ++ name.text ++ "] already exists in the registry, remove it first"
  | notFound name => "[" ++ name.text ++ "] is not registered"
  | destroyed name => "[" ++ name.text ++ "] has been destroyed and cannot be added again"
  | lifecycle error => "Lifecycle error: " ++ error.message
  | pool error => "Pool error: " ++ error.message
  | service error => "Service error: " ++ error.message
  | configuration error => "Configuration error: " ++ error.message
  | io error => "I/O error: " ++ error.message
  | serialization error => "Serialization error: " ++ error.message
  | management error => "Management error: " ++ error.message
  | missingCollaborator role => "No " ++ role ++ " is configured"
  | core text => text

/-- The wordings of what lies behind a failure, the nearest first. -/
def causes : Error → List String
  | validation violations => [Violation.lines violations]
  | lifecycle error => [error.message]
  | pool error => error.message :: error.causes
  | service error => error.message :: error.causes
  | configuration error => error.message :: error.causes
  | io error => error.message :: error.causes
  | serialization error => error.message :: error.causes
  | management error => [error.message]
  | _ => []

/-- A line with causes added to it, each behind a colon unless the line ends with it already. -/
def addCauses : String → List String → String
  | line, [] => line
  | line, cause :: rest =>
    addCauses (if Text.endsWith line cause then line else line ++ ": " ++ cause) rest

/-- A failure and its causes on one line. -/
def flatten (error : Error) : String :=
  addCauses error.message error.causes

/-- A failure reduced to its line. -/
def flattened (error : Error) : Error :=
  core error.flatten

/-- A failure and its causes on one line, every one of them written out. -/
def spelledOut (error : Error) : String :=
  ": ".intercalate (error.message :: error.causes)

end Error

end IntegrationHost
