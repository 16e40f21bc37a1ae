import IntegrationHost.Error
import IntegrationHost.Json.Access

/-!
# Failures in reports

A report gives a failure as an object: its kind, what it says of it under names of its own, and
under `inner` the failure that it wraps. Details that the host does not keep are passed over.
-/

namespace IntegrationHost

/-- The failure of a lifecycle in a report. -/
def Lifecycle.Error.ofReport? (report : Json) : Option Lifecycle.Error :=
  let component := report.textAt "component"
  let reason := report.textAt "reason"
  match report.textAt "kind" with
  | "InvalidTransition" => do
    let origin ← State.ofName? (report.textAt "from")
    let event ← Event.ofName? (report.textAt "event")
    return invalidTransition component origin event
  | "InitFailed" => some (initFailed component reason)
  | "StartFailed" => some (startFailed component reason)
  | "Component" => some (reported (report.textAt "text"))
  | _ => none

/-- The failure of a pool in a report. -/
def Pool.Error.ofReport? (report : Json) : Option Pool.Error :=
  let pool := report.textAt "pool"
  let text := report.textAt "text"
  match report.textAt "kind" with
  | "Closed" => some (closed pool)
  | "Exhausted" => some (exhausted pool (report.naturalAt "capacity"))
  | "Timeout" => some (timeout pool (report.naturalAt "waited_ms"))
  | "Creation" => some (creation text)
  | "Activation" => some (activation text)
  | "Passivation" => some (passivation text)
  | "Warmup" =>
    some (warmup pool (report.naturalAt "created") (report.naturalAt "requested")
      (report.textAt "reason"))
  | "InvalidConfig" => some (invalidConfig text)
  | "ExecutorShutdown" => some (executorShutdown (report.textAt "executor"))
  | "TaskAborted" => some (taskAborted text)
  | "Spawn" => some (spawn (.plain text))
  | _ => none

/-- The failure of a service in a report. -/
def Service.Error.ofReport? (report : Json) : Option Service.Error :=
  let service := report.textAt "service"
  let reason := report.textAt "reason"
  match report.textAt "kind" with
  | "Failed" => some (failed service reason)
  | "Unavailable" => some (unavailable service reason)
  | "Lifecycle" => (Lifecycle.Error.ofReport? (report.get "inner")).map lifecycle
  | "Pool" => (Pool.Error.ofReport? (report.get "inner")).map pool
  | _ => none

/-- The failure of a configuration in a report. -/
def Config.Error.ofReport? (report : Json) : Option Config.Error :=
  let name := report.textAt "name"
  let reason := report.textAt "reason"
  let text := report.textAt "text"
  let location := report.textAt "location"
  let context := report.textAt "context"
  match report.textAt "kind" with
  | "Load" => some (load (.plain text))
  | "MissingRequiredField" => some (missingRequiredField (report.textAt "field") context)
  | "InvalidValue" =>
    some (invalidValue (report.textAt "field") (report.textAt "value") context)
  | "InvalidLocation" => some (invalidLocation location reason)
  | "UnsupportedLocation" => some (unsupportedLocation location)
  | "UnknownPreProcessor" => some (unknownPreProcessor name)
  | "PreProcessing" => some (preProcessing name reason)
  | "Unmarshal" => some (unmarshal text)
  | "VersionControl" => some (versionControl name reason)
  | _ => none

/-- The name that a report gives. -/
def ObjectName.ofReport (report : Json) : Except Flaw ObjectName :=
  ofText (report.textAt "name")

/-- The failure of a management server in a report, if the names in it are names. -/
def Management.Error.ofReport? (report : Json) :
    Except ObjectName.Flaw (Option Management.Error) :=
  match report.textAt "kind" with
  | "MalformedName" => .ok (some (malformedName (report.textAt "text")))
  | "NotRegistered" => (ObjectName.ofReport report).map fun name => notRegistered name
  | "AlreadyRegistered" => (ObjectName.ofReport report).map fun name => alreadyRegistered name
  | "Unsupported" =>
    (ObjectName.ofReport report).map fun name =>
      (Operation.ofName? (report.textAt "operation")).map fun operation =>
        unsupported name operation
  | "Invocation" => .ok (some (invocation (report.textAt "text")))
  | _ => .ok none

/-- A violation that is given as a path and a message. -/
def Violation.ofPair (pair : Json) : Violation :=
  match pair.list with
  | [path, message] => ⟨path.text, message.text⟩
  | _ => ⟨"", ""⟩

/-- The failure in a report, if the names in it are names. -/
def Error.ofReport? (report : Json) : Except ObjectName.Flaw (Option Error) :=
  let inner := report.get "inner"
  let text := report.textAt "text"
  match report.textAt "kind" with
  | "Validation" => .ok (some (validation ((report.listAt "violations").map Violation.ofPair)))
  | "Collision" => (ObjectName.ofReport report).map fun name => collision name
  | "NotFound" => (ObjectName.ofReport report).map fun name => notFound name
  | "Destroyed" => (ObjectName.ofReport report).map fun name => destroyed name
  | "Lifecycle" => .ok ((Lifecycle.Error.ofReport? inner).map lifecycle)
  | "Pool" => .ok ((Pool.Error.ofReport? inner).map pool)
  | "Service" => .ok ((Service.Error.ofReport? inner).map service)
  | "Configuration" => .ok ((Config.Error.ofReport? inner).map configuration)
  | "Io" => .ok (some (io (.plain text)))
  | "Serialization" => .ok (some (serialization (.plain text)))
  | "Management" => (Management.Error.ofReport? inner).map fun error => error.map management
  | "MissingCollaborator" => .ok (some (missingCollaborator versionControlRole))
  | "Core" => .ok (some (core text))
  | _ => .ok none

end IntegrationHost
