import IntegrationHost.Service.Behaviour
import IntegrationHost.Service.Definition
import IntegrationHost.Text.Search

/-!
# Simple services

The services that do one thing to a message and hold nothing while they live.
-/

namespace IntegrationHost.Service

/-- A task under the id of the service that does it. -/
structure Simple where
  uniqueId : String
  task : Task

namespace Simple

/-- What a task does to a message; it may fail and then leaves the message alone. -/
def apply (s : Simple) (message : Message) : Except Error Message :=
  match s.task with
  | .nothing => .ok message
  | .logMessage _ => .ok message
  | .addMetadata metadata =>
    .ok { message with metadata := message.metadata.update metadata.entries }
  | .replaceText search replacement =>
    if search.isEmpty then .error (.failed s.uniqueId "search text is empty")
    else .ok { message with payload := Text.replace search replacement message.payload }
  | .alwaysFail reason => .error (.failed s.uniqueId reason)

/-- What a task logs about a message. -/
def logLine? (s : Simple) (message : Message) : Option LogLine :=
  match s.task with
  | .logMessage lead => some ⟨s.uniqueId, lead ++ message.payload⟩
  | _ => none

/-- Do the task. -/
def process {ω : Type} [Journal ω] (s : Simple) (message : Message) (world : ω) :
    Processed ω Simple :=
  let world := match s.logLine? message with
    | some line => Journal.log line world
    | none => world
  match s.apply message with
  | .ok message => .done (s, message) world
  | .error error => .refused (.error error) (s, message) world

/-- What simple services do. -/
def behaviour (ω : Type) [Journal ω] : Behaviour ω Simple where
  hooks := .idle ω Simple
  uniqueId := Simple.uniqueId
  process := process
  isValid _ := true

end Simple

end IntegrationHost.Service
