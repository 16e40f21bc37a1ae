import IntegrationHost.Json.Access
import IntegrationHost.Rehearsal.Trace

/-!
# Actors

Services that follow a script: their hooks fail when the script says so, and so does the processing
of messages with certain payloads. A troupe makes actors one after the other, each with a role of
its own.
-/

namespace IntegrationHost.Rehearsal

open Lifecycle

/-- What happens the next times each hook is called: the text of a failure, or success. When a list
is used up, the hook succeeds. -/
structure Script where
  init : List (Option String)
  start : List (Option String)
  stop : List (Option String)
  close : List (Option String)

namespace Script

/-- Read the part of a script for one hook. -/
def lines (json : Json) (hook : String) : List (Option String) :=
  (json.listAt hook).map Json.string?

/-- Read a script. -/
def ofJson (json : Json) : Script :=
  ⟨lines json "init", lines json "start", lines json "stop", lines json "close"⟩

/-- What happens at an event, and the rest of the script. -/
def next (s : Script) : Event → Option String × Script
  | .init => (s.init.head?.join, { s with init := s.init.tail })
  | .start => (s.start.head?.join, { s with start := s.start.tail })
  | .stop => (s.stop.head?.join, { s with stop := s.stop.tail })
  | .close => (s.close.head?.join, { s with close := s.close.tail })

end Script

/-- A service that follows a script. -/
structure Actor where
  name : String
  script : Script
  /-- The payloads at which processing fails, each with the reason. -/
  failOn : List (String × String)
  /-- The payloads at which processing breaks off. -/
  breakOn : List String
  /-- The payloads after which the service is no longer valid. -/
  spoilOn : List String
  invalid : Bool
  /-- The name of the service in the failures of processing. -/
  failName : String
  /-- Whether its hooks count. -/
  counted : Bool

namespace Actor

/-- Read an actor; what `role` does not say is taken from `stock`. -/
def ofJson (name : String) (role stock : Json) : Actor :=
  let pick (key : String) : Json := if role.has key then role.get key else stock.get key
  { name
    script := .ofJson role
    failOn := (pick "fail_on").textEntries
    breakOn := (pick "panic_on").list.map Json.text
    spoilOn := (pick "spoil_on").list.map Json.text
    invalid := (role.get "invalid").isTrue
    failName := name
    counted := false }

/-- Count the call of a hook. -/
def counting (t : Trace) : Event → Trace
  | .init => { t with inits := t.inits + 1 }
  | .close => { t with closes := t.closes + 1 }
  | _ => t

/-- What an actor does at each event. -/
def hooks : Hooks Trace Actor where
  run event actor t :=
    let t := t.call (actor.name ++ "." ++ event.name)
    let t := if actor.counted then counting t event else t
    match actor.script.next event with
    | (some reason, script) => .refused (.reported reason) { actor with script } t
    | (none, script) => .done { actor with script } t

/-- Process a message: a mark is put behind its payload. -/
def process (actor : Actor) (m : Message) (t : Trace) : Service.Processed Trace Actor :=
  let actor := { actor with invalid := actor.invalid || actor.spoilOn.contains m.payload }
  if actor.breakOn.contains m.payload then .refused .breakdown (actor, m) t
  else
    match actor.failOn.lookup m.payload with
    | some reason => .refused (.error (.failed actor.failName reason)) (actor, m) t
    | none => .done (actor, { m with payload := m.payload ++ "!" }) t

/-- What actors do. -/
def behaviour : Service.Behaviour Trace Actor where
  hooks := hooks
  uniqueId := name
  process := process
  isValid actor := !actor.invalid

end Actor

/-- A prototype of actors named `probe-0`, `probe-1` and so on, the n-th with the n-th role. In its
failures an actor is called by `failName`, or else by its own name. -/
def troupe (json : Json) (failName : Option String) : Service.Prototype Trace Actor where
  describe := (json.textAt? "describe").getD "probe"
  create t :=
    let name := "probe-" ++ toString t.created
    let role := (json.listAt "services")[t.created]?.getD .null
    let t := { t with created := t.created + 1 }.call (name ++ ".create")
    match role.textAt? "create" with
    | some reason => (.error (.failed name reason), t)
    | none =>
      (.ok { Actor.ofJson name role json with counted := true, failName := failName.getD name }, t)

end IntegrationHost.Rehearsal
