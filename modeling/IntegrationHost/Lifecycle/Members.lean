import IntegrationHost.Lifecycle.Managed

/-!
# Members driven together

A parent keeps its children in order and drives them together. Initialising and starting go forwards
and are rolled back when a member fails; stopping and closing go backwards and never fail.
-/

namespace IntegrationHost.Lifecycle

/-- The children of one parent, in order. -/
abbrev Members (C : Type) := List (Managed C)

namespace Members

variable {ω C : Type}

/-- Send a request to each member in turn, whatever comes of it. -/
def requestEach (hooks : Hooks ω C) (event : Event) : Members C → ω → Members C × ω
  | [], world => ([], world)
  | m :: rest, world =>
    let asked := m.request hooks event world
    let others := requestEach hooks event rest asked.world
    (asked.value :: others.1, others.2)

/-- Send a request to each member, the last one first, whatever comes of it. -/
def requestBackwards (hooks : Hooks ω C) (event : Event) : Members C → ω → Members C × ω
  | [], world => ([], world)
  | m :: rest, world =>
    let others := requestBackwards hooks event rest world
    let asked := m.request hooks event others.2
    (asked.value :: others.1, asked.world)

/-- Request `init` of the members still to do, with `before` the members already asked. When one
fails, those before it are closed. -/
def initFrom (hooks : Hooks ω C) (before : Members C) :
    Members C → ω → Attempt Error ω (Members C)
  | [], world => .done before world
  | m :: rest, world =>
    let asked := m.request hooks .init world
    match asked.verdict with
    | .ok () => initFrom hooks (before ++ [asked.value]) rest asked.world
    | .error error =>
      let closed := requestEach hooks .close before asked.world
      .refused error (closed.1 ++ asked.value :: rest) closed.2

/-- Initialise every member that is closed. -/
def initAll (hooks : Hooks ω C) (members : Members C) (world : ω) : Attempt Error ω (Members C) :=
  initFrom hooks [] members world

/-- A member and whether the operation under way has started it. -/
structure Visited (C : Type) where
  member : Managed C
  startedNow : Bool

/-- Stop the members that the operation under way has started. -/
def undoStarts (hooks : Hooks ω C) : List (Visited C) → ω → Members C × ω
  | [], world => ([], world)
  | v :: rest, world =>
    if v.startedNow then
      let asked := v.member.request hooks .stop world
      let others := undoStarts hooks rest asked.world
      (asked.value :: others.1, others.2)
    else
      let others := undoStarts hooks rest world
      (v.member :: others.1, others.2)

/-- Request `start` of the accepted members still to do. When one fails, those that this operation
has started are stopped again. -/
def startFrom (hooks : Hooks ω C) (accept : Managed C → Bool) (before : List (Visited C)) :
    Members C → ω → Attempt Error ω (Members C)
  | [], world => .done (before.map Visited.member) world
  | m :: rest, world =>
    if accept m then
      let asked := m.request hooks .start world
      match asked.verdict with
      | .ok () =>
        startFrom hooks accept (before ++ [⟨asked.value, m.state != .started⟩]) rest asked.world
      | .error error =>
        let undone := undoStarts hooks before asked.world
        .refused error (undone.1 ++ asked.value :: rest) undone.2
    else startFrom hooks accept (before ++ [⟨m, false⟩]) rest world

/-- Start the members that `accept` picks. -/
def startWhere (hooks : Hooks ω C) (accept : Managed C → Bool) (members : Members C) (world : ω) :
    Attempt Error ω (Members C) :=
  startFrom hooks accept [] members world

/-- Start every member. -/
def startAll (hooks : Hooks ω C) (members : Members C) (world : ω) : Attempt Error ω (Members C) :=
  startWhere hooks (fun _ => true) members world

/-- Stop every member that is started, the last one first. -/
def stopAll (hooks : Hooks ω C) (members : Members C) (world : ω) : Members C × ω :=
  requestBackwards hooks .stop members world

/-- Close every member, the last one first. -/
def closeAll (hooks : Hooks ω C) (members : Members C) (world : ω) : Members C × ω :=
  requestBackwards hooks .close members world

/-- What a parent does when its own events are passed on to its members. -/
def hooks (hooks : Hooks ω C) (accept : Managed C → Bool) : Hooks ω (Members C) where
  run
    | .init, members, world => initAll hooks members world
    | .start, members, world => startWhere hooks accept members world
    | .stop, members, world => let left := stopAll hooks members world; .done left.1 left.2
    | .close, members, world => let left := closeAll hooks members world; .done left.1 left.2

/-- The first member of a name. -/
def find? (members : Members C) (name : String) : Option (Managed C) :=
  List.find? (fun m => m.name == name) members

/-- Put a member in place of the first one of its name. -/
def replace (members : Members C) (member : Managed C) : Members C :=
  match members with
  | [] => []
  | m :: rest => if m.name == member.name then member :: rest else m :: replace rest member

/-- Give a command to each member in turn. -/
def performEach (hooks : Hooks ω C) (command : Command) :
    Members C → ω → List (Except Error Unit) × Members C × ω
  | [], world => ([], [], world)
  | m :: rest, world =>
    let asked := m.perform hooks command world
    let others := performEach hooks command rest asked.world
    (asked.verdict :: others.1, asked.value :: others.2.1, others.2.2)

/-- The states of the members, in order. -/
def states (members : Members C) : List State :=
  members.map Managed.state

end Members

end IntegrationHost.Lifecycle
