/-!
# Lifecycle states and events

Every managed component is closed, initialised, started or stopped, and four events move it from
one of these states to another. The file holds the two tables that the rest of the library goes by:
which single moves are legal, and along which states a component walks to a distant one.
-/

namespace IntegrationHost.Lifecycle

/-- Where a component is in its life. -/
inductive State where
  /-- Holds nothing; every life begins and ends here. -/
  | closed
  /-- Holds its resources and does not work yet. -/
  | initialised
  /-- At work. -/
  | started
  /-- Work is suspended; the resources are still held. -/
  | stopped
  deriving DecidableEq, Repr, Inhabited

/-- What moves a component from one state to the next. -/
inductive Event where
  | init
  | start
  | stop
  | close
  deriving DecidableEq, Repr

namespace State

/-- All states. -/
def all : List State := [closed, initialised, started, stopped]

/-- The word for a state. -/
def name : State → String
  | closed => "closed"
  | initialised => "initialised"
  | started => "started"
  | stopped => "stopped"

/-- The state that a word stands for. -/
def ofName? (word : String) : Option State :=
  all.find? fun state => state.name == word

/-- What is said of a word that stands for no state. -/
def unknown (word : String) : String := "Invalid component state: " ++ word

/-- Only a started component works. -/
def isActive (state : State) : Bool :=
  state == started

/-- Only a closed component holds nothing. -/
def holdsResources (state : State) : Bool :=
  state != closed

/-- The moves that one event can make. -/
def canMoveTo : State → State → Bool
  | closed, initialised => true
  | stopped, initialised => true
  | initialised, started => true
  | stopped, started => true
  | started, stopped => true
  | initialised, closed => true
  | stopped, closed => true
  | _, _ => false

/-- The states to walk through, the last of them the target; none when already there. -/
def pathTo : State → State → List State
  | closed, initialised => [initialised]
  | closed, started => [initialised, started]
  | closed, stopped => [initialised, started, stopped]
  | initialised, started => [started]
  | initialised, stopped => [started, stopped]
  | initialised, closed => [closed]
  | started, stopped => [stopped]
  | started, closed => [stopped, closed]
  | started, initialised => [stopped, initialised]
  | stopped, started => [started]
  | stopped, initialised => [initialised]
  | stopped, closed => [closed]
  | _, _ => []

/-- The event whose success leads to a state. -/
def event : State → Event
  | initialised => .init
  | started => .start
  | stopped => .stop
  | closed => .close

end State

namespace Event

/-- All events. -/
def all : List Event := [init, start, stop, close]

/-- The word for an event. -/
def name : Event → String
  | init => "init"
  | start => "start"
  | stop => "stop"
  | close => "close"

/-- The event that a word stands for. -/
def ofName? (word : String) : Option Event :=
  all.find? fun event => event.name == word

/-- The state that an event leads to when it succeeds. -/
def target : Event → State
  | init => .initialised
  | start => .started
  | stop => .stopped
  | close => .closed

/-- Only the failure of these events keeps a component where it is; a component can always be
stopped and closed. -/
def canFail : Event → Bool
  | init | start => true
  | stop | close => false

/-- The events that bring a component at least as far as a request asks, from the state it is in.
A request for what has already happened needs none. -/
def requested : Event → State → List Event
  | init, .closed => [init]
  | init, _ => []
  | start, .started => []
  | start, .closed => [init, start]
  | start, _ => [start]
  | stop, .started => [stop]
  | stop, _ => []
  | close, .closed => []
  | close, .started => [stop, close]
  | close, _ => [close]

/-- An event is the one that leads to its target. -/
@[simp] theorem event_target (event : Event) : event.target.event = event := by
  cases event <;> rfl

end Event

/-- The event of a state leads to that state. -/
@[simp] theorem State.target_event (state : State) : state.event.target = state := by
  cases state <;> rfl

end IntegrationHost.Lifecycle
