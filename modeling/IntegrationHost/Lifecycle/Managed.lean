import IntegrationHost.Attempt
import IntegrationHost.Lifecycle.Error

/-!
# Managed components

A component under its name and with its lifecycle state. What a component does when an event reaches
it is its own affair and may fail; here is what that does to the state. Direct events are legal or
refused, requests and walks take whatever events are needed.
-/

namespace IntegrationHost.Lifecycle

/-- What components of type `C` do at each event, in surroundings `ω`. -/
structure Hooks (ω C : Type) where
  run : Event → C → ω → Attempt Error ω C

/-- A component that does nothing at any event. -/
def Hooks.idle (ω C : Type) : Hooks ω C :=
  ⟨fun _ component world => .done component world⟩

/-- What a whole does at each event when it only passes events on to one of its parts. -/
def Hooks.ofPart {ω C D : Type} (part : D → C) (put : C → D → D) (hooks : Hooks ω C) : Hooks ω D :=
  ⟨fun event whole world => (hooks.run event (part whole) world).map fun c => put c whole⟩

/-- A component with its name and state. -/
structure Managed (C : Type) where
  name : String
  state : State
  component : C

/-- What can be asked of a managed component. -/
inductive Command where
  /-- One event, whose order the caller answers for. -/
  | fire (event : Event)
  /-- Come at least as far as the event would lead. -/
  | request (event : Event)
  /-- Walk to a state. -/
  | moveTo (target : State)
  deriving DecidableEq, Repr

namespace Managed

variable {ω C : Type}

/-- A component starts its life closed. -/
def new (name : String) (component : C) : Managed C :=
  ⟨name, .closed, component⟩

/-- How a failure inside an event is reported to the outside. -/
def failure (m : Managed C) (event : Event) (reason : Error) : Error :=
  match event with
  | .init => .initFailed m.name reason.message
  | _ => .startFailed m.name reason.message

/-- Carry out one event. Illegal events reach no hook; failures of `stop` and `close` are dropped.
-/
def fire (hooks : Hooks ω C) (event : Event) (m : Managed C) (world : ω) :
    Attempt Error ω (Managed C) :=
  if m.state.canMoveTo event.target then
    let ran := hooks.run event m.component world
    match event.canFail, ran.verdict with
    | true, .error reason =>
      .refused (m.failure event reason) { m with component := ran.value } ran.world
    | _, _ => .done { m with state := event.target, component := ran.value } ran.world
  else .refused (.invalidTransition m.name m.state event) m world

/-- Carry out events one after the other until one fails. -/
def fireAll (hooks : Hooks ω C) : List Event → Managed C → ω → Attempt Error ω (Managed C)
  | [], m, world => .done m world
  | event :: events, m, world => (m.fire hooks event world).andThen (fireAll hooks events)

/-- Bring a component at least as far as an event would. -/
def request (hooks : Hooks ω C) (event : Event) (m : Managed C) (world : ω) :
    Attempt Error ω (Managed C) :=
  m.fireAll hooks (event.requested m.state) world

/-- Walk to a state. -/
def moveTo (hooks : Hooks ω C) (target : State) (m : Managed C) (world : ω) :
    Attempt Error ω (Managed C) :=
  m.fireAll hooks ((m.state.pathTo target).map State.event) world

/-- Carry out a command. -/
def perform (hooks : Hooks ω C) : Command → Managed C → ω → Attempt Error ω (Managed C)
  | .fire event => fire hooks event
  | .request event => request hooks event
  | .moveTo target => moveTo hooks target

/-- Change the component and leave name and state alone. -/
def withComponent {D : Type} (m : Managed C) (component : D) : Managed D :=
  ⟨m.name, m.state, component⟩

end Managed

end IntegrationHost.Lifecycle
