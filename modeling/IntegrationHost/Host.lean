import IntegrationHost.Adapter.Live
import IntegrationHost.Error
import IntegrationHost.Json.Printer
import IntegrationHost.Management.Server

/-!
# The host

What all registries share: the handles of adapters, the management servers that know adapters by
name, and the surroundings in which adapters work. A handle is found by its number, which never
changes; it stays when its adapter is destroyed. A management server is found by its number as well.
-/

namespace IntegrationHost

open Lifecycle

/-- How adapters of type `A` are made and driven in surroundings `ω`. -/
structure AdapterKind (ω A : Type) where
  build : AdapterDefinition → A
  hooks : Hooks ω A

/-- Adapters whose services are those of their definitions. -/
def LiveAdapter.kind (ω : Type) [Service.Journal ω] : AdapterKind ω (LiveAdapter ω) :=
  ⟨ofDefinition, hooks⟩

/-- An adapter under management. -/
structure Handle (A : Type) where
  name : ObjectName
  definition : AdapterDefinition
  adapter : Managed A
  destroyed : Bool

namespace Handle

variable {ω A : Type}

/-- The handle of a new adapter, which is closed. Its id has to be fit for a name. -/
def new (kind : AdapterKind ω A) (definition : AdapterDefinition) :
    Except Management.Error (Handle A) :=
  match ObjectName.adapter definition.id with
  | .error flaw => .error (.ofFlaw flaw)
  | .ok name => .ok ⟨name, definition, .new definition.id (kind.build definition), false⟩

/-- The state of the adapter. -/
def state (h : Handle A) : State := h.adapter.state

/-- The configuration of the adapter, as text. -/
def configuration (h : Handle A) : String := h.definition.toJson.pretty

end Handle

/-- What all registries share. -/
structure Host (ω A : Type) where
  handles : List (Handle A)
  servers : Nat → Management.Server
  /-- The strangers on the server of a number, under their names. -/
  strangers : Nat → ObjectName → Management.Stranger
  world : ω

namespace Host

variable {ω A : Type}

/-- A host without adapters. -/
def new (world : ω) : Host ω A := ⟨[], fun _ => .empty, fun _ _ => .agreeable, world⟩

/-- Put a server in place of the one of a number. -/
def setServer (h : Host ω A) (s : Nat) (server : Management.Server) : Host ω A :=
  { h with servers := fun t => if t = s then server else h.servers t }

/-- Put a handle in place of the one of a number. -/
def setHandle (h : Host ω A) (n : Nat) (handle : Handle A) : Host ω A :=
  { h with handles := h.handles.set n handle }

/-- Put a stranger in place of the one of a name on the server of a number. -/
def setStranger (h : Host ω A) (s : Nat) (name : ObjectName) (stranger : Management.Stranger) :
    Host ω A :=
  { h with strangers := fun t other =>
      if t = s ∧ other = name then stranger else h.strangers t other }

/-- Keep another handle. The answer is its number. -/
def addHandle (h : Host ω A) (handle : Handle A) : Nat × Host ω A :=
  (h.handles.length, { h with handles := h.handles ++ [handle] })

/-- Let go of the handle that was kept last. -/
def dropNewest (h : Host ω A) : Host ω A :=
  { h with handles := h.handles.dropLast }

/-- Ask the adapter of a handle to come at least as far as an event leads. -/
def request (kind : AdapterKind ω A) (event : Event) (n : Nat) (h : Host ω A) :
    Except Lifecycle.Error Unit × Host ω A :=
  match h.handles[n]? with
  | none => (.ok (), h)
  | some handle =>
    let asked := handle.adapter.request kind.hooks event h.world
    (asked.verdict,
      { h.setHandle n { handle with adapter := asked.value } with world := asked.world })

/-- Claim an adapter for destruction. Of all claims only the first is granted. -/
def claim (n : Nat) (h : Host ω A) : Bool × Host ω A :=
  match h.handles[n]? with
  | none => (false, h)
  | some handle =>
    if handle.destroyed then (false, h) else (true, h.setHandle n { handle with destroyed := true })

/-- Put a component on a server, under a name that is not taken. -/
def register (s : Nat) (name : ObjectName) (bean : Management.Bean) (h : Host ω A) :
    Except Management.Error Unit × Host ω A :=
  match (h.servers s).register name bean with
  | .ok server => (.ok (), h.setServer s server)
  | .error error => (.error error, h)

/-- Put an adapter on a server, under its name. -/
def registerHandle (s n : Nat) (h : Host ω A) : Except Management.Error Unit × Host ω A :=
  match h.handles[n]? with
  | none => (.ok (), h)
  | some handle => h.register s handle.name (.adapter n)

/-- Put a stranger on a server, under a name that is not taken. -/
def registerStranger (s : Nat) (name : ObjectName) (stranger : Management.Stranger)
    (h : Host ω A) : Except Management.Error Unit × Host ω A :=
  match h.register s name .stranger with
  | (.ok (), h) => (.ok (), h.setStranger s name stranger)
  | refused => refused

/-- Process a message in a workflow of an adapter. -/
def process [Service.Journal ω] (n : Nat) (workflow : String) (message : Message)
    (h : Host ω (LiveAdapter ω)) :
    Attempt Service.Fault (Host ω (LiveAdapter ω)) Message :=
  match h.handles[n]? with
  | none => .done message h
  | some handle =>
    let done := handle.adapter.component.process workflow message h.world
    ⟨done.verdict, done.value.2,
      { h.setHandle n { handle with adapter := handle.adapter.withComponent done.value.1 } with
        world := done.world }⟩

/-- Take whatever is under a name off a server. The answer is whether anything was. -/
def unregister (s : Nat) (name : ObjectName) (h : Host ω A) : Bool × Host ω A :=
  ((h.servers s).knows name, h.setServer s ((h.servers s).unregister name))

/-- Take whatever is under each of some names off a server. -/
def unregisterAll (s : Nat) (names : List ObjectName) (h : Host ω A) : Host ω A :=
  h.setServer s ((h.servers s).unregisterAll names)

/-! ## By name -/

/-- The handle of the adapter that a server knows by a name. -/
def find (h : Host ω A) (s : Nat) (name : ObjectName) : Except Error Nat :=
  match (h.servers s).adapter? name with
  | some n => .ok n
  | none => .error (.notFound name)

/-- Ask an adapter. What fails inside it comes out as one line. -/
def invokeAdapter (kind : AdapterKind ω A) (operation : Management.Operation) (n : Nat)
    (h : Host ω A) : Except Management.Error Management.Response × Host ω A :=
  match operation, h.handles[n]? with
  | .request event, _ =>
    let asked := h.request kind event n
    match asked.1 with
    | .ok () => (.ok .done, asked.2)
    | .error error => (.error (.invocation (Error.lifecycle error).flatten), asked.2)
  | .getState, some handle => (.ok (.state handle.state), h)
  | .getConfiguration, some handle => (.ok (.configuration handle.configuration), h)
  | _, none => (.ok .done, h)

/-- Ask a stranger. -/
def invokeStranger (s : Nat) (name : ObjectName) (operation : Management.Operation)
    (h : Host ω A) : Except Management.Error Management.Response × Host ω A :=
  let asked := (h.strangers s name).ask operation
  (asked.1, h.setStranger s name asked.2)

/-- Ask the component of a name on a server. -/
def invoke (kind : AdapterKind ω A) (s : Nat) (name : ObjectName)
    (operation : Management.Operation) (h : Host ω A) :
    Except Management.Error Management.Response × Host ω A :=
  match (h.servers s).lookup name, operation with
  | none, _ => (.error (.notRegistered name), h)
  | some (.adapter n), operation => h.invokeAdapter kind operation n
  | some (.registry settings), .getConfiguration =>
    (.ok (.configuration settings.toJson.pretty), h)
  | some (.registry _), operation => (.error (.unsupported name operation), h)
  | some .stranger, operation => h.invokeStranger s name operation

/-- Send a request to the components of names on a server, in order, until one fails. -/
def requestAll (kind : AdapterKind ω A) (event : Event) (s : Nat) :
    List ObjectName → Host ω A → Except Management.Error Unit × Host ω A
  | [], h => (.ok (), h)
  | name :: rest, h =>
    let asked := h.invoke kind s name (.request event)
    match asked.1 with
    | .ok _ => requestAll kind event s rest asked.2
    | .error error => (.error error, asked.2)

end Host

end IntegrationHost
