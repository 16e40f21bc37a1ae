import IntegrationHost.Registry.Basic

/-!
# Admitting adapters

A registry admits an adapter when it creates it from a configuration, or when it is given the handle
of one. A name is admitted once only, and an admission that fails leaves everything as it was.
-/

namespace IntegrationHost

/-- What an operation on a registry answers, and what it leaves of the registry and the host. -/
structure Reply (ω A α : Type) where
  answer : Except Error α
  registry : Registry ω
  host : Host ω A

namespace Reply

variable {ω A α β : Type}

/-- An operation that changes nothing and fails. -/
def refuse (error : Error) (r : Registry ω) (h : Host ω A) : Reply ω A α :=
  ⟨.error error, r, h⟩

/-- Go on where an operation succeeded. -/
def andThen (first : Reply ω A α) (next : α → Registry ω → Host ω A → Reply ω A β) :
    Reply ω A β :=
  match first.answer with
  | .ok a => next a first.registry first.host
  | .error error => ⟨.error error, first.registry, first.host⟩

/-- Answer what the registry lists where an operation succeeded. -/
def listing (reply : Reply ω A α) : Reply ω A (List ObjectName) :=
  ⟨reply.answer.map fun _ => reply.registry.listed, reply.registry, reply.host⟩

end Reply

namespace Registry

variable {ω A : Type}

/-- Put the adapter of a handle, which was just listed, on the server of the registry. Where the
server does not take it, it is not listed any longer. -/
def expose (n : Nat) (name : ObjectName) (r : Registry ω) (h : Host ω A) : Reply ω A ObjectName :=
  match h.registerHandle r.server n with
  | (.ok (), h) => ⟨.ok name, r, h⟩
  | (.error error, h) => ⟨.error (.management error), r.delist name, h⟩

/-- The handle of a new adapter with the definition that a configuration text spells. -/
def prepare (kind : AdapterKind ω A) (text : String) (r : Registry ω) : Except Error (Handle A) :=
  do
    let d ← r.unmarshal text
    r.check d
    (Handle.new kind d).mapError Error.management

/-- Create an adapter from a configuration text that came from a location, if it came from one. The
handle of one that is not admitted is let go. -/
def create (kind : AdapterKind ω A) (text : String) (location : Option Config.Location)
    (r : Registry ω) (h : Host ω A) : Reply ω A ObjectName :=
  match r.prepare kind text with
  | .error error => .refuse error r h
  | .ok handle =>
    if r.lists handle.name then .refuse (.collision handle.name) r h
    else
      let (n, kept) := h.addHandle handle
      let exposed := (r.list handle.name).expose n handle.name kept
      match exposed.answer with
      | .ok name => { exposed with registry := exposed.registry.putLocation name location }
      | .error error => ⟨.error error, exposed.registry, exposed.host.dropNewest⟩

/-- Create an adapter from a configuration text. -/
def createFromText (kind : AdapterKind ω A) (text : String) (r : Registry ω) (h : Host ω A) :
    Reply ω A ObjectName :=
  r.create kind text none h

/-- Create an adapter from the configuration at a location. -/
def createFrom (kind : AdapterKind ω A) (location : Config.Location) (r : Registry ω)
    (h : Host ω A) : Reply ω A ObjectName :=
  match r.collaborators.transport.read location h.world with
  | .error error => .refuse error r h
  | .ok text => r.create kind text (some location) h

/-- Create an adapter from the configuration at a location that is given as text. -/
def createFromUrl (kind : AdapterKind ω A) (url : String) (r : Registry ω) (h : Host ω A) :
    Reply ω A ObjectName :=
  match Config.Location.ofText url with
  | .error error => .refuse (.configuration error) r h
  | .ok location => r.createFrom kind location h

/-- Admit the adapter of a handle. It is put on the server unless something is there under its name
already. -/
def add (n : Nat) (r : Registry ω) (h : Host ω A) : Reply ω A ObjectName :=
  match h.handles[n]? with
  | none => .refuse (.core "no such handle") r h
  | some handle =>
    if handle.destroyed then .refuse (.destroyed handle.name) r h
    else if r.lists handle.name then .refuse (.collision handle.name) r h
    else if (h.servers r.server).knows handle.name then ⟨.ok handle.name, r.list handle.name, h⟩
    else (r.list handle.name).expose n handle.name h

/-- Put the registry itself on its server. -/
def registerSelf (r : Registry ω) (h : Host ω A) : Except Management.Error Unit × Host ω A :=
  h.register r.server r.name (.registry r.settings)

end Registry

end IntegrationHost
