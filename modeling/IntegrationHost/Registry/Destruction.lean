import IntegrationHost.Registry.Admission

/-!
# Destroying adapters

A registry destroys the adapters that it holds: it closes them and removes every trace of them. An
adapter is destroyed once only, however many ask for it.
-/

namespace IntegrationHost.Registry

variable {ω A : Type}

/-- Whether the adapter of a handle is the one that a registry lists under its name. It is not when
the server knows another adapter by that name. -/
def holds (r : Registry ω) (n : Nat) (name : ObjectName) (server : Management.Server) : Bool :=
  r.lists name &&
    match server.adapter? name with
    | some registered => registered == n
    | none => true

/-- Close an adapter and take it off the server and out of the registry. That it does not close
cleanly is no reason to keep it. -/
def tearDown (kind : AdapterKind ω A) (n : Nat) (name : ObjectName) (r : Registry ω)
    (h : Host ω A) : Registry ω × Host ω A :=
  (r.forget name, ((h.request kind .close n).2.unregister r.server name).2)

/-- Destroy the adapter of a handle. -/
def destroy (kind : AdapterKind ω A) (n : Nat) (r : Registry ω) (h : Host ω A) :
    Reply ω A Unit :=
  match h.handles[n]? with
  | none => .refuse (.core "no such handle") r h
  | some handle =>
    if !r.holds n handle.name (h.servers r.server) then .refuse (.notFound handle.name) r h
    else
      match h.claim n with
      | (false, h) => .refuse (.notFound handle.name) r h
      | (true, h) =>
        let (r, h) := r.tearDown kind n handle.name h
        ⟨.ok (), r, h⟩

/-- Destroy the adapter of a name. One that the server does not know is dropped from the registry,
though it counts as not found. -/
def destroyNamed (kind : AdapterKind ω A) (name : ObjectName) (r : Registry ω) (h : Host ω A) :
    Reply ω A Unit :=
  match h.find r.server name with
  | .ok n => r.destroy kind n h
  | .error error => .refuse error (r.forget name) h

/-- Destroy the adapters of names, in order. One that is not found is passed over. -/
def destroyEach (kind : AdapterKind ω A) :
    List ObjectName → Registry ω → Host ω A → Reply ω A Unit
  | [], r, h => ⟨.ok (), r, h⟩
  | name :: rest, r, h =>
    let gone := r.destroyNamed kind name h
    match gone.answer with
    | .ok () => destroyEach kind rest gone.registry gone.host
    | .error (.notFound _) => destroyEach kind rest gone.registry gone.host
    | .error error => .refuse error gone.registry gone.host

end IntegrationHost.Registry
