import IntegrationHost.Registry.Destruction

/-!
# Persisting and reloading

The configuration of an adapter can be written to a location. A registry is reloaded by destroying
all its adapters and creating one anew from the configuration that the settings name; when that
fails nothing is undone.
-/

namespace IntegrationHost.Registry

variable {ω A : Type}

/-- Write data and a line end to a location. -/
def persist (data : String) (location : Config.Location) (r : Registry ω) (h : Host ω A) :
    Except Error Unit × Host ω A :=
  let written := r.collaborators.transport.write location (data ++ "\n") h.world
  (written.1, { h with world := written.2 })

/-- Write the configuration of the adapter of a handle to a location. -/
def persistHandle (n : Nat) (location : Config.Location) (r : Registry ω) (h : Host ω A) :
    Except Error Unit × Host ω A :=
  match h.handles[n]? with
  | none => (.error (.core "no such handle"), h)
  | some handle => r.persist (r.collaborators.marshaller.marshal handle.definition) location h

/-- Write the configuration of the adapter of a name to a location. -/
def persistNamed (name : ObjectName) (location : Config.Location) (r : Registry ω)
    (h : Host ω A) : Except Error Unit × Host ω A :=
  match h.find r.server name with
  | .error error => (.error error, h)
  | .ok n => r.persistHandle n location h

/-- Create an adapter from the configuration that the settings name. -/
def createFromSettings (kind : AdapterKind ω A) (r : Registry ω) (h : Host ω A) :
    Reply ω A ObjectName :=
  match r.settings.adapterLocation with
  | .error error => .refuse (.configuration error) r h
  | .ok url => r.createFromUrl kind url h

/-- Reload, destroying adapters in an order. The answer is what is listed then. -/
def reloadInOrder (kind : AdapterKind ω A) (order : List ObjectName) (r : Registry ω)
    (h : Host ω A) : Reply ω A (List ObjectName) :=
  (r.destroyEach kind order h).andThen fun _ r h => (r.createFromSettings kind h).listing

/-- Destroy all adapters and create one from the configuration that the settings name. -/
def reload (kind : AdapterKind ω A) (r : Registry ω) (h : Host ω A) :
    Reply ω A (List ObjectName) :=
  r.reloadInOrder kind r.listed h

/-- Bring configuration up to date. -/
def update (versionControl : Config.VersionControl ω) (r : Registry ω) (h : Host ω A) :
    Reply ω A Unit :=
  let updated := versionControl.update h.world
  ⟨updated.1.mapError .configuration, r, { h with world := updated.2 }⟩

/-- Reload, destroying adapters in an order and bringing configuration up to date when they are
destroyed. Without version control nothing is destroyed. -/
def reloadUpdatedInOrder (kind : AdapterKind ω A) (order : List ObjectName) (r : Registry ω)
    (h : Host ω A) : Reply ω A ObjectName :=
  match r.versionControl with
  | none => .refuse (.missingCollaborator Error.versionControlRole) r h
  | some versionControl =>
    ((r.destroyEach kind order h).andThen fun _ r h => r.update versionControl h).andThen
      fun _ r h => r.createFromSettings kind h

/-- Destroy all adapters, bring configuration up to date, and create an adapter from the
configuration that the settings name. -/
def reloadUpdated (kind : AdapterKind ω A) (r : Registry ω) (h : Host ω A) :
    Reply ω A ObjectName :=
  r.reloadUpdatedInOrder kind r.listed h

end IntegrationHost.Registry
