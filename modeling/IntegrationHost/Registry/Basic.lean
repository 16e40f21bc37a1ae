import IntegrationHost.Config.Marshaller
import IntegrationHost.Config.PreProcessor
import IntegrationHost.Config.Transport
import IntegrationHost.Config.VersionControl
import IntegrationHost.Descriptor
import IntegrationHost.Host

/-!
# Registries

A registry lists the adapters that it has admitted, by name, and remembers where the configuration
of each came from. How configuration is read, prepared, understood, checked and brought up to date
is left to collaborators.
-/

namespace IntegrationHost

/-- What a registry leaves to others, in surroundings `ω`. -/
structure Collaborators (ω : Type) where
  transport : Config.Transport ω
  preprocessors : Config.Settings → Except Config.Error (List Config.PreProcessor)
  marshaller : Config.Marshaller
  validator : AdapterDefinition → List Violation
  /-- Takes the place of the command in the settings. -/
  versionControl : Option (Config.VersionControl ω)

/-- The rules for the definition of an adapter. -/
def AdapterDefinition.broken (d : AdapterDefinition) : List Violation := d.violations ""

/-- The collaborators that come with the host. -/
def Collaborators.standard (ω : Type) [HasFiles ω] : Collaborators ω :=
  ⟨.ofFiles, Config.PreProcessor.ofSettings, .json, AdapterDefinition.broken, none⟩

/-- The adapters of a registry. -/
structure Registry (ω : Type) where
  settings : Config.Settings
  /-- The number of the management server that its adapters are put on. -/
  server : Nat
  name : ObjectName
  collaborators : Collaborators ω
  versionControl : Option (Config.VersionControl ω)
  listed : List ObjectName
  locations : List (ObjectName × Config.Location)

namespace Registry

variable {ω : Type}

/-- The name of the registry with some settings. -/
def nameFor (settings : Config.Settings) : Except Management.Error ObjectName :=
  (ObjectName.registry (settings.registryId.getD ObjectName.defaultRegistryId)).mapError .ofFlaw

/-- A registry without adapters. -/
def build [Config.RunsPrograms ω] (settings : Config.Settings) (server : Nat)
    (collaborators : Collaborators ω) : Except Error (Registry ω) :=
  match settings.check, nameFor settings with
  | .error error, _ => .error (.configuration error)
  | _, .error error => .error (.management error)
  | .ok (), .ok name =>
    .ok ⟨settings, server, name, collaborators,
      collaborators.versionControl <|> Config.VersionControl.ofSettings? settings, [], []⟩

/-! ## What a registry lists -/

/-- Whether an adapter is listed. -/
def lists (r : Registry ω) (name : ObjectName) : Bool := r.listed.contains name

/-- List an adapter. -/
def list (r : Registry ω) (name : ObjectName) : Registry ω :=
  { r with listed := r.listed ++ [name] }

/-- List an adapter no longer. -/
def delist (r : Registry ω) (name : ObjectName) : Registry ω :=
  { r with listed := r.listed.filter (· != name) }

/-- Where the configuration of an adapter came from. -/
def location? (r : Registry ω) (name : ObjectName) : Option Config.Location :=
  r.locations.lookup name

/-- Locations without that of an adapter. -/
def withoutLocation (name : ObjectName) (locations : List (ObjectName × Config.Location)) :
    List (ObjectName × Config.Location) :=
  locations.filter fun entry => entry.1 != name

/-- Remember where the configuration of an adapter came from. No location changes nothing. -/
def putLocation (r : Registry ω) (name : ObjectName) : Option Config.Location → Registry ω
  | none => r
  | some location => { r with locations := (name, location) :: withoutLocation name r.locations }

/-- Forget where the configuration of an adapter came from. -/
def removeLocation (r : Registry ω) (name : ObjectName) : Registry ω :=
  { r with locations := withoutLocation name r.locations }

/-- Remember a location that is given as text. -/
def putLocationText (r : Registry ω) (name : ObjectName) (text : String) :
    Except Config.Error (Registry ω) :=
  (Config.Location.ofText text).map fun location => r.putLocation name (some location)

/-- Drop everything that is known of an adapter. -/
def forget (r : Registry ω) (name : ObjectName) : Registry ω :=
  (r.delist name).removeLocation name

/-! ## Understanding configuration -/

/-- The definition that a configuration text spells when it is prepared as the settings say. -/
def unmarshal (r : Registry ω) (text : String) : Except Error AdapterDefinition :=
  match r.collaborators.preprocessors r.settings with
  | .error error => .error (.configuration error)
  | .ok steps =>
    match Config.PreProcessor.runAll steps text with
    | .error error => .error (.configuration error)
    | .ok text => (r.collaborators.marshaller.unmarshal text).mapError .configuration

/-- A definition that breaks no rule. -/
def accept (broken : List Violation) : Except Error Unit :=
  if broken.isEmpty then .ok () else .error (.validation broken)

/-- Check a definition, if the settings say so. -/
def check (r : Registry ω) (d : AdapterDefinition) : Except Error Unit :=
  if r.settings.validationEnabled then accept (r.collaborators.validator d) else .ok ()

/-- Check a configuration text without admitting anything. The rules apply whatever the settings
say, and every failure comes out as one line. -/
def validate (r : Registry ω) (text : String) : Except Error Unit :=
  match r.unmarshal text with
  | .error error => .error error.flattened
  | .ok d =>
    let broken := if r.settings.validationEnabled then r.collaborators.validator d else d.broken
    (accept broken).mapError Error.flattened

/-- The description of a configurable type, as text. -/
def classDefinition (typeName : String) : Except Error String :=
  match Descriptor.find? typeName with
  | some d => .ok d.toJson.pretty
  | none => .error (.core ("no class definition for '" ++ typeName ++ "'"))

end Registry

end IntegrationHost
