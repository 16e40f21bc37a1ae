import IntegrationHost.Config.Error
import IntegrationHost.Json.Record
import IntegrationHost.Text.Blank
import IntegrationHost.Text.Search

/-!
# Settings

What a registry has to know before there is any adapter: its own id, where the configuration of its
adapters is kept, which pre-processors run over it, whether it is checked, and the command that
brings it up to date.
-/

namespace IntegrationHost.Config

/-- The settings of a registry. -/
structure Settings where
  registryId : Option String
  adapterConfigUrl : Option String
  validateConfig : Bool
  /-- An older name of `validateConfig`. -/
  enableValidation : Option Bool
  /-- The names of pre-processors, in the order in which they run. -/
  preprocessors : List String
  bindings : Dictionary
  /-- The command that updates the configuration. -/
  versionControl : Option String
  deriving DecidableEq

namespace Settings

/-- Nothing is set, and configuration is checked. -/
def default : Settings := ⟨none, none, true, none, [], .empty, none⟩

instance : Inhabited Settings := ⟨default⟩

/-- Whether configuration is checked; either name can switch that off. -/
def validationEnabled (s : Settings) : Bool :=
  s.validateConfig && s.enableValidation.getD true

/-- Where the configuration of the adapters is kept. -/
def adapterLocation (s : Settings) : Except Error String :=
  match s.adapterConfigUrl with
  | some url => .ok url
  | none => .error (.missingRequiredField "adapter_config_url" "bootstrap")

/-- Whether a text can be the id of a registry. -/
def isRegistryId (id : String) : Bool :=
  !Text.isBlank id && !Text.hasAny [':', ',', '='] id

/-- The first of the settings that cannot be used. -/
def flaw? (s : Settings) : Option Error :=
  let badId := (s.registryId.filter fun id => !isRegistryId id).map fun id =>
    Error.invalidValue "registry_id" id "must be non-blank and free of ':', ',' and '='"
  let badUrl := (s.adapterConfigUrl.filter Text.isBlank).map fun url =>
    Error.invalidValue "adapter_config_url" url "must not be blank"
  let badName := (s.preprocessors.find? Text.isBlank).map fun name =>
    Error.invalidValue "preprocessors" name "pre-processor names must not be blank"
  let badCommand := (s.versionControl.filter Text.isBlank).map fun command =>
    Error.invalidValue "version_control" command "must not be blank"
  badId <|> badUrl <|> badName <|> badCommand

/-- Settings that can be used. -/
def check (s : Settings) : Except Error Unit :=
  match s.flaw? with
  | some error => .error error
  | none => .ok ()

/-! ## As JSON -/

/-- The names of the settings, in order. -/
def fieldNames : List String :=
  ["registry_id", "adapter_config_url", "validate_config", "enable_validation", "preprocessors",
    "variables", "version_control"]

/-- Settings as an object, in which none is left out. -/
def toJson (s : Settings) : Json :=
  .ofMembers
    [("registry_id", .ofOption (s.registryId.map .ofString)),
      ("adapter_config_url", .ofOption (s.adapterConfigUrl.map .ofString)),
      ("validate_config", .bool s.validateConfig),
      ("enable_validation", .ofOption (s.enableValidation.map .bool)),
      ("preprocessors", .array (s.preprocessors.map .ofString)),
      ("variables", .ofDictionary s.bindings),
      ("version_control", .ofOption (s.versionControl.map .ofString))]

/-- Read settings; each has its default when it is missing. -/
def ofJson? (json : Json) : Option Settings := do
  let fields ← json.record? fieldNames
  return {
    registryId := ← Json.optional? Json.string? "registry_id" fields
    adapterConfigUrl := ← Json.optional? Json.string? "adapter_config_url" fields
    validateConfig := ← Json.field? Json.bool? true "validate_config" fields
    enableValidation := ← Json.optional? Json.bool? "enable_validation" fields
    preprocessors := ← Json.field? (Json.list? Json.string?) [] "preprocessors" fields
    bindings := ← Json.field? Json.dictionary? .empty "variables" fields
    versionControl := ← Json.optional? Json.string? "version_control" fields }

end Settings

end IntegrationHost.Config
