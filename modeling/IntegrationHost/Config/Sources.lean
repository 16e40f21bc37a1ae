import IntegrationHost.Config.Environment
import IntegrationHost.Config.Settings
import IntegrationHost.Files
import IntegrationHost.Toml.Document

/-!
# Where settings come from

Settings are read from a TOML text, from the environment, or from both; the environment wins. A file
may be named without the ending `.toml`. What cannot be read as settings, and settings that cannot
be used, are failures.
-/

namespace IntegrationHost.Config.Settings

/-- A setting that may be missing. -/
def optional? {α : Type} (read : Value → Option α) (root : Value) (key : String) :
    Option (Option α) :=
  match root.get? key with
  | none => some none
  | some .absent => some none
  | some value => (read value).map some

/-- A setting that has a default. -/
def defaulted? {α : Type} (read : Value → Option α) (default : α) (root : Value) (key : String) :
    Option α :=
  match root.get? key with
  | none => some default
  | some value => read value

/-- The settings in a table. -/
def ofValue? (root : Value) : Option Settings := do
  return {
    registryId := ← optional? Value.text? root "registry_id"
    adapterConfigUrl := ← optional? Value.text? root "adapter_config_url"
    validateConfig := ← defaulted? Value.bool? true root "validate_config"
    enableValidation := ← optional? Value.bool? root "enable_validation"
    preprocessors := ← defaulted? Value.texts? [] root "preprocessors"
    bindings := .ofList (← defaulted? Value.textEntries? [] root "variables")
    versionControl := ← optional? Value.text? root "version_control" }

/-- The table of a TOML text. -/
def tableOf? (text : String) : Option Value :=
  (Toml.read? text).map fun entries =>
    entries.foldl (fun root entry => root.set entry.1 entry.2) .emptyTable

/-- Settings from a table, if there are any, that can be used. -/
def usable (root : Option Value) : Except Error Settings :=
  match root.bind ofValue? with
  | none => .error (.load (.plain Error.detail))
  | some s => s.check.map fun () => s

/-- Settings from a TOML text. -/
def ofToml (text : String) : Except Error Settings := usable (tableOf? text)

/-- Settings from the environment alone. -/
def ofEnvironment (environment : Environment) : Except Error Settings :=
  usable (some (environment.putInto .emptyTable))

/-- Settings from a TOML text and the environment. -/
def ofBoth (text : String) (environment : Environment) : Except Error Settings :=
  usable ((tableOf? text).map environment.putInto)

/-- The ending of files that hold settings. -/
def ending : String := ".toml"

/-- A path with the ending. There is none for a path that does not end in a name. -/
def withEnding? (path : String) : Option String :=
  let isVoid (step : String) : Bool := step == "" || step == "."
  let named := ((Text.split "/" path).reverse.dropWhile isVoid).reverse
  match named.getLast? with
  | none => none
  | some ".." => none
  | some _ => some ("/".intercalate named ++ ending)

/-- The file that a path stands for: the one at the path, or else the one with the ending. -/
def fileFor? (look : Look) (path : String) : Option String :=
  if look.seesFile path then some path else (withEnding? path).filter look.seesFile

/-- The settings in a file, if one is named, and in the environment. The file has to hold text. -/
def load (look : Look) (path : Option String) (environment : Environment) :
    Except Error Settings :=
  match path with
  | none => ofEnvironment environment
  | some path =>
    match (fileFor? look path).map look.text with
    | some (.ok text) => ofBoth text environment
    | _ => .error (.load (.plain Error.detail))

end IntegrationHost.Config.Settings
