import IntegrationHost.ExternalError
import IntegrationHost.Text.Search

/-!
# Configuration failures

Why the settings of the host, or the configuration of an adapter, could not be used. Details that
come from a parser differ from one parser to another and are written as `<detail>`.
-/

namespace IntegrationHost.Config

/-- Why a configuration could not be used. -/
inductive Error where
  /-- The settings could not be read. -/
  | load (error : ExternalError)
  | missingRequiredField (field context : String)
  | invalidValue (field value context : String)
  | invalidLocation (location reason : String)
  | unsupportedLocation (location : String)
  | unknownPreProcessor (name : String)
  | preProcessing (name reason : String)
  /-- The text is not the configuration of an adapter. -/
  | unmarshal (reason : String)
  | versionControl (name reason : String)
  deriving DecidableEq, Repr

namespace Error

/-- The kind of a failure, as it is named in reports. -/
def kind : Error → String
  | load _ => "Load"
  | missingRequiredField .. => "MissingRequiredField"
  | invalidValue .. => "InvalidValue"
  | invalidLocation .. => "InvalidLocation"
  | unsupportedLocation _ => "UnsupportedLocation"
  | unknownPreProcessor _ => "UnknownPreProcessor"
  | preProcessing .. => "PreProcessing"
  | unmarshal _ => "Unmarshal"
  | versionControl .. => "VersionControl"

/-- What details are written as. -/
def detail : String := "<detail>"

/-- How the wording of a failure to read the settings begins. Details follow. -/
def loading : String := "Failed to load bootstrap configuration: "

/-- How the wording of a failure to read the configuration of an adapter begins. Details follow. -/
def unmarshalling : String := "Failed to unmarshal adapter configuration: "

/-- The wording of a failure. -/
def message : Error → String
  | load error => loading ++ error.message
  | missingRequiredField field context =>
    "Missing required configuration field '" ++ field ++ "' in " ++ context
  | invalidValue field value context =>
    "Invalid value '" ++ value ++ "' for field '" ++ field ++ "': " ++ context
  | invalidLocation location reason =>
    "Invalid configuration location '" ++ location ++ "': " ++ reason
  | unsupportedLocation location => "Unsupported configuration location '" ++ location ++ "'"
  | unknownPreProcessor name => "Unknown configuration pre-processor '" ++ name ++ "'"
  | preProcessing name reason => "Pre-processor '" ++ name ++ "' failed: " ++ reason
  | unmarshal reason => unmarshalling ++ reason
  | versionControl name reason => "Version control '" ++ name ++ "' failed: " ++ reason

/-- The wordings of what lies behind a failure, the nearest first. -/
def causes : Error → List String
  | load error => error.message :: error.causes
  | _ => []

end Error

end IntegrationHost.Config
