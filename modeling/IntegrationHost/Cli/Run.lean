import IntegrationHost.Cli.Manual
import IntegrationHost.Config.Marshaller
import IntegrationHost.Config.PreProcessor
import IntegrationHost.Config.Sources
import IntegrationHost.Config.Transport
import IntegrationHost.Descriptor

/-!
# The command line

Checks the configuration of an adapter before a host has to do with it, and describes the types that
it is made of. What comes out is a function of the arguments, the environment and what is seen at a
few paths.
-/

namespace IntegrationHost.Cli

open Config

/-- What comes out: a status, and what is written to the two outputs. -/
structure Outcome where
  status : Nat
  out : String
  err : String
  deriving DecidableEq, Repr

namespace Outcome

/-- All is well. -/
def good (out : String) : Outcome := ⟨0, out, ""⟩

/-- Something is wrong that the words say. -/
def bad (out words : String) : Outcome := ⟨1, out, words ++ "\n"⟩

end Outcome

/-- The file with the settings, unless another one is named. -/
def defaultBootstrap : String := "bootstrap.toml"

/-- The file with the settings: the one that is named, or the default one if something is there. -/
def bootstrapPath (look : Look) (o : Options) : Option String :=
  o.bootstrap <|> (some defaultBootstrap).filter look.seesAny

/-- How answers are written. -/
inductive Format where
  | table
  | json
  deriving DecidableEq, Repr

/-- The format of a name. Every name but one is that of a table. -/
def Format.ofName? : Option String → Format
  | some "json" => json
  | _ => table

/-- The configuration at a location that is given as text. A failure comes in words. -/
def readDefinition (look : Look) (environment : Environment) (o : Options) (text : String) :
    Except String (Location × AdapterDefinition) := do
  let settings ← (Settings.load look (bootstrapPath look o) environment).mapError fun e =>
    "loading bootstrap configuration: " ++ e.message
  let location ← (Location.ofText text).mapError Config.Error.message
  let raw ← (Transport.textAt look location).mapError fun e =>
    "reading " ++ location.text ++ ": " ++ e.spelledOut
  let steps ← (PreProcessor.ofSettings settings).mapError Config.Error.message
  let prepared ← (PreProcessor.runAll steps raw).mapError Config.Error.message
  let definition ← (Marshaller.ofJson prepared).mapError Config.Error.message
  return (location, definition)

/-- The answer about configuration that breaks no rule. -/
def approval (format : Format) (location : Location) (d : AdapterDefinition) : String :=
  match format with
  | .table =>
    location.text ++ ": OK (" ++ toString d.channels.length ++ " channels)\n"
  | .json =>
    (Json.ofMembers [("location", .ofString location.text), ("valid", .bool true)]).compact ++ "\n"

/-- The broken rules. -/
def objection (format : Format) (broken : List Violation) : String :=
  match format with
  | .table => lines (broken.map Violation.text)
  | .json => (Violation.listJson broken).pretty ++ "\n"

/-- Check the configuration at a location. -/
def validate (look : Look) (environment : Environment) (o : Options) (text : String) : Outcome :=
  let format := Format.ofName? o.format
  match readDefinition look environment o text with
  | .error words => .bad "" words
  | .ok (location, d) =>
    let broken := d.violations ""
    if broken.isEmpty then .good (approval format location d)
    else
      .bad (objection format broken)
        (location.text ++ ": " ++ toString broken.length ++ " violation(s)")

/-- Describe a type. -/
def describe (typeName : String) : Outcome :=
  match Descriptor.find? typeName with
  | some d => .good (d.toJson.pretty ++ "\n")
  | none =>
    .bad "" ("unknown type '" ++ typeName ++ "', expected one of: " ++
      ", ".intercalate Descriptor.names)

/-- Do what is asked for. -/
def serve (look : Look) (environment : Environment) : Request → Outcome
  | .run o (.validate location) => validate look environment o location
  | .run _ (.describe typeName) => describe typeName
  | .run _ .types => .good (lines Descriptor.names)
  | .help topic => .good (help topic)
  | .version => .good (programName ++ " " ++ version ++ "\n")

/-- What comes of arguments. -/
def run (look : Look) (environment : Environment) (arguments : List String) : Outcome :=
  match Request.ofArguments arguments with
  | .ok request => serve look environment request
  | .error e => ⟨2, "", e.report⟩

/-- The paths that are looked at for a request, and perhaps some more. -/
def paths : Request → List String
  | .run o (.validate text) =>
    let bootstrap := o.bootstrap.getD defaultBootstrap
    let location := ((Location.ofText text).toOption.bind Location.path?).toList
    bootstrap :: (Settings.withEnding? bootstrap).toList ++ location
  | _ => []

end IntegrationHost.Cli
