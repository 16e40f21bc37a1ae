import IntegrationHost.Json.Access
import IntegrationHost.Rehearsal.Programs
import IntegrationHost.Registry.Basic

/-!
# Scripted collaborators

What a registry leaves to others, played by components that a script describes. A part that the
script does not mention is left to the collaborators that come with the host.
-/

namespace IntegrationHost.Rehearsal

open Config

/-- Files with those that an object lists under their paths: texts, bytes as `hex`, and
directories. -/
def withFiles (files : Files) (json : Json) : Files :=
  json.entries.foldl (fun files entry =>
    let found : FileEntry :=
      match entry.2.textAt? "hex" with
      | some digits => .file (.ofBytes (bytes digits.toList))
      | none => if (entry.2.get "dir").isTrue then .directory else .file (.text entry.2.text)
    files.install files.home entry.1 found) files
where
  /-- The bytes that pairs of hexadecimal digits spell. -/
  bytes : List Char → List UInt8
    | high :: low :: rest =>
      UInt8.ofNat ((Json.hexValue? high).getD 0 * 16 + (Json.hexValue? low).getD 0) :: bytes rest
    | _ => []

/-- The files that an object lists, in a working directory of their own. -/
def filesOf (json : Json) : Files :=
  let home : Place := ⟨["tmp", "rehearsal"]⟩
  withFiles (Files.plant .directory { Files.empty with home } [] home.steps) json

/-- A pre-processor: it fills in variables, fails, or puts one text in place of another. Variables
that are not all texts are none. -/
def preProcessor? (json : Json) : Option PreProcessor :=
  let name := (json.textAt? "name").getD "step"
  if json.has "variables" then (json.get "variables").dictionary?.map .substitution
  else if json.has "fail" then
    some ⟨name, fun _ => .error (.preProcessing name (json.textAt "fail"))⟩
  else some ⟨name, fun text => .ok (Text.replace (json.textAt "from") (json.textAt "to") text)⟩

/-- The pre-processors of a list. -/
def chain? (json : Json) : Option (List PreProcessor) := json.list.mapM preProcessor?

/-- Version control that puts files in place and may fail then. -/
def versionControl (json : Json) : VersionControl Stage where
  name := json.textAt "name"
  update stage :=
    let files := withFiles stage.files (json.get "writes")
    (match json.textAt? "fail" with
      | some reason => .error (.versionControl (json.textAt "name") reason)
      | none => .ok (),
      { stage with files })

/-- Definitions as JSON below a line that names them. -/
def headed : Marshaller where
  marshal d := "# " ++ d.id ++ "\n" ++ Marshaller.json.marshal d
  unmarshal text :=
    match Text.stripStart? "# " text with
    | none => .error (.unmarshal Error.detail)
    | some rest =>
      match rest.toList.dropWhile (· != '\n') with
      | [] => .error (.unmarshal Error.detail)
      | _ :: body => Marshaller.ofJson (String.ofList body)

/-- The violations of a list of paths and messages. -/
def violations (json : Json) : List Violation :=
  json.list.map fun pair =>
    match pair.list with
    | [path, message] => ⟨path.text, message.text⟩
    | _ => ⟨"", ""⟩

/-- The collaborators of a registry, if its pre-processors can be read. -/
def collaborators? (json : Json) : Option (Collaborators Stage) := do
  let standard := Collaborators.standard Stage
  let scripted ← chain? (json.get "preprocessors")
  return {
    transport :=
      if json.has "memory" then
        let memory := json.get "memory"
        Stage.memoryTransport (memory.textAt? "fail_write") (memory.textAt? "fail_flush")
      else standard.transport
    preprocessors :=
      if json.has "preprocessors" then fun _ => .ok scripted else standard.preprocessors
    marshaller := if json.has "marshaller" then headed else standard.marshaller
    validator := fun d => standard.validator d ++ violations (json.get "validator")
    versionControl :=
      if json.has "version_control" then some (versionControl (json.get "version_control"))
      else none }

end IntegrationHost.Rehearsal
