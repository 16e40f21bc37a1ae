import IntegrationHost.Config.Settings
import IntegrationHost.Config.Template

/-!
# Pre-processors

Configuration is text before it is anything else, and pre-processors change that text, one after the
other. The one that comes with the host fills in variables.
-/

namespace IntegrationHost.Config

/-- A step in the preparation of configuration text. -/
structure PreProcessor where
  name : String
  run : String → Except Error String

namespace PreProcessor

/-- The name of the pre-processor that fills in variables. -/
def substitutionName : String := "variable-substitution"

/-- Fill in variables; each that is referred to has to be defined. -/
def substitution (bindings : Dictionary) : PreProcessor where
  name := substitutionName
  run text :=
    (Template.fill bindings text).mapError fun name =>
      .preProcessing substitutionName ("variable '" ++ name ++ "' is not defined")

/-- Run pre-processors over a text, in order. -/
def runAll : List PreProcessor → String → Except Error String
  | [], text => .ok text
  | step :: rest, text =>
    match step.run text with
    | .ok text => runAll rest text
    | .error error => .error error

/-- The pre-processor of a name, with the blanks around the name left out. -/
def named (bindings : Dictionary) (name : String) : Except Error PreProcessor :=
  let trimmed := Text.trim name
  if trimmed = substitutionName then .ok (substitution bindings)
  else .error (.unknownPreProcessor trimmed)

/-- The pre-processors of names, in order. -/
def allNamed (bindings : Dictionary) : List String → Except Error (List PreProcessor)
  | [] => .ok []
  | name :: rest =>
    match named bindings name with
    | .error error => .error error
    | .ok step => (allNamed bindings rest).map (step :: ·)

/-- The pre-processors that settings ask for. -/
def ofSettings (s : Settings) : Except Error (List PreProcessor) :=
  allNamed s.bindings s.preprocessors

end PreProcessor

end IntegrationHost.Config
