import IntegrationHost.Config.Error
import IntegrationHost.Text.Blank
import IntegrationHost.Text.Search

/-!
# Locations

Where a configuration is kept: in a file, or at a URL of any other scheme. A location is read from
its text without the blanks around it.
-/

namespace IntegrationHost.Config

/-- Where a configuration is kept. -/
inductive Location where
  | file (path : String)
  /-- A location of a scheme other than `file`. -/
  | url (text : String)
  deriving DecidableEq, Repr

namespace Location

/-- Read a location. -/
def ofText (text : String) : Except Error Location :=
  let trimmed := Text.trim text
  if trimmed.isEmpty then .error (.invalidLocation text "location is empty")
  else
    match Text.stripStart? "file://" trimmed with
    | some path => .ok (.file path)
    | none =>
      match Text.splitOnce "://" trimmed with
      | some (scheme, _) =>
        if scheme.isEmpty then .error (.invalidLocation text "missing scheme")
        else .ok (.url trimmed)
      | none => .ok (.file trimmed)

/-- The text of a location; of a file it is the bare path. -/
def text : Location → String
  | file path => path
  | url text => text

/-- The path of a file. -/
def path? : Location → Option String
  | file path => some path
  | url _ => none

end Location

end IntegrationHost.Config
