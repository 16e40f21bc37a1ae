import IntegrationHost.Json.Basic
import IntegrationHost.Text.Dictionary

/-!
# Records in JSON

How an object is read whose fields are known by name: fields may come in any order, one that is
known may come once only, and members of other names are passed over. A record may also be written
as the array of its fields.
-/

namespace IntegrationHost.Json

/-- The members whose names are known, if every name is text and none of them repeats. -/
def knownMembers? (names : List String) (members : List (Literal × Json)) :
    Option (List (String × Json)) := do
  let named ← members.mapM fun m => m.1.map fun name => (name, m.2)
  let known := named.filter fun m => names.contains m.1
  if (known.map Prod.fst).Nodup then some known else none

/-- The known fields of an object, or of an array that lists them in order. -/
def record? (names : List String) : Json → Option (List (String × Json))
  | .object members => knownMembers? names members
  | .array items => if items.length ≤ names.length then some (names.zip items) else none
  | _ => none

/-- A field that must be there. -/
def required? {α : Type} (read : Json → Option α) (name : String) (fields : List (String × Json)) :
    Option α :=
  (fields.lookup name).bind read

/-- A field that stands for a default when it is missing. -/
def field? {α : Type} (read : Json → Option α) (default : α) (name : String)
    (fields : List (String × Json)) : Option α :=
  match fields.lookup name with
  | none => some default
  | some value => read value

/-- A field that may be missing or null. -/
def optional? {α : Type} (read : Json → Option α) (name : String) (fields : List (String × Json)) :
    Option (Option α) :=
  match fields.lookup name with
  | none => some none
  | some .null => some none
  | some value => (read value).map some

/-- One of some words: a text, or an object with the word as its only key and nothing under it. -/
def word? : Json → Option String
  | .string s => s
  | .object [(key, .null)] => key
  | _ => none

/-- An array of which every item can be read. -/
def list? {α : Type} (read : Json → Option α) (value : Json) : Option (List α) :=
  value.items?.bind fun items => items.mapM read

/-- An object whose keys and values are all text; the last value of a key stays. -/
def dictionary? : Json → Option Dictionary
  | .object members => do
    let entries ← members.mapM fun m => do
      let key ← m.1
      let value ← m.2.string?
      return (key, value)
    return Dictionary.ofList entries
  | _ => none

/-- A dictionary as an object. -/
def ofDictionary (d : Dictionary) : Json :=
  .ofMembers (d.entries.map fun entry => (entry.1, .ofString entry.2))

end IntegrationHost.Json
