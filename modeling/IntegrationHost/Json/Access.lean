import IntegrationHost.Json.Record

/-!
# Looking into JSON

Lenient access to the parts of a value, for documents of which only some parts matter: what is
missing, or is of another type, reads as nothing.
-/

namespace IntegrationHost.Json

/-- The value of the first member of a name, and `null` when there is none. -/
def get (json : Json) (key : String) : Json :=
  match json with
  | .object members => ((members.find? fun m => m.1 == some key).map Prod.snd).getD .null
  | _ => .null

/-- Whether a member is there and not `null`. -/
def has (json : Json) (key : String) : Bool :=
  match json.get key with
  | .null => false
  | _ => true

/-- The text of a string. -/
def text (json : Json) : String := json.string?.getD ""

/-- The text of a member. -/
def textAt (json : Json) (key : String) : String := (json.get key).text

/-- The text of a member that may be missing. -/
def textAt? (json : Json) (key : String) : Option String := (json.get key).string?

/-- The value of a natural number of any size. -/
def natural? : Json → Option Nat
  | .number n => n.nat?
  | _ => none

/-- The natural number of a member. -/
def naturalAt (json : Json) (key : String) : Nat := ((json.get key).natural?).getD 0

/-- Whether a value is `true`. -/
def isTrue : Json → Bool
  | .bool b => b
  | _ => false

/-- The items of an array. -/
def list (json : Json) : List Json := json.items?.getD []

/-- The items of the array of a member. -/
def listAt (json : Json) (key : String) : List Json := (json.get key).list

/-- The texts of the array of a member. -/
def textsAt (json : Json) (key : String) : List String := (json.listAt key).map text

/-- The members of an object whose names are text. -/
def entries : Json → List (String × Json)
  | .object members => members.filterMap fun m => m.1.map fun key => (key, m.2)
  | _ => []

/-- The texts of the members of an object, under their names. -/
def textEntries (json : Json) : List (String × String) :=
  json.entries.map fun entry => (entry.1, entry.2.text)

/-- The texts of the members of an object, as a dictionary. -/
def dictionary (json : Json) : Dictionary := Dictionary.ofList json.textEntries

/-- Texts as an array. -/
def ofTexts (texts : List String) : Json := .array (texts.map .ofString)

end IntegrationHost.Json
