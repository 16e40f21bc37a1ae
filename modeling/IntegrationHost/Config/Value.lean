import IntegrationHost.Double
import IntegrationHost.Text.Digits
import IntegrationHost.Text.LowerCase

/-!
# Values of settings

Settings come from several sources, a file and the environment, and are put together in one table
before they are looked at. Keys do not distinguish capitals from small letters: they are kept in
lower case. A later value takes the place of an earlier one, and a later table is merged into an
earlier one.
-/

namespace IntegrationHost.Config

/-- A value under a key. -/
inductive Value where
  /-- Fills up a list in front of an item that was put far behind. -/
  | absent
  | text (value : String)
  | bool (value : Bool)
  | integer (value : Int)
  | double (value : Double)
  | list (items : List Value)
  | table (entries : List (String × Value))

instance : Inhabited Value := ⟨.absent⟩

namespace Value

/-- A table with nothing in it. -/
def emptyTable : Value := table []

/-- The entries of a table; anything else has none. -/
def entries : Value → List (String × Value)
  | table entries => entries
  | _ => []

/-- The items of a list; anything else has none. -/
def items : Value → List Value
  | list items => items
  | _ => []

/-- The value under a key. -/
def get? (v : Value) (key : String) : Option Value := v.entries.lookup key

/-- Entries with a value under a key, in place of any value already there. -/
def putEntry (key : String) (value : Value) : List (String × Value) → List (String × Value)
  | [] => [(key, value)]
  | (k, v) :: rest => if k = key then (key, value) :: rest else (k, v) :: putEntry key value rest

/-- A table with a value under a key in lower case. What is no table becomes one. -/
def put (root : Value) (key : String) (value : Value) : Value :=
  table (putEntry (Text.lower key) value root.entries)

mutual

/-- Put a value under a key; a table is merged into what is there. -/
def assign (root : Value) (key : String) : Value → Value
  | table incoming =>
    root.put key (assignAll ((root.get? (Text.lower key)).getD emptyTable) incoming)
  | value => root.put key value

/-- Put values under keys, one after the other. -/
def assignAll (root : Value) : List (String × Value) → Value
  | [] => root
  | (key, value) :: rest => assignAll (assign root key value) rest

end

/-! ## Paths -/

/-- A step from a value to one of its parts. -/
inductive Step where
  | key (name : String)
  /-- An item of a list; a negative index counts from the end. -/
  | index (i : Int)
  deriving DecidableEq, Repr

/-- A list with the item at an index changed. The list is filled up as far as is needed, at its
front for an index that lies before it. -/
def changeItem (i : Int) (f : Value → Value) (items : List Value) : List Value :=
  if 0 ≤ i then
    let n := i.toNat
    let filled := items ++ List.replicate (n + 1 - items.length) absent
    filled.modify n f
  else
    let back := (-i).toNat
    let filled := List.replicate (back - items.length) absent ++ items
    filled.modify (filled.length - back) f

/-- Put a value at the end of a path; what is in the way of the path is replaced. -/
def putAt (value : Value) : List Step → Value → Value
  | [], _ => value
  | [.key name], root => assign root name value
  | .key name :: rest, root =>
    root.put name (putAt value rest ((root.get? (Text.lower name)).getD absent))
  | .index i :: rest, root => list (changeItem i (putAt value rest) root.items)

/-- A character of a plain name in a path. -/
def isNameChar (c : Char) : Bool :=
  c.isAlphanum || c == ' ' || c == '_' || c == '-'

/-- The plain name at the start, and what follows it. -/
def name? (cs : List Char) : Option (String × List Char) :=
  match cs.takeWhile isNameChar with
  | [] => none
  | name => some (String.ofList name, cs.dropWhile isNameChar)

/-- The index behind an opening bracket, and what follows the closing one. It fits 64 bits. -/
def index? (cs : List Char) : Option (Int × List Char) :=
  let cs := cs.dropWhile fun c => c == ' ' || c == '\t'
  let (negative, cs) := match cs with
    | '-' :: cs => (true, cs)
    | cs => (false, cs)
  let digits := cs.takeWhile Char.isDigit
  let rest := (cs.dropWhile Char.isDigit).dropWhile fun c => c == ' ' || c == '\t'
  match digits, rest with
  | [], _ => none
  | digits, ']' :: rest =>
    (Text.int64? negative (digits.foldl (fun n d => n * 10 + (d.toNat - '0'.toNat)) 0)).map
      fun i => (i, rest)
  | _, _ => none

/-- The steps behind the first name, given a bound on their number. -/
def steps? : Nat → List Char → Option (List Step)
  | _, [] => some []
  | 0, _ => none
  | bound + 1, '.' :: cs => do
    let (name, rest) ← name? cs
    return .key name :: (← steps? bound rest)
  | bound + 1, '[' :: cs => do
    let (i, rest) ← index? cs
    return .index i :: (← steps? bound rest)
  | _, _ => none

/-- The steps that characters spell: names with points between them, and indices in brackets. -/
def spelled? (cs : List Char) : Option (List Step) := do
  let (name, rest) ← name? cs
  return .key name :: (← steps? rest.length rest)

/-- The path that a key spells, as it stands or else in lower case. A key that spells none is one
name. -/
def path (key : String) : List Step :=
  (spelled? key.toList <|> spelled? (Text.lower key).toList).getD [.key key]

/-- A table with a value at the path that a key spells. -/
def set (root : Value) (key : String) (value : Value) : Value := putAt value (path key) root

/-! ## Reading values -/

/-- The text of a value; numbers and Booleans are written out. -/
def text? : Value → Option String
  | text s => some s
  | bool b => some (if b then "true" else "false")
  | integer n => some (toString n)
  | double d => some d.text
  | _ => none

/-- The Boolean of a value; numbers other than zero are true, and so are some words. -/
def bool? : Value → Option Bool
  | bool b => some b
  | integer n => some (n != 0)
  | double d => some (!d.isZero)
  | text s =>
    let word := Text.lower s
    if ["1", "true", "on", "yes"].contains word then some true
    else if ["0", "false", "off", "no"].contains word then some false
    else none
  | _ => none

/-- The texts of a list. -/
def texts? : Value → Option (List String)
  | list items => items.mapM text?
  | _ => none

/-- The texts of a table. -/
def textEntries? : Value → Option (List (String × String))
  | table entries => entries.mapM fun entry => entry.2.text?.map fun text => (entry.1, text)
  | _ => none

end Value

end IntegrationHost.Config
