import IntegrationHost.Toml.Statement

/-!
# TOML documents

How statements make up a table. No key is given twice and no table is opened twice. A table that
only stands on the way to another one can still be opened by a header of its own, one that was made
by a key with points only by such keys, and one in braces is complete as it stands.
-/

namespace IntegrationHost.Toml

open Config

/-- How a table came to be. -/
inductive Origin where
  /-- It was opened by a header. -/
  | opened
  /-- It lies on the way to a table with a header. -/
  | passed
  /-- It lies on the way to the value of a key with points. -/
  | dotted
  deriving DecidableEq

/-- A part of a document under way. -/
inductive Node where
  | leaf (value : Value)
  | table (origin : Origin) (entries : List (String × Node))
  /-- Tables in a list, of which the last is under way; it is kept in front. -/
  | listed (last : List (String × Node)) (before : List (List (String × Node)))

namespace Node

/-- Entries with one of them put in place or added at the end. -/
def put (key : String) (node : Node) : List (String × Node) → List (String × Node)
  | [] => [(key, node)]
  | (k, n) :: rest => if k = key then (key, node) :: rest else (k, n) :: put key node rest

mutual

/-- The value of a finished part. -/
def value : Node → Value
  | leaf v => v
  | table _ entries => .table (values entries)
  | listed last before => .list (tables before ++ [.table (values last)])

/-- The values of finished entries. -/
def values : List (String × Node) → List (String × Value)
  | [] => []
  | (key, node) :: rest => (key, node.value) :: values rest

/-- The tables of a list, the last of which stands in front. -/
def tables : List (List (String × Node)) → List Value
  | [] => []
  | entries :: rest => tables rest ++ [.table (values entries)]

end

/-- The entries of a part, a change of them, and how the part looks after it; a value has none. -/
def change? (f : List (String × Node) → Option (List (String × Node))) : Node → Option Node
  | leaf _ => none
  | table origin entries => (f entries).map (table origin)
  | listed last before => (f last).map fun last => listed last before

/-- Change the entries at the end of a path of headers, making the tables on the way. -/
def descend? (f : List (String × Node) → Option (List (String × Node))) :
    List String → List (String × Node) → Option (List (String × Node))
  | [], entries => f entries
  | key :: path, entries => do
    let node := (entries.lookup key).getD (table .passed [])
    let node ← node.change? (descend? f path)
    return put key node entries

/-- Put a value under a key that is not there yet. -/
def add? (key : String) (node : Node) (entries : List (String × Node)) :
    Option (List (String × Node)) :=
  if (entries.lookup key).isSome then none else some (entries ++ [(key, node)])

/-- Put a value at the end of a path of keys with points. Such a path may go on through tables on
the way to headers and through the last table of a list, but it ends in a table of its own kind. -/
def enter? (leaf : Node) : List String → List (String × Node) → Option (List (String × Node))
  | [], _ => none
  | [key], entries => add? key leaf entries
  | key :: path, entries =>
    match (entries.lookup key).getD (table .dotted []) with
    | table origin inner =>
      if origin = .opened ∨ (path.length = 1 ∧ origin ≠ .dotted) then none
      else (enter? leaf path inner).map fun inner => put key (table origin inner) entries
    | listed last before =>
      if path.length = 1 then none
      else (enter? leaf path last).map fun last => put key (listed last before) entries
    | .leaf _ => none

/-- Open a table. One that is there already goes to the end. -/
def openTable? (key : String) (entries : List (String × Node)) : Option (List (String × Node)) :=
  let opened (inner : List (String × Node)) : List (String × Node) :=
    entries.filter (fun entry => entry.1 != key) ++ [(key, table .opened inner)]
  match entries.lookup key with
  | none => some (opened [])
  | some (table .passed inner) => some (opened inner)
  | some _ => none

/-- Open another table of a list. -/
def openListed? (key : String) (entries : List (String × Node)) : Option (List (String × Node)) :=
  match entries.lookup key with
  | none => some (put key (listed [] []) entries)
  | some (listed last before) => some (put key (listed [] (last :: before)) entries)
  | some _ => none

end Node

/-- A step over a list that may fail. -/
def foldOption {α β : Type} (f : β → α → Option β) : β → List α → Option β
  | state, [] => some state
  | state, a :: rest => (f state a).bind fun state => foldOption f state rest

mutual

/-- The value that a literal stands for. -/
def Literal.value? : Literal → Option Value
  | .value v => some v
  | .list items => (valueAll? items).map .list
  | .inline entries => (entryAll? [] entries).map fun entries => .table (Node.values entries)

/-- The values of literals. -/
def valueAll? : List Literal → Option (List Value)
  | [] => some []
  | item :: rest => do return (← item.value?) :: (← valueAll? rest)

/-- Entries with those of a table in braces added to them. -/
def entryAll? (into : List (String × Node)) :
    List (List String × Literal) → Option (List (String × Node))
  | [] => some into
  | (path, literal) :: rest => do
    let value ← literal.value?
    entryAll? (← Node.enter? (.leaf value) path into) rest

end

/-- A document under way: its entries, and the path of the last header. -/
structure Document where
  path : List String
  entries : List (String × Node)

namespace Document

/-- Take in a statement. -/
def step? (d : Document) : Statement → Option Document
  | .entry path literal => do
    let value ← literal.value?
    return { d with entries := ← Node.descend? (Node.enter? (.leaf value) path) d.path d.entries }
  | .table path => do
    let key ← path.getLast?
    return ⟨path, ← Node.descend? (Node.openTable? key) path.dropLast d.entries⟩
  | .listed path => do
    let key ← path.getLast?
    return ⟨path, ← Node.descend? (Node.openListed? key) path.dropLast d.entries⟩

end Document

/-- The entries of the table that a text spells. -/
def read? (text : String) : Option (List (String × Value)) := do
  let document ← foldOption Document.step? ⟨[], []⟩ (← statements? text)
  match ← settle? (.table (Node.values document.entries)) with
  | .table entries => return entries
  | _ => none

end IntegrationHost.Toml
