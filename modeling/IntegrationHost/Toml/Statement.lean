import IntegrationHost.Toml.Moment

/-!
# Statements of TOML

A TOML text is a list of statements, a line each unless a value goes on over several lines: the
header of a table, the header of a table in a list, or a value under a key.
-/

namespace IntegrationHost.Toml

open Config

/-- A value as it is written. A table in braces keeps its entries under the paths they are given. -/
inductive Literal where
  | value (value : Value)
  | list (items : List Literal)
  | inline (entries : List (List String × Literal))

instance : Inhabited Literal := ⟨.list []⟩

/-- What a line of a TOML text says. -/
inductive Statement where
  | table (path : List String)
  /-- Another table in the list at a path. -/
  | listed (path : List String)
  | entry (path : List String) (value : Literal)

/-- How deep arrays and tables in braces may be nested, and how many keys a path may have. -/
def nestingLimit : Nat := 79

/-- A value that is neither an array nor a table in braces. -/
def simple? : List Char → Option (Value × List Char)
  | 't' :: 'r' :: 'u' :: 'e' :: rest => some (.bool true, rest)
  | 'f' :: 'a' :: 'l' :: 's' :: 'e' :: rest => some (.bool false, rest)
  | '"' :: rest => (string? ('"' :: rest)).map fun found => (.text found.1, found.2)
  | '\'' :: rest => (string? ('\'' :: rest)).map fun found => (.text found.1, found.2)
  | cs =>
    match moment? cs with
    | some (moment, rest) => some (momentTable moment, rest)
    | none => number? cs

/-- The items of an array behind its opening bracket, given a reader of items and a bound on their
number. There may be a comma behind the last. -/
def items? (item? : List Char → Option (Literal × List Char)) :
    Nat → List Char → Option (List Literal × List Char)
  | 0, _ => none
  | bound + 1, cs => do
    match ← skipFiller false cs with
    | ']' :: rest => return ([], rest)
    | cs =>
      let (item, rest) ← item? cs
      match ← skipFiller false rest with
      | ',' :: rest =>
        let (more, rest) ← items? item? bound rest
        return (item :: more, rest)
      | ']' :: rest => return ([item], rest)
      | _ => none

/-- A key, an equals sign and a value. -/
def assignment? (item? : List Char → Option (Literal × List Char)) (cs : List Char) :
    Option ((List String × Literal) × List Char) := do
  let (path, rest) ← keys? nestingLimit cs
  let rest ← after? '=' (skipSpace rest)
  let (value, rest) ← item? (skipSpace rest)
  return ((path, value), rest)

/-- The entries of a table in braces that are still to come, at least one, given a bound on their
number. -/
def inlineEntries? (item? : List Char → Option (Literal × List Char)) :
    Nat → List Char → Option (List (List String × Literal) × List Char)
  | 0, _ => none
  | bound + 1, cs => do
    let (entry, rest) ← assignment? item? cs
    match skipSpace rest with
    | ',' :: rest =>
      let (more, rest) ← inlineEntries? item? bound rest
      return (entry :: more, rest)
    | '\x7d' :: rest => return ([entry], rest)
    | _ => none

/-- A value in which no more than `levels` arrays and tables are nested. -/
def value? : Nat → List Char → Option (Literal × List Char)
  | 0, cs => (simple? cs).map fun found => (.value found.1, found.2)
  | levels + 1, '[' :: rest =>
    (items? (value? levels) (rest.length + 1) rest).map fun found => (.list found.1, found.2)
  | levels + 1, '\x7b' :: rest =>
    match skipSpace rest with
    | '\x7d' :: rest => some (.inline [], rest)
    | _ =>
      (inlineEntries? (value? levels) (rest.length + 1) rest).map fun found =>
        (.inline found.1, found.2)
  | _, cs => (simple? cs).map fun found => (.value found.1, found.2)

/-- The statement at the start of a line that says something, and what follows its line. -/
def statement? (cs : List Char) : Option (Statement × List Char) := do
  match cs with
  | '[' :: '[' :: rest =>
    let (path, rest) ← keys? nestingLimit rest
    let rest ← after? ']' (skipSpace rest)
    return (.listed path, ← lineEnd? (← after? ']' rest))
  | '[' :: rest =>
    let (path, rest) ← keys? nestingLimit rest
    return (.table path, ← lineEnd? (← after? ']' (skipSpace rest)))
  | cs =>
    let (entry, rest) ← assignment? (value? nestingLimit) cs
    return (.entry entry.1 entry.2, ← lineEnd? rest)

/-- The statements of characters, of which there are no more than `bound`. -/
def statementsWithin : Nat → List Char → Option (List Statement)
  | bound, cs => do
    match ← skipFiller false cs with
    | [] => return []
    | cs =>
      match bound with
      | 0 => none
      | bound + 1 =>
        let (statement, rest) ← statement? cs
        return statement :: (← statementsWithin bound rest)

/-- The statements of a text. A mark of byte order in front is no part of it. -/
def statements? (text : String) : Option (List Statement) :=
  let cs := match text.toList with
    | '\ufeff' :: cs => cs
    | cs => cs
  statementsWithin cs.length cs

end IntegrationHost.Toml
