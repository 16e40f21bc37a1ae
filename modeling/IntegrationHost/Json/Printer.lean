import IntegrationHost.Json.Basic

/-!
# Writing JSON

Two layouts: on one line without blanks, and with one item or member a line, indented by two blanks
a level. Empty arrays and objects stay on one line in both.
-/

namespace IntegrationHost.Json

/-- The digit of a value below sixteen. -/
def hexDigit (n : Nat) : Char :=
  if n < 10 then Char.ofNat ('0'.toNat + n) else Char.ofNat ('a'.toNat + (n - 10))

/-- A character as it is written inside a string literal. -/
def escape (c : Char) : List Char :=
  match c with
  | '"' => ['\\', '"']
  | '\\' => ['\\', '\\']
  | '\x08' => ['\\', 'b']
  | '\x0c' => ['\\', 'f']
  | '\n' => ['\\', 'n']
  | '\r' => ['\\', 'r']
  | '\t' => ['\\', 't']
  | c =>
    if c.toNat < 0x20 then ['\\', 'u', '0', '0', hexDigit (c.toNat / 16), hexDigit (c.toNat % 16)]
    else [c]

/-- A text as a string literal. -/
def quote (s : String) : String :=
  String.ofList ('"' :: s.toList.flatMap escape ++ ['"'])

/-- A literal that stands for no text is written as nothing between quotes. -/
def printLiteral (l : Literal) : String :=
  quote (l.getD "")

/-- A number as it was spelled. -/
def printNumeral (n : Numeral) : String :=
  let sign := if n.negative then "-" else ""
  let fraction := match n.fraction with
    | none => ""
    | some digits => "." ++ String.ofList digits
  let exponent := match n.exponent with
    | none => ""
    | some (minus, value) => (if minus then "e-" else "e") ++ toString value
  sign ++ toString n.whole ++ fraction ++ exponent

mutual

/-- A value on one line. -/
def compact : Json → String
  | .null => "null"
  | .bool true => "true"
  | .bool false => "false"
  | .number n => printNumeral n
  | .string s => printLiteral s
  | .array items => "[" ++ compactItems items ++ "]"
  | .object members => "\x7b" ++ compactMembers members ++ "\x7d"

/-- Items with commas between them. -/
def compactItems : List Json → String
  | [] => ""
  | [item] => item.compact
  | item :: rest => item.compact ++ "," ++ compactItems rest

/-- Members with commas between them. -/
def compactMembers : List (Literal × Json) → String
  | [] => ""
  | [(key, value)] => printLiteral key ++ ":" ++ value.compact
  | (key, value) :: rest => printLiteral key ++ ":" ++ value.compact ++ "," ++ compactMembers rest

end

/-- The start of a line at a level. -/
def newLine (level : Nat) : String :=
  String.ofList ('\n' :: List.replicate (2 * level) ' ')

mutual

/-- A value over several lines, the first of which begins at a level. -/
def prettyAt (level : Nat) : Json → String
  | .null => "null"
  | .bool true => "true"
  | .bool false => "false"
  | .number n => printNumeral n
  | .string s => printLiteral s
  | .array [] => "[]"
  | .array (item :: items) =>
    "[" ++ newLine (level + 1) ++ item.prettyAt (level + 1) ++ prettyItems (level + 1) items ++
      newLine level ++ "]"
  | .object [] => "\x7b\x7d"
  | .object ((key, value) :: members) =>
    "\x7b" ++ newLine (level + 1) ++ printLiteral key ++ ": " ++ value.prettyAt (level + 1) ++
      prettyMembers (level + 1) members ++ newLine level ++ "\x7d"

/-- The items behind the first, each on a line of its own. -/
def prettyItems (level : Nat) : List Json → String
  | [] => ""
  | item :: rest => "," ++ newLine level ++ item.prettyAt level ++ prettyItems level rest

/-- The members behind the first, each on a line of its own. -/
def prettyMembers (level : Nat) : List (Literal × Json) → String
  | [] => ""
  | (key, value) :: rest =>
    "," ++ newLine level ++ printLiteral key ++ ": " ++ value.prettyAt level ++
      prettyMembers level rest

end

/-- A value with one item or member a line. -/
def pretty (value : Json) : String := value.prettyAt 0

end IntegrationHost.Json
