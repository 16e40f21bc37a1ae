import IntegrationHost.Config.Value
import IntegrationHost.Json.Token
import IntegrationHost.Text.Digits

/-!
# Numbers of TOML

Whole numbers in four bases and decimal numbers. Digits may have single underscores between them.
-/

namespace IntegrationHost.Toml

open Config

/-- Digits behind a first digit, and what follows them. -/
def moreDigits (isDigit : Char → Bool) : List Char → List Char × List Char
  | '_' :: d :: rest =>
    if isDigit d then let more := moreDigits isDigit rest; (d :: more.1, more.2)
    else ([], '_' :: d :: rest)
  | d :: rest =>
    if isDigit d then
      let more := moreDigits isDigit rest
      (d :: more.1, more.2)
    else ([], d :: rest)
  | [] => ([], [])

/-- Digits, at least one. -/
def digitRun? (isDigit : Char → Bool) : List Char → Option (List Char × List Char)
  | d :: rest =>
    if isDigit d then let more := moreDigits isDigit rest; some (d :: more.1, more.2) else none
  | [] => none

/-- The value of digits in a base. -/
def digitsValue (base : Nat) (digits : List Char) : Nat :=
  digits.foldl (fun n d => n * base + (Json.hexValue? d).getD 0) 0

/-- The digits of a decimal number before the point: zero, or digits that do not begin with zero. -/
def wholeDigits? : List Char → Option (List Char × List Char)
  | '0' :: rest => some (['0'], rest)
  | cs => digitRun? Json.isDigit cs

/-- A whole number in a base other than ten, behind the mark of the base. -/
def based? (base : Nat) (cs : List Char) : Option (Value × List Char) := do
  let isDigit (c : Char) : Bool := decide (((Json.hexValue? c).getD base) < base)
  let (digits, rest) ← digitRun? isDigit cs
  return (.integer (← Text.int64? false (digitsValue base digits)), rest)

/-- A whole number. -/
def integer? (cs : List Char) : Option (Value × List Char) :=
  match cs with
  | '0' :: 'x' :: rest => based? 16 rest
  | '0' :: 'o' :: rest => based? 8 rest
  | '0' :: 'b' :: rest => based? 2 rest
  | cs => do
    let (negative, rest) := Text.sign cs
    let (digits, rest) ← wholeDigits? rest
    return (.integer (← Text.int64? negative (digitsValue 10 digits)), rest)

/-- The exponent of a number, behind its mark. -/
def exponent? (cs : List Char) : Option (Int × List Char) := do
  let (negative, rest) := Text.sign cs
  let (digits, rest) ← digitRun? Json.isDigit rest
  let n : Int := digitsValue 10 digits
  return (if negative then -n else n, rest)

/-- A number with a point, an exponent or both. One too large is refused, one too far below zero is
infinite. -/
def decimal? (cs : List Char) : Option (Value × List Char) := do
  let (negative, rest) := Text.sign cs
  let (whole, rest) ← wholeDigits? rest
  let (fraction, rest) ← match rest with
    | '.' :: rest => digitRun? Json.isDigit rest
    | c :: _ => if c == 'e' || c == 'E' then some ([], rest) else none
    | [] => none
  let (exponent, rest) ← match rest with
    | 'e' :: rest => exponent? rest
    | 'E' :: rest => exponent? rest
    | rest => some (0, rest)
  let value := Double.ofDecimal negative (digitsValue 10 (whole ++ fraction))
    (exponent - fraction.length)
  if value = .infinite false then none else return (.double value, rest)

/-- A number that has a name. -/
def namedNumber? (cs : List Char) : Option (Value × List Char) :=
  let (negative, rest) := Text.sign cs
  match rest with
  | 'i' :: 'n' :: 'f' :: rest => some (.double (.infinite negative), rest)
  | 'n' :: 'a' :: 'n' :: rest => some (.double .nan, rest)
  | _ => none

/-- A number that is no date or time. -/
def number? (cs : List Char) : Option (Value × List Char) :=
  decimal? cs <|> namedNumber? cs <|> integer? cs

end IntegrationHost.Toml
