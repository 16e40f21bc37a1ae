import IntegrationHost.Timestamp
import IntegrationHost.Toml.Number
import IntegrationHost.Toml.Scanner

/-!
# Dates and times of TOML

A date, a time of the day, or both with an offset from UTC. Moments are kept as texts in their usual
form. Besides the literals of TOML there is a second way to write one: a table whose first key is a
reserved one, and which holds the text of the moment. Such texts have the form of the literals.
-/

namespace IntegrationHost.Toml

open Config

/-- A number of so many digits. -/
def fixed? (width : Nat) (cs : List Char) : Option (Nat × List Char) :=
  let digits := cs.take width
  if digits.length = width ∧ digits.all Json.isDigit then
    some (digitsValue 10 digits, cs.drop width)
  else none

/-- A number written with at least so many digits. -/
def padded (width n : Nat) : String :=
  let digits := toString n
  String.ofList (List.replicate (width - digits.length) '0') ++ digits

/-- A date of the calendar, as text. -/
def date? (cs : List Char) : Option (String × List Char) := do
  let (year, rest) ← fixed? 4 cs
  let (month, rest) ← fixed? 2 (← after? '-' rest)
  let (day, rest) ← fixed? 2 (← after? '-' rest)
  if 1 ≤ month ∧ month ≤ 12 ∧ 1 ≤ day ∧ day ≤ Timestamp.daysInMonth year month then
    return (padded 4 year ++ "-" ++ padded 2 month ++ "-" ++ padded 2 day, rest)
  else none

/-- The digits behind the point of a time, as text; only nine of them are kept, and none that are
zero at the end. -/
def secondFraction? : List Char → Option (String × List Char)
  | '.' :: rest =>
    match rest.takeWhile Json.isDigit with
    | [] => none
    | digits =>
      let kept := (((digits.take 9).reverse).dropWhile (· == '0')).reverse
      some (if kept.isEmpty then "" else String.ofList ('.' :: kept), rest.dropWhile Json.isDigit)
  | rest => some ("", rest)

/-- A time of the day, as text. -/
def time? (cs : List Char) : Option (String × List Char) := do
  let (hour, rest) ← fixed? 2 cs
  let (minute, rest) ← fixed? 2 (← after? ':' rest)
  let (second, rest) ← fixed? 2 (← after? ':' rest)
  let (fraction, rest) ← secondFraction? rest
  if hour ≤ 23 ∧ minute ≤ 59 ∧ second ≤ 60 then
    return (padded 2 hour ++ ":" ++ padded 2 minute ++ ":" ++ padded 2 second ++ fraction, rest)
  else none

/-- An offset from UTC, as text, if one is there. One of nothing has the sign plus. -/
def offset? : List Char → Option (String × List Char)
  | c :: rest =>
    if c == 'Z' || c == 'z' then some ("Z", rest)
    else if c == '+' || c == '-' then do
      let (hours, rest) ← fixed? 2 rest
      let (minutes, rest) ← fixed? 2 (← after? ':' rest)
      let mark := if c == '-' && (hours, minutes) != (0, 0) then "-" else "+"
      if hours ≤ 23 ∧ minutes ≤ 59 then
        return (mark ++ padded 2 hours ++ ":" ++ padded 2 minutes, rest)
      else none
    else some ("", c :: rest)
  | [] => some ("", [])

/-- The time behind a date, if one is there. -/
def timeBehind? : List Char → Option (String × List Char)
  | c :: rest =>
    if c == 'T' || c == 't' || c == ' ' then do
      let (time, rest) ← time? rest
      let (offset, rest) ← offset? rest
      return (time ++ offset, rest)
    else none
  | [] => none

/-- A date, a time, or both. -/
def moment? (cs : List Char) : Option (String × List Char) :=
  match date? cs with
  | some (date, rest) =>
    match timeBehind? rest with
    | some (time, rest) => some (date ++ "T" ++ time, rest)
    | none => some (date, rest)
  | none => time? cs

/-- A text that is a moment and nothing else, in its usual form. -/
def momentText? (text : String) : Option String :=
  match moment? text.toList with
  | some (moment, []) => some moment
  | _ => none

/-! ## Moments as tables -/

/-- The key of a table that stands for a moment. -/
def momentKey : String := "$__toml_private_datetime"

/-- The table that stands for a moment. -/
def momentTable (text : String) : Value := .table [(momentKey, .text text)]

mutual

/-- A value with every table that stands for a moment replaced by the text of the moment. What else
such a table holds is not looked at. -/
def settle? : Value → Option Value
  | .list items => (settleItems? items).map .list
  | .table ((key, first) :: rest) =>
    if key = momentKey then
      match first with
      | .text text => (momentText? text).map .text
      | _ => none
    else do return .table ((key, ← settle? first) :: (← settleEntries? rest))
  | v => some v

/-- Items, each of them settled. -/
def settleItems? : List Value → Option (List Value)
  | [] => some []
  | item :: rest => do return (← settle? item) :: (← settleItems? rest)

/-- Entries, each of them settled. -/
def settleEntries? : List (String × Value) → Option (List (String × Value))
  | [] => some []
  | (key, value) :: rest => do return (key, ← settle? value) :: (← settleEntries? rest)

end

end IntegrationHost.Toml
