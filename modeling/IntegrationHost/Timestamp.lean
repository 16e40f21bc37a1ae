import IntegrationHost.Json.Token
import IntegrationHost.Text.Blank

/-!
# Points in time

A point in time is counted in seconds and nanoseconds from the start of 1970. It is read from a date
and time with an offset from UTC and always written in UTC, with as few groups of three fraction
digits as keep its value. A leap second is the second before it, prolonged.
-/

namespace IntegrationHost

/-- A point in time, counted from the start of 1970; in a leap second the nanoseconds go on to two
thousand million. -/
structure Timestamp where
  seconds : Int
  nanos : Nat
  deriving DecidableEq

instance : Inhabited Timestamp := ⟨⟨0, 0⟩⟩

namespace Timestamp

/-! ## The calendar -/

/-- Whether a year has a 29th of February. -/
def isLeapYear (year : Int) : Bool :=
  year.emod 4 == 0 && (year.emod 100 != 0 || year.emod 400 == 0)

/-- How many days a month has. -/
def daysInMonth (year : Int) (month : Nat) : Nat :=
  match month with
  | 2 => if isLeapYear year then 29 else 28
  | 4 | 6 | 9 | 11 => 30
  | _ => 31

/-- The days from the start of 1970 to a date. Years are counted from March, so that the leap day
comes last. -/
def daysTo (year : Int) (month day : Nat) : Int :=
  let y := if month ≤ 2 then year - 1 else year
  let monthFromMarch := (month + 9) % 12
  let dayOfYear := (153 * monthFromMarch + 2) / 5 + day - 1
  365 * y + y.fdiv 4 - y.fdiv 100 + y.fdiv 400 + dayOfYear - 719468

/-- The year, month and day that lie so many days behind the start of 1970. -/
def dateOf (days : Int) : Int × Nat × Nat :=
  let z := days + 719468
  let era := z.fdiv 146097
  let dayOfEra := (z - era * 146097).toNat
  let yearOfEra := (dayOfEra - dayOfEra / 1460 + dayOfEra / 36524 - dayOfEra / 146096) / 365
  let dayOfYear := dayOfEra - (365 * yearOfEra + yearOfEra / 4 - yearOfEra / 100)
  let monthFromMarch := (5 * dayOfYear + 2) / 153
  let day := dayOfYear - (153 * monthFromMarch + 2) / 5 + 1
  let month := if monthFromMarch < 10 then monthFromMarch + 3 else monthFromMarch - 9
  let year := yearOfEra + era * 400
  (if month ≤ 2 then year + 1 else year, month, day)

/-! ## Reading -/

/-- The number at the start, with at least one and at most `width` digits. -/
def number? (width : Nat) (cs : List Char) : Option (Nat × List Char) :=
  match (cs.take width).takeWhile Json.isDigit with
  | [] => none
  | digits => some (Numeral.digitsValue 0 digits, cs.drop digits.length)

/-- A number of up to `width` digits, with blanks allowed before it. -/
def field? (width : Nat) (cs : List Char) : Option (Nat × List Char) :=
  number? width (Text.trimStart cs)

/-- A mark between two numbers, with blanks allowed before it. -/
def mark? (mark : Char) (cs : List Char) : Option (List Char) :=
  match Text.trimStart cs with
  | c :: rest => if c = mark then some rest else none
  | [] => none

/-- A year: four digits at most, or a sign and any number of digits. -/
def year? (cs : List Char) : Option (Int × List Char) :=
  match Text.trimStart cs with
  | '-' :: rest => (number? rest.length rest).map fun found => (-(found.1 : Int), found.2)
  | '+' :: rest => (number? rest.length rest).map fun found => ((found.1 : Int), found.2)
  | cs => (number? 4 cs).map fun found => ((found.1 : Int), found.2)

/-- The fraction of a second, if there is a point; digits behind the ninth are dropped. -/
def nanos? : List Char → Option (Nat × List Char)
  | '.' :: rest =>
    match rest.takeWhile Json.isDigit with
    | [] => none
    | digits =>
      let kept := digits.take 9
      some (Numeral.digitsValue 0 kept * Nat.pow 10 (9 - kept.length), rest.dropWhile Json.isDigit)
  | cs => some (0, cs)

/-- The offset from UTC in seconds, as two digits of hours and two of minutes. -/
def hoursMinutes? (cs : List Char) : Option (Int × List Char) := do
  let (hours, cs) ← twoDigits? cs
  let cs := cs.dropWhile fun c => c == ':' || Text.isBlankChar c
  let (minutes, cs) ← twoDigits? cs
  if minutes ≥ 60 then none
  return ((hours * 3600 + minutes * 60 : Nat), cs)
where
  twoDigits? : List Char → Option (Nat × List Char)
    | a :: b :: rest =>
      if Json.isDigit a && Json.isDigit b then some (Numeral.digitsValue 0 [a, b], rest)
      else none
    | _ => none

/-- The offset from UTC in seconds. -/
def offset? (cs : List Char) : Option (Int × List Char) :=
  match cs with
  | 'Z' :: rest => some (0, rest)
  | 'z' :: rest => some (0, rest)
  | '+' :: rest => hoursMinutes? rest
  | '-' :: rest => (hoursMinutes? rest).map fun found => (-found.1, found.2)
  | '\u2212' :: rest => (hoursMinutes? rest).map fun found => (-found.1, found.2)
  | u :: t :: c :: rest =>
    if u.toUpper == 'U' && t.toUpper == 'T' && c.toUpper == 'C' then some (0, rest) else none
  | _ => none

/-- The first and the last year of the calendar. -/
def years : Int × Int := (-262143, 262142)

/-- Whether a point in time lies in a year of the calendar. -/
def isInCalendar (t : Timestamp) : Bool :=
  decide (daysTo years.1 1 1 * 86400 ≤ t.seconds ∧ t.seconds < daysTo (years.2 + 1) 1 1 * 86400)

/-- Read a date and time. It lies in the calendar as it is written and in UTC as well. -/
def ofText? (text : String) : Option Timestamp := do
  let (year, cs) ← year? text.toList
  let (month, cs) ← field? 2 (← mark? '-' cs)
  let (day, cs) ← field? 2 (← mark? '-' cs)
  let cs ← match cs with
    | 'T' :: rest => some rest
    | 't' :: rest => some rest
    | ' ' :: rest => some rest
    | _ => none
  let (hour, cs) ← field? 2 cs
  let (minute, cs) ← field? 2 (← mark? ':' cs)
  let (second, cs) ← field? 2 (← mark? ':' cs)
  let (nanos, cs) ← nanos? cs
  let (offset, cs) ← offset? (Text.trimStart cs)
  if !(Text.trimStart cs).isEmpty then none
  if year < years.1 ∨ years.2 < year then none
  if month < 1 ∨ 12 < month ∨ day < 1 ∨ daysInMonth year month < day then none
  if 23 < hour ∨ 59 < minute ∨ 60 < second ∨ offset ≤ -86400 ∨ 86400 ≤ offset then none
  let clock := hour * 3600 + minute * 60 + min second 59
  let found : Timestamp := ⟨daysTo year month day * 86400 + clock - offset,
    if second = 60 then nanos + 1000000000 else nanos⟩
  if found.isInCalendar then some found else none

/-! ## Writing -/

/-- A number with at least so many digits. -/
def padded (width n : Nat) : String :=
  let digits := toString n
  String.ofList (List.replicate (width - digits.length) '0') ++ digits

/-- A year; one that does not fit four digits has a sign. -/
def yearText (year : Int) : String :=
  if 0 ≤ year ∧ year ≤ 9999 then padded 4 year.toNat
  else (if year < 0 then "-" else "+") ++ padded 4 year.natAbs

/-- A fraction of a second in as few groups of three digits as keep its value. -/
def fractionText (nanos : Nat) : String :=
  if nanos = 0 then ""
  else if nanos % 1000000 = 0 then "." ++ padded 3 (nanos / 1000000)
  else if nanos % 1000 = 0 then "." ++ padded 6 (nanos / 1000)
  else "." ++ padded 9 nanos

/-- Write a point in time. -/
def text (t : Timestamp) : String :=
  let days := t.seconds.fdiv 86400
  let clock := (t.seconds - days * 86400).toNat
  let (year, month, day) := dateOf days
  let leap := if t.nanos < 1000000000 then 0 else 1
  yearText year ++ "-" ++ padded 2 month ++ "-" ++ padded 2 day ++ "T" ++ padded 2 (clock / 3600) ++
    ":" ++ padded 2 (clock / 60 % 60) ++ ":" ++ padded 2 (clock % 60 + leap) ++
    fractionText (t.nanos - leap * 1000000000) ++ "Z"

/-- A point in time some seconds later. -/
def later (t : Timestamp) (seconds : Nat) : Timestamp :=
  { t with seconds := t.seconds + seconds }

/-- Milliseconds from the start of 1970, rounded down. -/
def milliseconds (t : Timestamp) : Int :=
  t.seconds * 1000 + t.nanos / 1000000

end Timestamp

end IntegrationHost
