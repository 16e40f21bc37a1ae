import IntegrationHost.Config.Value
import IntegrationHost.Json.Token
import IntegrationHost.Text.Digits
import IntegrationHost.Text.Search

/-!
# Settings in the environment

Variables whose names begin with `ADAPTER__`, in capitals or small letters, are settings. The rest
of the name is the path of the setting, with two underscores between its steps. A value that spells
a Boolean or a number is one, so that it may come out written in another way.
-/

namespace IntegrationHost.Config

/-- The variables of an environment. -/
abbrev Environment := List (String × String)

namespace Environment

/-- What the names of settings begin with, in lower case. -/
def mark : String := "adapter__"

/-- What stands between the steps of a path. -/
def separator : String := "__"

/-- The whole number of 64 bits that characters spell. -/
def integer? (cs : List Char) : Option Int :=
  let (negative, digits) := Text.sign cs
  if digits.isEmpty || !digits.all Json.isDigit then none
  else Text.int64? negative (Numeral.digitsValue 0 digits)

/-- The exponent at the end of a number, which may be missing. -/
def exponent? : List Char → Option Int
  | [] => some 0
  | c :: rest =>
    if c == 'e' || c == 'E' then
      let (negative, digits) := Text.sign rest
      if digits.isEmpty || !digits.all Json.isDigit then none
      else
        let n : Int := Numeral.digitsValue 0 digits
        some (if negative then -n else n)
    else none

/-- The number that characters spell with digits, a point and an exponent. There is a digit before
the point or behind it. -/
def decimal? (negative : Bool) (cs : List Char) : Option Double :=
  let whole := cs.takeWhile Json.isDigit
  let (fraction, rest) := match cs.dropWhile Json.isDigit with
    | '.' :: rest => (rest.takeWhile Json.isDigit, rest.dropWhile Json.isDigit)
    | rest => ([], rest)
  if whole.isEmpty && fraction.isEmpty then none
  else
    (exponent? rest).map fun e =>
      .ofDecimal negative (Numeral.digitsValue 0 (whole ++ fraction)) (e - fraction.length)

/-- The number that characters spell; some have names. -/
def double? (cs : List Char) : Option Double :=
  let (negative, rest) := Text.sign cs
  match String.ofList (rest.map Char.toLower) with
  | "inf" => some (.infinite negative)
  | "infinity" => some (.infinite negative)
  | "nan" => some .nan
  | _ => decimal? negative rest

/-- What the text of a variable stands for. -/
def value (text : String) : Value :=
  match Text.lower text with
  | "true" => .bool true
  | "false" => .bool false
  | _ =>
    match integer? text.toList, double? text.toList with
    | some n, _ => .integer n
    | none, some d => .double d
    | none, none => .text text

/-- The key that a variable sets, if it is a setting. -/
def key? (name : String) : Option String :=
  (Text.stripStart? mark (Text.lower name)).map (Text.replace separator ".")

/-- Put the settings of an environment into a table. -/
def putInto (environment : Environment) (root : Value) : Value :=
  environment.foldl (fun root entry =>
    match key? entry.1 with
    | some key => root.set key (value entry.2)
    | none => root) root

end Environment

end IntegrationHost.Config
