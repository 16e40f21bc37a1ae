import IntegrationHost.Json.Numeral

/-!
# JSON values

JSON as it is written: members keep their order and may repeat, numbers keep their spelling. Values
are looked at in two ways. Most of a configuration is read for what it says, and then every string
in it has to be text and every number has to fit a double. What is only skipped need not.
-/

namespace IntegrationHost

/-- The text that a string literal stands for. It is `none` when half of a surrogate pair stands
alone in the literal, which is no text. -/
abbrev Literal := Option String

/-- A JSON value. -/
inductive Json where
  | null
  | bool (value : Bool)
  | number (value : Numeral)
  | string (value : Literal)
  | array (items : List Json)
  | object (members : List (Literal × Json))

instance : Inhabited Json := ⟨.null⟩

namespace Json

/-- A string value. -/
def ofString (s : String) : Json := .string (some s)

/-- A whole number. -/
def ofNat (n : Nat) : Json := .number (.ofNat n)

/-- A whole number that may be below zero. -/
def ofInt (n : Int) : Json := .number { Numeral.ofNat n.natAbs with negative := decide (n < 0) }

/-- An object with the given members. -/
def ofMembers (members : List (String × Json)) : Json :=
  .object (members.map fun m => (some m.1, m.2))

/-- A value that may be missing, with `null` for none. -/
def ofOption (value : Option Json) : Json := value.getD .null

/-- A member that is left out when it has no value. -/
def optional (key : String) (value : Option Json) : List (String × Json) :=
  value.toList.map fun v => (key, v)

/-- The text of a string. -/
def string? : Json → Option String
  | .string (some s) => some s
  | _ => none

/-- The value of a Boolean. -/
def bool? : Json → Option Bool
  | .bool b => some b
  | _ => none

/-- The value of a natural number that fits 64 bits. -/
def nat64? : Json → Option Nat
  | .number n => n.nat?.filter (· < Numeral.nat64Bound)
  | _ => none

/-- The items of an array. -/
def items? : Json → Option (List Json)
  | .array items => some items
  | _ => none

mutual

/-- How many arrays and objects stand around the innermost value. -/
def depth : Json → Nat
  | .array items => depthItems items + 1
  | .object members => depthMembers members + 1
  | _ => 0

/-- The greatest depth among items. -/
def depthItems : List Json → Nat
  | [] => 0
  | item :: rest => max item.depth (depthItems rest)

/-- The greatest depth among members. -/
def depthMembers : List (Literal × Json) → Nat
  | [] => 0
  | (_, value) :: rest => max value.depth (depthMembers rest)

end

mutual

/-- Whether every string and key is text and every number has a finite double. -/
def isSound : Json → Bool
  | .null => true
  | .bool _ => true
  | .number n => n.isFinite
  | .string s => s.isSome
  | .array items => soundItems items
  | .object members => soundMembers members

/-- Whether all items are sound. -/
def soundItems : List Json → Bool
  | [] => true
  | item :: rest => item.isSound && soundItems rest

/-- Whether all keys and values are sound. -/
def soundMembers : List (Literal × Json) → Bool
  | [] => true
  | (key, value) :: rest => key.isSome && value.isSound && soundMembers rest

end

end Json

end IntegrationHost
