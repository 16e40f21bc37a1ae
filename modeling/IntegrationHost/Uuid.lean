import IntegrationHost.Json.Token
import IntegrationHost.Json.Printer

/-!
# Universally unique identifiers

Identifiers of 128 bits. They are read with or without hyphens, in braces or as a URN, in letters of
either case, and written with hyphens in small letters.
-/

namespace IntegrationHost

/-- An identifier of 128 bits. -/
structure Uuid where
  value : BitVec 128
  deriving DecidableEq

instance : Inhabited Uuid := ⟨⟨0⟩⟩

namespace Uuid

/-- How many digits stand between the hyphens. -/
def groups : List Nat := [8, 4, 4, 4, 12]

/-- The value of hexadecimal digits. -/
def hexDigits? (digits : List Char) : Option Nat :=
  digits.foldlM (fun value digit => (Json.hexValue? digit).map (value * 16 + ·)) 0

/-- Put a hyphen before each group but the first. -/
def hyphenate : List Nat → List Char → List Char
  | [], digits => digits
  | [_], digits => digits
  | size :: sizes, digits => digits.take size ++ '-' :: hyphenate sizes (digits.drop size)

/-- The groups of digits without the hyphens between them. -/
def dehyphenate? : List Nat → List Char → Option (List Char)
  | [], [] => some []
  | [], _ :: _ => none
  | [size], digits => if digits.length = size then some digits else none
  | size :: sizes, cs =>
    match cs.drop size with
    | '-' :: rest => (dehyphenate? sizes rest).map (cs.take size ++ ·)
    | _ => none

/-- What stands before an identifier in a URN, in letters of either case. -/
def urn : List Char := "urn:uuid:".toList

/-- The digits of one of the accepted spellings. -/
def digits? (cs : List Char) : Option (List Char) :=
  match cs.length with
  | 32 => some cs
  | 36 => dehyphenate? groups cs
  | 38 =>
    match cs with
    | '\x7b' :: rest =>
      if rest.getLast? = some '\x7d' then dehyphenate? groups rest.dropLast else none
    | _ => none
  | 45 =>
    if (cs.take urn.length).map Char.toLower = urn then dehyphenate? groups (cs.drop urn.length)
    else none
  | _ => none

/-- Read an identifier. -/
def ofText? (text : String) : Option Uuid := do
  let value ← (← digits? text.toList) |> hexDigits?
  return ⟨BitVec.ofNat 128 value⟩

/-- The lowest `count` hexadecimal digits of a number, the highest first. -/
def lowDigits : Nat → Nat → List Char
  | 0, _ => []
  | count + 1, value => lowDigits count (value / 16) ++ [Json.hexDigit (value % 16)]

/-- Write an identifier. -/
def text (id : Uuid) : String :=
  String.ofList (hyphenate groups (lowDigits 32 id.value.toNat))

/-- An identifier further on; it differs from this one unless `steps` is a multiple of `2 ^ 128`. -/
def further (id : Uuid) (steps : Nat) : Uuid :=
  ⟨id.value + BitVec.ofNat 128 steps⟩

end Uuid

end IntegrationHost
