import IntegrationHost.Double

/-!
# Numbers of JSON

Numbers keep their spelling. One that is read for a double is put together from 64 bits of its
digits and a power of ten, each rounded for itself, and the product has to be finite.
-/

namespace IntegrationHost

/-- A number as it is spelled. -/
structure Numeral where
  negative : Bool
  whole : Nat
  /-- The digits behind the point, if there is one. -/
  fraction : Option (List Char)
  /-- The sign and value of the exponent, if there is one; `true` stands for minus. -/
  exponent : Option (Bool × Nat)
  deriving DecidableEq, Repr

namespace Numeral

/-- A whole number. -/
def ofNat (n : Nat) : Numeral := ⟨false, n, none, none⟩

/-- The number as a natural one, when it is spelled without sign, point and exponent. -/
def nat? (n : Numeral) : Option Nat :=
  if n.negative || n.fraction.isSome || n.exponent.isSome then none else some n.whole

/-- The value of decimal digits, behind those already read. -/
def digitsValue (before : Nat) (digits : List Char) : Nat :=
  digits.foldl (fun value digit => value * 10 + (digit.toNat - '0'.toNat)) before

/-- The least natural number that does not fit 64 bits. -/
def nat64Bound : Nat := 18446744073709551616

/-- The first digits, behind those already read, as far as they fit 64 bits, and how many are left
over. -/
def fit (before : Nat) : List Char → Nat × Nat
  | [] => (before, 0)
  | digit :: rest =>
    let value := digitsValue before [digit]
    if value < nat64Bound then fit value rest else (before, rest.length + 1)

/-- The digits of a number as far as they fit 64 bits, and the power of ten by which to multiply
them. Digits of the whole part that do not fit still count as places; those of the fraction are left
out. -/
def parts (n : Numeral) : Nat × Int :=
  let (whole, places) := fit 0 (toString n.whole).toList
  let fraction := n.fraction.getD []
  let (digits, left) := fit whole fraction
  let exponent : Int := match n.exponent with
    | none => 0
    | some (negative, size) => if negative then -size else size
  (digits, exponent + places - (fraction.length - left : Nat))

/-- The greatest power of ten that has a double. -/
def greatestPower : Int := 308

/-- Whether the double of a number is finite. Nothing is computed where the power alone decides. -/
def isFinite (n : Numeral) : Bool :=
  let (digits, power) := n.parts
  if digits = 0 || power < 0 then true
  else if greatestPower < power then false
  else ((Double.ofFraction false digits 1).times (.ofDecimal false 1 power)).isFinite

end Numeral

end IntegrationHost
