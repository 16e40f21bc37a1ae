/-!
# Double-precision numbers

The nearest double of a decimal number, and the decimal text of a double: the fewest digits that
read back as the same double, written out in full without an exponent. All arithmetic is exact.
-/

namespace IntegrationHost

/-- A double-precision number. -/
inductive Double where
  | nan
  | infinite (negative : Bool)
  /-- The number `mantissa * 2 ^ exponent`, with a mantissa below `2 ^ 53`. -/
  | finite (negative : Bool) (mantissa : Nat) (exponent : Int)
  deriving DecidableEq, Repr

namespace Double

/-- The least exponent. -/
def minExponent : Int := -1074

/-- The greatest exponent. -/
def maxExponent : Int := 971

/-- The least mantissa of doubles that use all their 53 bits. -/
def leastFull : Nat := 4503599627370496

/-- `n * base ^ e`, or for a negative exponent the pair of `n` and the power to divide it by. -/
def scaled (n base : Nat) (e : Int) : Nat × Nat :=
  if 0 ≤ e then (n * Nat.pow base e.toNat, 1) else (n, Nat.pow base (-e).toNat)

/-- The quotient rounded to the nearest whole number, and a half to the even one. -/
def roundQuotient (num den : Nat) : Nat :=
  let q := num / den
  let twice := 2 * (num % den)
  if twice < den then q
  else if den < twice then q + 1
  else if q % 2 = 0 then q else q + 1

/-- The greatest `k` with `2 ^ k ≤ num / den`, of a positive fraction. -/
def binaryOrder (num den : Nat) : Int :=
  let k : Int := (num.log2 : Int) - den.log2
  let (a, b) := scaled den 2 k
  if a ≤ num * b then k else k - 1

/-- The double nearest to a fraction. -/
def ofFraction (negative : Bool) (num den : Nat) : Double :=
  if num = 0 then finite negative 0 minExponent
  else
    let e := max (binaryOrder num den - 52) minExponent
    let (a, b) := scaled den 2 e
    let m := roundQuotient (num * b) a
    let (m, e) := if m = 2 * leastFull then (leastFull, e + 1) else (m, e)
    if maxExponent < e then infinite negative else finite negative m e

/-- The double nearest to `digits * 10 ^ exponent`. Far outside the range of doubles nothing is
computed. -/
def ofDecimal (negative : Bool) (digits : Nat) (exponent : Int) : Double :=
  let magnitude : Int := ((toString digits).length : Int) + exponent
  if digits = 0 || magnitude < -330 then finite negative 0 minExponent
  else if 330 < magnitude then infinite negative
  else
    let (num, den) := scaled digits 10 exponent
    ofFraction negative num den

/-- Whether a double is zero. -/
def isZero : Double → Bool
  | finite _ 0 _ => true
  | _ => false

/-- Whether a double is a number. -/
def isFinite : Double → Bool
  | finite _ _ _ => true
  | _ => false

/-- Whether a double has the sign minus. -/
def isNegative : Double → Bool
  | nan => false
  | infinite negative => negative
  | finite negative _ _ => negative

/-- The double nearest to the product of two. -/
def times (x y : Double) : Double :=
  match x, y with
  | finite s m e, finite t n f =>
    let (num, den) := scaled (m * n) 2 (e + f)
    ofFraction (s != t) num den
  | nan, _ => nan
  | _, nan => nan
  | x, y => if x.isZero || y.isZero then nan else infinite (x.isNegative != y.isNegative)

/-! ## As text -/

/-- The fractions between which every number has this double as its nearest, over one denominator,
and whether the ends belong to them; the double itself stands in the middle. -/
structure Interval where
  low : Nat
  value : Nat
  high : Nat
  den : Nat
  closed : Bool

/-- The interval of a positive finite double. Below a power of two the next double is only half as
far away. -/
def interval (m : Nat) (e : Int) : Interval :=
  let (scale, den) := scaled 1 2 e
  let below := if m = leastFull ∧ minExponent < e then 1 else 2
  ⟨(4 * m - below) * scale, 4 * m * scale, (4 * m + 2) * scale, 4 * den, m % 2 = 0⟩

/-- Whether the number `digits * 10 ^ k` lies in an interval. -/
def Interval.holds (i : Interval) (digits : Nat) (k : Int) : Bool :=
  let (a, b) := scaled digits 10 k
  let x := a * i.den
  if i.closed then decide (i.low * b ≤ x ∧ x ≤ i.high * b)
  else decide (i.low * b < x ∧ x < i.high * b)

/-- How far `digits * 10 ^ k` lies from the middle of an interval, as a fraction over a denominator
that depends on the interval and `k` only. -/
def Interval.distance (i : Interval) (digits : Nat) (k : Int) : Nat :=
  let (a, b) := scaled digits 10 k
  let x := a * i.den
  let y := i.value * b
  (x - y) + (y - x)

/-- The multiple of `10 ^ k` that lies in an interval, nearest to its middle. -/
def Interval.onGrid? (i : Interval) (k : Int) : Option Nat :=
  let (a, b) := scaled i.den 10 k
  let below := i.value * b / a
  match i.holds below k, i.holds (below + 1) k with
  | false, false => none
  | true, false => some below
  | false, true => some (below + 1)
  | true, true =>
    some (if i.distance (below + 1) k ≤ i.distance below k then below + 1 else below)

/-- The coarsest grid from `10 ^ k` downwards, no more than `steps` below it, that has a point in an
interval, and that point. -/
def Interval.coarsest (i : Interval) : Nat → Int → Nat × Int
  | 0, k => ((i.onGrid? k).getD 0, k)
  | steps + 1, k =>
    match i.onGrid? k with
    | some digits => if digits = 0 then coarsest i steps (k - 1) else (digits, k)
    | none => coarsest i steps (k - 1)

/-- The fewest digits of a positive finite double, and the power of ten to multiply them by. The
first grid is coarser than the double is large; 18 digits below that there is always a point. -/
def shortest (m : Nat) (e : Int) : Nat × Int :=
  let i := interval m e
  let order : Int := (binaryOrder i.value i.den + 4) * 30103 / 100000 + 1
  i.coarsest 20 order

/-- `digits * 10 ^ k` written out. -/
def positional (digits : Nat) (k : Int) : String :=
  let text := (toString digits).toList
  if 0 ≤ k then String.ofList (text ++ List.replicate k.toNat '0')
  else
    let places := (-k).toNat
    let padded := List.replicate (places + 1 - text.length) '0' ++ text
    let whole := padded.length - places
    String.ofList (padded.take whole ++ '.' :: padded.drop whole)

/-- The text of a double. -/
def text : Double → String
  | nan => "NaN"
  | infinite negative => if negative then "-inf" else "inf"
  | finite negative m e =>
    let magnitude := if m = 0 then "0" else let (digits, k) := shortest m e; positional digits k
    if negative then "-" ++ magnitude else magnitude

end Double

end IntegrationHost
