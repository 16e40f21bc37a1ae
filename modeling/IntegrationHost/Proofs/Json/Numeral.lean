import IntegrationHost.Json.Printer
import IntegrationHost.Json.Token
import Mathlib.Data.List.Basic
import Mathlib.Data.Nat.Digits.Defs

/-!
# Numbers written and read

A number is read back as it was spelled when nothing follows it that could belong to it. What can
follow is told by its first character. Whole numbers of 64 bits have finite doubles.
-/

namespace IntegrationHost

namespace Numeral

/-- The digits behind the point are digits, and there is one. -/
def Written (n : Numeral) : Prop :=
  ∀ digits, n.fraction = some digits → digits ≠ [] ∧ ∀ c ∈ digits, Json.isDigit c = true

theorem written_ofNat (n : Nat) : (ofNat n).Written := by
  intro digits impossible
  cases impossible

/-- The value of the digits of a number is the number. -/
theorem digitsValue_toDigits (n : Nat) : digitsValue 0 (Nat.toDigits 10 n) = n := by
  have value := Nat.ofDigitChars_ten_toDigits (n := n)
  rw [Nat.ofDigitChars_eq_foldl] at value
  unfold digitsValue
  simp only [Nat.mul_comm _ 10]
  exact value

end Numeral

namespace Json

/-! ## Digits -/

theorem isDigit_eq (c : Char) : isDigit c = c.isDigit := by
  unfold isDigit Char.isDigit
  rw [Bool.decide_and]
  rfl

theorem isDigit_toDigits {n : Nat} {c : Char} (member : c ∈ Nat.toDigits 10 n) :
    isDigit c = true := by
  rw [isDigit_eq]
  exact Nat.isDigit_of_mem_toDigits (by decide) (Nat.le_refl 10) member

/-- Only zero is written with a zero in front. -/
theorem head_toDigits {n : Nat} (positive : 0 < n) :
    ∃ c rest, Nat.toDigits 10 n = c :: rest ∧ c ≠ '0' := by
  induction n using Nat.strongRecOn with
  | _ n ih =>
      rw [Nat.toDigits_eq_if (by decide)]
      by_cases small : n < 10
      · rw [if_pos small]
        refine ⟨_, [], rfl, ?_⟩
        rw [ne_eq, Nat.digitChar_eq_zero]
        omega
      · rw [if_neg small]
        obtain ⟨c, rest, digits, notZero⟩ := ih (n / 10) (by omega) (by omega)
        rw [digits]
        exact ⟨c, _, rfl, notZero⟩

/-- What can stand behind a number: nothing that would be read as part of it. -/
def EndsNumber (rest : List Char) : Prop :=
  ∀ c more, rest = c :: more → isDigit c = false ∧ c ≠ '.' ∧ c ≠ 'e' ∧ c ≠ 'E'

theorem endsNumber_cons {c : Char} (notDigit : isDigit c = false)
    (notPart : c ≠ '.' ∧ c ≠ 'e' ∧ c ≠ 'E') (more : List Char) : EndsNumber (c :: more) := by
  rintro _ _ ⟨⟩
  exact ⟨notDigit, notPart⟩

/-- Digits are read up to the first character that is none. -/
theorem digits?_append {digits rest : List Char} (some : digits ≠ [])
    (all : ∀ c ∈ digits, isDigit c = true)
    (ended : ∀ c more, rest = c :: more → isDigit c = false) :
    digits? (digits ++ rest) = .some (digits, rest) := by
  have stops : rest.takeWhile isDigit = [] ∧ rest.dropWhile isDigit = rest := by
    cases rest with
    | nil => exact ⟨rfl, rfl⟩
    | cons c more =>
        have notDigit : ¬ isDigit c = true := by simp [ended c more rfl]
        exact ⟨List.takeWhile_cons_of_neg notDigit, List.dropWhile_cons_of_neg notDigit⟩
  unfold digits?
  rw [List.takeWhile_append_of_pos all, List.dropWhile_append_of_pos all, stops.1, stops.2,
    List.append_nil]
  cases digits with
  | nil => exact absurd rfl some
  | cons _ _ => rfl

/-! ## Parts of numbers -/

theorem wholeDigits?_toDigits (n : Nat) {rest : List Char}
    (ended : ∀ c more, rest = c :: more → isDigit c = false) :
    wholeDigits? (Nat.toDigits 10 n ++ rest) = some (n, rest) := by
  rcases Nat.eq_zero_or_pos n with rfl | positive
  · rfl
  · have found := digits?_append Nat.toDigits_ne_nil (fun _ => isDigit_toDigits (n := n)) ended
    have value := Numeral.digitsValue_toDigits n
    obtain ⟨c, more, digits, notZero⟩ := head_toDigits positive
    rw [digits] at found value ⊢
    rw [List.cons_append] at found ⊢
    unfold wholeDigits?
    split
    · rename_i same
      exact absurd (List.cons.inj same).1 notZero
    · rw [found, Option.map_some, value]

/-- The point and the digits behind it, as they are written. -/
def fractionText : Option (List Char) → List Char
  | none => []
  | some digits => '.' :: digits

/-- The exponent as it is written. -/
def exponentText : Option (Bool × Nat) → List Char
  | none => []
  | some (minus, value) => 'e' :: (if minus then ['-'] else []) ++ Nat.toDigits 10 value

theorem fraction?_text {fraction : Option (List Char)} {rest : List Char}
    (written : ∀ digits, fraction = some digits →
      digits ≠ [] ∧ ∀ c ∈ digits, isDigit c = true)
    (ended : ∀ c more, rest = c :: more → isDigit c = false ∧ c ≠ '.') :
    fraction? (fractionText fraction ++ rest) = some (fraction, rest) := by
  cases fraction with
  | none =>
      simp only [fractionText, List.nil_append]
      unfold fraction?
      split
      · rename_i more
        exact absurd rfl (ended _ more rfl).2
      · rfl
  | some digits =>
      obtain ⟨notNil, all⟩ := written digits rfl
      simp only [fractionText, List.cons_append, fraction?]
      rw [digits?_append notNil all fun c more same => (ended c more same).1]
      rfl

theorem exponent?_text {exponent : Option (Bool × Nat)} {rest : List Char}
    (ended : EndsNumber rest) :
    exponent? (exponentText exponent ++ rest) = some (exponent, rest) := by
  cases exponent with
  | none =>
      cases rest with
      | nil => rfl
      | cons c more =>
          obtain ⟨_, _, notSmall, notBig⟩ := ended c more rfl
          simp [exponentText, exponent?, notSmall, notBig]
  | some exponent =>
      obtain ⟨minus, value⟩ := exponent
      have found := digits?_append Nat.toDigits_ne_nil (fun _ => isDigit_toDigits (n := value))
        fun c more same => (ended c more same).1
      have read := Numeral.digitsValue_toDigits value
      cases minus with
      | true =>
          simp [exponentText, exponent?, found, read]
      | false =>
          obtain ⟨c, digits, digits_eq⟩ := List.exists_cons_of_ne_nil
            (Nat.toDigits_ne_nil (b := 10) (n := value))
          have first : isDigit c = true := isDigit_toDigits (n := value) (by simp [digits_eq])
          simp only [exponentText, digits_eq, Bool.false_eq_true, if_false,
            List.cons_append] at found read ⊢
          unfold exponent?
          simp only [beq_self_eq_true, Bool.true_or, if_true]
          -- The first digit is no sign.
          split
          · rename_i same
            obtain ⟨rfl, _⟩ := List.cons.inj same
            cases first
          · rename_i same
            obtain ⟨rfl, _⟩ := List.cons.inj same
            cases first
          · simp [found, read]

/-! ## Numbers -/

/-- A number without its sign as it is written. -/
def unsignedText (n : Numeral) : List Char :=
  Nat.toDigits 10 n.whole ++ (fractionText n.fraction ++ exponentText n.exponent)

theorem toList_printNumeral (n : Numeral) :
    (printNumeral n).toList = (if n.negative then ['-'] else []) ++ unsignedText n := by
  rcases n with ⟨negative, whole, fraction, exponent⟩
  rcases negative <;> rcases fraction with _ | digits <;>
    rcases exponent with _ | ⟨_ | _, value⟩ <;>
    simp [printNumeral, unsignedText, fractionText, exponentText]

theorem unsigned?_text {n : Numeral} (written : n.Written) {rest : List Char}
    (ended : EndsNumber rest) :
    unsigned? n.negative (unsignedText n ++ rest) = some (n, rest) := by
  rcases n with ⟨negative, whole, fraction, exponent⟩
  -- Neither a point nor an exponent goes on with digits, and an exponent has no point.
  have afterFraction : ∀ c more, exponentText exponent ++ rest = c :: more →
      isDigit c = false ∧ c ≠ '.' := by
    intro c more same
    cases exponent with
    | none => exact ⟨(ended c more same).1, (ended c more same).2.1⟩
    | some exponent =>
        simp only [exponentText, List.cons_append, List.cons.injEq] at same
        rw [← same.1]
        decide
  have afterWhole : ∀ c more, fractionText fraction ++ (exponentText exponent ++ rest) = c :: more →
      isDigit c = false := by
    intro c more same
    cases fraction with
    | none => exact (afterFraction c more same).1
    | some digits =>
        simp only [fractionText, List.cons_append, List.cons.injEq] at same
        rw [← same.1]
        decide
  simp only [unsigned?, unsignedText, List.append_assoc, wholeDigits?_toDigits whole afterWhole,
    fraction?_text written afterFraction, exponent?_text ended, Option.bind_eq_bind,
    Option.bind_some]
  rfl

/-- A digit starts a number and nothing else. -/
theorem token?_of_isDigit {c : Char} (digit : isDigit c = true) (more : List Char) :
    token? (c :: more) =
      (unsigned? false (c :: more)).map fun found => (.number found.1, found.2) := by
  unfold token?
  split
  case h_1 impossible => cases impossible
  case h_13 => rfl
  all_goals
    rename_i same
    obtain ⟨rfl, _⟩ := List.cons.inj same
    cases digit

/-- A number is read back as it was spelled. -/
theorem token?_printNumeral {n : Numeral} (written : n.Written) {rest : List Char}
    (ended : EndsNumber rest) :
    token? ((printNumeral n).toList ++ rest) = some (.number n, rest) := by
  have read := unsigned?_text written ended
  rw [toList_printNumeral]
  cases sign : n.negative with
  | true =>
      rw [sign] at read
      simp [token?, read]
  | false =>
      rw [sign] at read
      obtain ⟨c, digits, digits_eq⟩ := List.exists_cons_of_ne_nil
        (Nat.toDigits_ne_nil (b := 10) (n := n.whole))
      have first : isDigit c = true := isDigit_toDigits (n := n.whole) (by simp [digits_eq])
      have text_eq : unsignedText n ++ rest =
          c :: (digits ++ (fractionText n.fraction ++ exponentText n.exponent) ++ rest) := by
        rw [unsignedText, digits_eq, List.cons_append, List.cons_append]
      rw [if_neg (by decide), List.nil_append]
      rw [text_eq] at read ⊢
      rw [token?_of_isDigit first, read]
      rfl

end Json

namespace Double

/-! ## Finite doubles -/

/-- A quotient is rounded up by one at most. -/
theorem roundQuotient_le (num den : Nat) : roundQuotient num den ≤ num + 1 := by
  have quotient_le := Nat.div_le_self num den
  unfold roundQuotient
  dsimp only
  split
  · omega
  · split
    · omega
    · split <;> omega

theorem binaryOrder_le (num den : Nat) : binaryOrder num den ≤ num.log2 := by
  unfold binaryOrder
  dsimp only
  split <;> omega

theorem binaryOrder_one {num : Nat} (notZero : num ≠ 0) : binaryOrder num 1 = num.log2 := by
  have power_le : 2 ^ num.log2 ≤ num := Nat.log2_self_le notZero
  have one : Nat.log2 1 = 0 := by decide
  simp [binaryOrder, one, scaled, power_le]

/-- The exponent that the double of a fraction has, before its mantissa is rounded up. -/
def exponentOf (num den : Nat) : Int := max (binaryOrder num den - 52) minExponent

/-- A fraction whose exponent is in range has a finite double. -/
theorem ofFraction_eq_finite (negative : Bool) {num den : Nat} (notZero : num ≠ 0)
    (inRange : exponentOf num den < maxExponent) :
    ∃ m e, ofFraction negative num den = finite negative m e ∧ e ≤ exponentOf num den + 1 ∧
      m ≤ num * (scaled den 2 (exponentOf num den)).2 + leastFull := by
  unfold ofFraction
  rw [if_neg notZero]
  dsimp only
  rw [← exponentOf]
  have rounded := roundQuotient_le (num * (scaled den 2 (exponentOf num den)).2)
    (scaled den 2 (exponentOf num den)).1
  generalize roundQuotient _ _ = m at rounded ⊢
  have positive : 1 ≤ leastFull := by decide
  by_cases full : m = 2 * leastFull
  · rw [if_pos full]
    refine ⟨leastFull, exponentOf num den + 1, if_neg (by omega), le_refl _, ?_⟩
    exact Nat.le_add_left _ _
  · rw [if_neg full]
    exact ⟨m, exponentOf num den, if_neg (by omega), by omega, by omega⟩

theorem exponentOf_le (num den : Nat) : exponentOf num den ≤ num.log2 := by
  have order_le := binaryOrder_le num den
  unfold exponentOf minExponent
  omega

theorem isFinite_ofFraction (negative : Bool) {num : Nat} (small : num < 2 ^ 200) (den : Nat) :
    (ofFraction negative num den).isFinite = true := by
  by_cases zero : num = 0
  · rw [zero]
    rfl
  · have order := (Nat.log2_lt zero).mpr small
    have exponent_le := exponentOf_le num den
    have inRange : exponentOf num den < maxExponent := by
      unfold maxExponent
      omega
    obtain ⟨m, e, equal, _⟩ := ofFraction_eq_finite negative zero inRange
    rw [equal]
    rfl

/-- The double of one. -/
theorem ofDecimal_one : ofDecimal false 1 0 = finite false leastFull (-52) := by
  decide

/-- A whole number of 64 bits, multiplied with one, stays finite. -/
theorem isFinite_times_one {n : Nat} (fits : n < Numeral.nat64Bound) :
    ((ofFraction false n 1).times (ofDecimal false 1 0)).isFinite = true := by
  by_cases zero : n = 0
  · rw [zero]
    decide
  · have order : n.log2 < 64 := (Nat.log2_lt zero).mpr fits
    have exponent_eq : exponentOf n 1 = n.log2 - 52 := by
      unfold exponentOf minExponent
      rw [binaryOrder_one zero]
      omega
    have inRange : exponentOf n 1 < maxExponent := by
      unfold maxExponent
      omega
    obtain ⟨m, e, equal, exponent_le, mantissa_le⟩ := ofFraction_eq_finite false zero inRange
    have factor_le : (scaled 1 2 (exponentOf n 1)).2 ≤ 2 ^ 52 := by
      unfold scaled
      split
      · exact Nat.one_le_two_pow
      · exact Nat.pow_le_pow_right (by decide) (by omega)
    have mantissa : m ≤ 2 ^ 64 * 2 ^ 52 + leastFull :=
      mantissa_le.trans (Nat.add_le_add_right (Nat.mul_le_mul fits.le factor_le) _)
    have notWhole : ¬ 0 ≤ e + (-52) := by omega
    rw [equal, ofDecimal_one]
    simp only [times, scaled, if_neg notWhole]
    apply isFinite_ofFraction
    calc
      m * leastFull ≤ (2 ^ 64 * 2 ^ 52 + leastFull) * leastFull := Nat.mul_le_mul_right _ mantissa
      _ < 2 ^ 200 := by decide

end Double

/-! ## Numbers of 64 bits -/

namespace Numeral

/-- Further digits make no number smaller. -/
theorem le_digitsValue (before : Nat) (digits : List Char) :
    before ≤ digitsValue before digits := by
  induction digits generalizing before with
  | nil => exact le_refl _
  | cons digit rest ih =>
      have step : before ≤ before * 10 + (digit.toNat - '0'.toNat) := by omega
      exact step.trans (ih _)

/-- Of digits that fit 64 bits together none is left over. -/
theorem fit_eq {before : Nat} {digits : List Char}
    (fits : digitsValue before digits < nat64Bound) :
    fit before digits = (digitsValue before digits, 0) := by
  induction digits generalizing before with
  | nil => rfl
  | cons digit rest ih =>
      have whole : digitsValue before (digit :: rest) =
          digitsValue (digitsValue before [digit]) rest := rfl
      rw [whole] at fits ⊢
      have small := (le_digitsValue (digitsValue before [digit]) rest).trans_lt fits
      rw [fit]
      simp only [if_pos small]
      exact ih fits

theorem isFinite_ofNat {n : Nat} (fits : n < nat64Bound) : (ofNat n).isFinite = true := by
  have parts_eq : (ofNat n).parts = (n, 0) := by
    have digits := fit_eq (digitsValue_toDigits n |>.symm ▸ fits)
    rw [digitsValue_toDigits] at digits
    simp [parts, ofNat, digits, fit]
  unfold isFinite
  rw [parts_eq]
  dsimp only
  split
  · rfl
  · rw [if_neg (by decide)]
    exact Double.isFinite_times_one fits

/-- A whole number that fits 64 bits, with a bit for the sign if it is below zero. -/
def Fits64 (n : Numeral) : Prop :=
  n.fraction = none ∧ n.exponent = none ∧
    if n.negative then n.whole ≤ 2 ^ 63 else n.whole < nat64Bound

/-- The sign has no part in whether a number is finite. -/
theorem isFinite_of_fits64 {n : Numeral} (fits : n.Fits64) : n.isFinite = true := by
  obtain ⟨negative, whole, fraction, exponent⟩ := n
  obtain ⟨rfl, rfl, bound⟩ : fraction = none ∧ exponent = none ∧
    if negative then whole ≤ 2 ^ 63 else whole < nat64Bound := fits
  have small : whole < nat64Bound := by
    cases negative with
    | false => exact bound
    | true => exact Nat.lt_of_le_of_lt bound (by decide)
  exact isFinite_ofNat small

theorem written_of_fits64 {n : Numeral} (fits : n.Fits64) : n.Written := by
  intro digits impossible
  rw [fits.1] at impossible
  cases impossible

end Numeral

end IntegrationHost
