import IntegrationHost.Text.Lossy
import Mathlib.Data.String.Basic
import Mathlib.Tactic.SplitIfs

/-!
# The order of texts is that of their bytes

Texts are compared character by character. UTF-8 is laid out so that comparing the bytes comes to
the same: a greater character has a greater first byte or, among those that begin alike, greater
bytes behind it.
-/

namespace IntegrationHost.Text

/-! ## Characters -/

section

variable {m n : Nat}

theorem ofNat_lt_ofNat (mByte : m < 256) (nByte : n < 256) :
    UInt8.ofNat m < UInt8.ofNat n ↔ m < n := by
  rw [UInt8.lt_iff_toNat_lt, UInt8.toNat_ofNat', UInt8.toNat_ofNat', Nat.mod_eq_of_lt mByte,
    Nat.mod_eq_of_lt nByte]

theorem ofNat_eq_ofNat (mByte : m < 256) (nByte : n < 256) :
    UInt8.ofNat m = UInt8.ofNat n ↔ m = n := by
  rw [← UInt8.toNat_inj, UInt8.toNat_ofNat', UInt8.toNat_ofNat', Nat.mod_eq_of_lt mByte,
    Nat.mod_eq_of_lt nByte]

/-- The bytes of a lesser character are less, whatever stands behind them. -/
theorem utf8EncodeChar_lt {c d : Char} (less : c < d) (cs ds : List UInt8) :
    String.utf8EncodeChar c ++ cs < String.utf8EncodeChar d ++ ds := by
  have bound : d.val.toNat < 0x110000 := by
    have valid := d.valid
    simp only [UInt32.isValidChar, Nat.isValidChar] at valid
    omega
  have numbers : c.val.toNat < d.val.toNat := less
  unfold String.utf8EncodeChar
  generalize c.val.toNat = v at numbers ⊢
  generalize d.val.toNat = w at numbers bound ⊢
  dsimp only
  -- One case for each pair of lengths; in each of them the bytes are digits of the two numbers.
  split_ifs <;>
    simp (disch := omega) only [List.cons_append, List.nil_append, List.cons_lt_cons_iff,
      Nat.mod_eq_of_lt, ofNat_lt_ofNat, ofNat_eq_ofNat] <;>
    omega

theorem flatMap_lt {cs ds : List Char} (less : cs < ds) :
    cs.flatMap String.utf8EncodeChar < ds.flatMap String.utf8EncodeChar := by
  induction less with
  | @nil d ds =>
      rcases encoded : String.utf8EncodeChar d with _ | ⟨b, bs⟩
      · exact absurd encoded String.utf8EncodeChar_ne_nil
      · rw [List.flatMap_cons, encoded]
        exact .nil
  | cons _ ih => exact List.append_left_lt ih
  | rel less => exact utf8EncodeChar_lt less _ _

end

/-! ## Texts -/

variable {s t : String}

theorem toList_loop (bytes : ByteArray) (i : Nat) (before : List UInt8) :
    ByteArray.toList.loop bytes i before = before.reverse ++ bytes.data.toList.drop i := by
  fun_induction ByteArray.toList.loop bytes i before with
  | case1 i before within ih =>
      have inside : i < bytes.data.toList.length := within
      rw [ih, List.reverse_cons, List.append_assoc, List.drop_eq_getElem_cons inside,
        ByteArray.get!, getElem!_pos bytes.data i within]
      rfl
  | case2 i before beyond =>
      have outside : bytes.data.toList.length ≤ i := Nat.le_of_not_lt beyond
      rw [List.drop_eq_nil_of_le outside, List.append_nil]

/-- The bytes of a text are those of its characters. -/
theorem bytes_eq (s : String) : bytes s = s.toList.flatMap String.utf8EncodeChar := by
  rw [bytes, String.toUTF8, ByteArray.toList, toList_loop, ← String.utf8Encode_toList,
    List.utf8Encode, List.toList_data_toByteArray]
  rfl

/-- The bytes of a lesser text are less. -/
theorem bytes_lt_bytes (less : s < t) : bytes s < bytes t := by
  rw [bytes_eq, bytes_eq]
  exact flatMap_lt (String.lt_iff_toList_lt.mp less)

end IntegrationHost.Text
