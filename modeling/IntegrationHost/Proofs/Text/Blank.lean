import IntegrationHost.Text.Blank
import Mathlib.Data.List.DropRight

/-!
# What trimming and cutting into words leave

A text that was trimmed has no blanks left around it. A line has no words just when it is blank.
-/

namespace IntegrationHost.Text

/-- Cutting off the blanks behind characters uncovers none in front of them. -/
theorem trimStart_trimEnd (cs : List Char) :
    trimStart (trimEnd (trimStart cs)) = trimEnd (trimStart cs) := by
  rw [trimStart, List.dropWhile_eq_self_iff]
  intro some
  have isFront : trimEnd (trimStart cs) <+: trimStart cs := List.rdropWhile_prefix isBlankChar _
  have once : trimStart (trimStart cs) = trimStart cs := List.dropWhile_idempotent isBlankChar cs
  rw [isFront.getElem some]
  exact List.dropWhile_eq_self_iff.mp once _

/-- A text that was trimmed stays as it is. -/
theorem trim_trim (s : String) : trim (trim s) = trim s := by
  have twice (cs : List Char) : trimEnd (trimEnd cs) = trimEnd cs :=
    List.rdropWhile_idempotent isBlankChar cs
  rw [trim, trim, String.toList_ofList, trimStart_trimEnd, twice]

/-- Trimming makes no text longer. -/
theorem length_trim_le (s : String) : (trim s).toList.length ≤ s.toList.length := by
  have front : trimEnd (trimStart s.toList) <+: trimStart s.toList :=
    List.rdropWhile_prefix isBlankChar _
  have back : trimStart s.toList <:+ s.toList := List.dropWhile_suffix isBlankChar
  rw [trim, String.toList_ofList]
  exact front.length_le.trans back.length_le

/-- There are no words when none is under way and all that follows is blank. -/
theorem wordsFrom_eq_nil_iff {word cs : List Char} :
    wordsFrom word cs = [] ↔ word = [] ∧ cs.all isBlankChar = true := by
  induction cs generalizing word with
  | nil => cases word <;> simp [wordsFrom]
  | cons c cs ih =>
      cases word with
      | nil => by_cases blank : isBlankChar c = true <;> simp [wordsFrom, blank, ih]
      | cons last before => by_cases blank : isBlankChar c = true <;> simp [wordsFrom, blank, ih]

theorem words_eq_nil_iff {s : String} : words s = [] ↔ isBlank s = true := by
  simp only [words, wordsFrom_eq_nil_iff, true_and, isBlank]

end IntegrationHost.Text
