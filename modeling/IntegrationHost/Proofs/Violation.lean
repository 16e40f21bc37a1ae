import IntegrationHost.Violation
import Mathlib.Data.List.Basic

/-!
# Repeated ids and paths

What the two helpers of every check do. Of ids that have to differ, those that come twice are
reported, each once, in the order in which they come for the second time. Paths of fields tell
apart the places they lead to.
-/

namespace IntegrationHost

namespace Violation

/-! ## Repeated ids -/

/-- One id comes for the second time where another has not come twice yet. -/
def TwiceBefore (ids : List String) (id other : String) : Prop :=
  ∃ n, 2 ≤ (ids.take n).count id ∧ (ids.take n).count other < 2

theorem twiceBefore_irrefl (ids : List String) (id : String) : ¬ TwiceBefore ids id id := by
  rintro ⟨n, twice, notTwice⟩
  exact Nat.not_lt.mpr twice notTwice

/-- The ids that come for the second time behind those before. -/
def secondTimes (before : List String) : List String → List String
  | [] => []
  | id :: ids =>
    if before.count id = 1 then id :: secondTimes (before ++ [id]) ids
    else secondTimes (before ++ [id]) ids

theorem count_append_self (before : List String) (id : String) :
    (before ++ [id]).count id = before.count id + 1 := by
  rw [List.count_append, List.count_singleton_self]

theorem count_append_other {id other : String} (different : other ≠ id) (before : List String) :
    (before ++ [other]).count id = before.count id := by
  rw [List.count_append, List.count_singleton, if_neg (by simpa using different), Nat.add_zero]

/-- An id is among those that come for the second time if it comes twice in all, but not before. -/
theorem mem_secondTimes {before ids : List String} {id : String} :
    id ∈ secondTimes before ids ↔ before.count id < 2 ∧ 2 ≤ (before ++ ids).count id := by
  induction ids generalizing before with
  | nil =>
      rw [secondTimes, List.append_nil]
      constructor
      · exact nofun
      · rintro ⟨notTwice, twice⟩
        exact absurd notTwice (Nat.not_lt.mpr twice)
  | cons head rest ih =>
      have whole : before ++ head :: rest = (before ++ [head]) ++ rest := by simp
      have others := @ih (before ++ [head])
      have part : (before ++ [head]).count id ≤ ((before ++ [head]) ++ rest).count id := by
        rw [@List.count_append _ _ id (before ++ [head]) rest]
        exact Nat.le_add_right _ _
      rw [secondTimes, whole]
      by_cases same : head = id
      · subst same
        rw [count_append_self] at others part
        by_cases second : before.count head = 1
        · rw [if_pos second]
          exact ⟨fun _ => by omega, fun _ => List.mem_cons_self⟩
        · rw [if_neg second, others]
          omega
      · rw [count_append_other same] at others
        by_cases second : before.count head = 1
        · rw [if_pos second, List.mem_cons, others]
          exact or_iff_right (Ne.symm same)
        · rw [if_neg second, others]

/-- They stand in the order in which they come for the second time. -/
theorem secondTimes_ordered (before ids : List String) :
    (secondTimes before ids).Pairwise (TwiceBefore (before ++ ids)) := by
  induction ids generalizing before with
  | nil => exact .nil
  | cons head rest ih =>
      have whole : before ++ head :: rest = (before ++ [head]) ++ rest := by simp
      have others := ih (before ++ [head])
      rw [secondTimes, whole]
      by_cases second : before.count head = 1
      · rw [if_pos second]
        refine List.pairwise_cons.mpr ⟨fun other later => ?_, others⟩
        obtain ⟨notTwice, -⟩ := mem_secondTimes.mp later
        refine ⟨(before ++ [head]).length, ?_, ?_⟩
        · rw [List.take_left, count_append_self]
          omega
        · rwa [List.take_left]
      · rw [if_neg second]
        exact others

/-- What a check remembers of the ids before: those that came, and those that came twice. -/
structure Recalls (seen reported before : List String) : Prop where
  seen : ∀ id, id ∈ seen ↔ 1 ≤ before.count id
  reported : ∀ id, id ∈ reported ↔ 2 ≤ before.count id

/-- What is remembered behind a further id. -/
theorem Recalls.grow {seen reported seenNow reportedNow before : List String} {head : String}
    (recalls : Recalls seen reported before)
    (sees : ∀ id, id ∈ seenNow ↔ id = head ∨ id ∈ seen)
    (reports : ∀ id, id ∈ reportedNow ↔ id = head ∧ head ∈ seen ∨ id ∈ reported) :
    Recalls seenNow reportedNow (before ++ [head]) := by
  constructor
  · intro id
    rw [sees, recalls.seen]
    by_cases same : id = head
    · rw [same, count_append_self]
      exact ⟨fun _ => Nat.le_add_left 1 _, fun _ => Or.inl rfl⟩
    · rw [count_append_other (Ne.symm same)]
      exact or_iff_right same
  · intro id
    rw [reports, recalls.seen, recalls.reported]
    by_cases same : id = head
    · rw [same, count_append_self, eq_self, true_and]
      omega
    · rw [count_append_other (Ne.symm same)]
      exact or_iff_right fun both => same both.1

theorem repeatedFrom_eq (path : String) {seen reported before : List String}
    (recalls : Recalls seen reported before) (ids : List String) :
    repeatedFrom path seen reported ids =
      (secondTimes before ids).map fun id => ⟨path, "duplicate uniqueId " ++ id⟩ := by
  induction ids generalizing seen reported before with
  | nil => rfl
  | cons head rest ih =>
      have headSeen := recalls.seen head
      have headReported := recalls.reported head
      simp only [repeatedFrom, secondTimes, List.contains_iff_mem]
      by_cases again : head ∈ seen
      · have seenOnce := headSeen.mp again
        rw [if_pos again]
        by_cases told : head ∈ reported
        · have twice := headReported.mp told
          rw [if_pos told, if_neg (by omega)]
          exact ih (recalls.grow (by grind) (by grind))
        · have notTwice : ¬ 2 ≤ before.count head := fun twice => told (headReported.mpr twice)
          rw [if_neg told, if_pos (by omega), List.map_cons]
          exact congrArg _ (ih (recalls.grow (by grind) (by grind)))
      · have notSeen : ¬ 1 ≤ before.count head := fun once => again (headSeen.mpr once)
        rw [if_neg again, if_neg (by omega)]
        exact ih (recalls.grow (by grind) (by grind))

/-- The ids that come twice are reported where they come for the second time. -/
theorem repeated_eq (path : String) (ids : List String) :
    repeated path ids =
      (secondTimes [] ids).map fun id => ⟨path, "duplicate uniqueId " ++ id⟩ :=
  repeatedFrom_eq path ⟨by simp, by simp⟩ ids

end Violation

/-! ## Paths -/

/-- What stands in front of the fields of the element at a path. -/
def pathLead (root : String) : String :=
  if root.isEmpty then "" else root ++ "."

theorem childPath_eq (root name : String) : childPath root name = pathLead root ++ name := by
  unfold childPath pathLead
  split
  · exact String.empty_append.symm
  · rfl

theorem itemPath_childPath (root name : String) (index : Nat) :
    itemPath (childPath root name) index = childPath root (itemPath name index) := by
  simp only [childPath_eq, itemPath, String.append_assoc]

/-- The path of what lies several fields deep. -/
theorem foldl_childPath (root : String) {names : List String} (some : names ≠ [])
    (notEmpty : ∀ name ∈ names, name ≠ "") :
    names.foldl childPath root = pathLead root ++ ".".intercalate names := by
  induction names generalizing root with
  | nil => exact absurd rfl some
  | cons name rest ih =>
      obtain ⟨nameNotEmpty, restNotEmpty⟩ := List.forall_mem_cons.mp notEmpty
      rw [List.foldl_cons]
      by_cases last : rest = []
      · rw [last, List.foldl_nil, String.intercalate_singleton, childPath_eq]
      · have lead : pathLead (childPath root name) = pathLead root ++ name ++ "." := by
          rw [pathLead, if_neg, childPath_eq]
          simp [childPath_eq, nameNotEmpty]
        rw [ih _ last restNotEmpty, lead, String.intercalate_cons_of_ne_nil last]
        simp only [String.append_assoc]

/-- Fields without dots in their names are told apart by the paths of what lies in them. -/
theorem foldl_childPath_inj (root : String) {names others : List String}
    (some : names ≠ []) (othersSome : others ≠ [])
    (plain : ∀ name ∈ names, name ≠ "" ∧ '.' ∉ name.toList)
    (othersPlain : ∀ name ∈ others, name ≠ "" ∧ '.' ∉ name.toList)
    (same : names.foldl childPath root = others.foldl childPath root) : names = others := by
  rw [foldl_childPath root some fun name member => (plain name member).1,
    foldl_childPath root othersSome fun name member => (othersPlain name member).1,
    String.append_right_inj] at same
  have split : ∀ {names : List String}, names ≠ [] →
      (∀ name ∈ names, name ≠ "" ∧ '.' ∉ name.toList) →
        (".".intercalate names).toList.splitOn '.' = names.map String.toList := by
    intro names some plain
    rw [String.toList_intercalate]
    refine List.splitOn_intercalate '.' ?_ (by simpa using some)
    exact List.forall_mem_map.mpr fun name member => (plain name member).2
  have lists := split some plain
  rw [same, split othersSome othersPlain] at lists
  exact (List.map_injective_iff.mpr fun _ _ => String.toList_inj.mp) lists.symm

/-- The items of a list are told apart. -/
theorem itemPath_inj (name : String) {index other : Nat}
    (same : itemPath name index = itemPath name other) : index = other := by
  rw [itemPath, itemPath, String.append_left_inj, String.append_right_inj,
    Nat.toString_eq_ofList_toDigits, Nat.toString_eq_ofList_toDigits] at same
  have value := congrArg (fun digits => Nat.ofDigitChars 10 digits 0) (String.ofList_injective same)
  simpa only [Nat.ofDigitChars_ten_toDigits] using value

theorem itemPath_plain {name : String} (plain : '.' ∉ name.toList) (index : Nat) :
    itemPath name index ≠ "" ∧ '.' ∉ (itemPath name index).toList := by
  have digits : '.' ∉ Nat.toDigits 10 index := by
    intro member
    cases Nat.isDigit_of_mem_toDigits (by decide) (Nat.le_refl 10) member
  constructor
  · simp [itemPath]
  · simp [itemPath, plain, digits]

end IntegrationHost
