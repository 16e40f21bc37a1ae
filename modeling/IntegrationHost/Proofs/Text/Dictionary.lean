import IntegrationHost.Text.Dictionary
import Mathlib.Data.List.Basic

/-!
# What stands under a key

A dictionary is known by what stands under its keys. Putting entries in changes what stands under
their keys and under no others.
-/

namespace IntegrationHost.Dictionary

variable {d e : Dictionary} {key name value : String} {entries : List (String × String)}

/-! ## Entries under keys of any kind -/

section

variable {K V : Type} [BEq K] [LawfulBEq K] [DecidableEq K]

theorem lookup_entry (key : K) (value : V) (name : K) (rest : List (K × V)) :
    ((key, value) :: rest).lookup name = if name = key then some value else rest.lookup name := by
  rw [List.lookup_cons]
  by_cases same : name = key
  · rw [if_pos same, beq_iff_eq.mpr same]
  · rw [if_neg same, beq_false_of_ne same]

/-- Entries from which those under one key are left out. -/
theorem lookup_without (entries : List (K × V)) (key name : K) :
    (entries.filter fun entry => entry.1 != key).lookup name =
      if name = key then none else entries.lookup name := by
  induction entries with
  | nil => exact (ite_self none).symm
  | cons entry rest ih =>
      rw [List.filter_cons]
      by_cases left : entry.1 = key
      · rw [if_neg (by simp [left]), ih, lookup_entry, left]
        by_cases same : name = key
        · rw [if_pos same, if_pos same]
        · rw [if_neg same, if_neg same, if_neg same]
      · rw [if_pos (by simp [left]), lookup_entry, lookup_entry, ih]
        by_cases same : name = key
        · have different : name ≠ entry.1 := by
            rintro rfl
            exact left same
          rw [if_pos same, if_pos same, if_neg different]
        · rw [if_neg same, if_neg same]

/-- Where all keys differ, each entry is the first of its key. -/
theorem lookup_of_mem {entries : List (K × V)} (distinct : (entries.map Prod.fst).Nodup)
    {entry : K × V} (member : entry ∈ entries) : entries.lookup entry.1 = some entry.2 := by
  induction entries with
  | nil => cases member
  | cons first rest ih =>
      rw [List.map_cons, List.nodup_cons] at distinct
      rw [lookup_entry]
      rcases List.mem_cons.mp member with rfl | inside
      · exact if_pos rfl
      · have other : entry.1 ≠ first.1 := by
          intro same
          exact distinct.1 (same ▸ List.mem_map_of_mem inside)
        rw [if_neg other]
        exact ih distinct.2 inside

/-- Where all keys differ, the order of the entries does not matter. -/
theorem lookup_perm {entries others : List (K × V)} (perm : entries.Perm others)
    (distinct : (entries.map Prod.fst).Nodup) (key : K) :
    entries.lookup key = others.lookup key := by
  have othersDistinct : (others.map Prod.fst).Nodup := (perm.map Prod.fst).nodup_iff.mp distinct
  refine Option.ext fun value => ?_
  have mem_of_found : ∀ {some : List (K × V)}, some.lookup key = .some value →
      (key, value) ∈ some := by
    intro some found
    obtain ⟨before, after, rfl, _⟩ := List.lookup_eq_some_iff.mp found
    exact List.mem_append_right before List.mem_cons_self
  constructor
  · intro found
    exact lookup_of_mem othersDistinct (perm.mem_iff.mp (mem_of_found found))
  · intro found
    exact lookup_of_mem distinct (perm.mem_iff.mpr (mem_of_found found))

end

/-! ## Ascending entries -/

/-- Under a key that is less than all others nothing stands. -/
theorem lookup_of_below (below : ∀ entry ∈ entries, name < entry.1) :
    entries.lookup name = none := by
  apply List.lookup_eq_none_iff.mpr
  intro entry member
  apply bne_iff_ne.mpr
  intro same
  have before := below entry member
  rw [same] at before
  exact String.lt_irrefl _ before

theorem lookup_insertEntry (key value name : String) (entries : List (String × String)) :
    (insertEntry key value entries).lookup name =
      if name = key then some value else entries.lookup name := by
  induction entries with
  | nil => exact lookup_entry key value name []
  | cons head rest ih =>
      rcases head with ⟨k, v⟩
      unfold insertEntry
      by_cases below : key < k
      · rw [if_pos below, lookup_entry]
      · rw [if_neg below]
        by_cases above : k < key
        · rw [if_pos above, lookup_entry, lookup_entry, ih]
          by_cases found : name = k
          · have different : name ≠ key := by
              rintro rfl
              rw [found] at above
              exact String.lt_irrefl _ above
            rw [if_pos found, if_neg different, if_pos found]
          · rw [if_neg found, if_neg found]
        · have same : key = k :=
            String.le_antisymm (String.not_lt.mp above) (String.not_lt.mp below)
          rw [if_neg above, lookup_entry, lookup_entry, same]
          by_cases found : name = k
          · rw [if_pos found, if_pos found]
          · rw [if_neg found, if_neg found, if_neg found]

/-- Ascending entries with the same values under all keys are the same. -/
theorem ascending_ext {entries others : List (String × String)} (ascending : Ascending entries)
    (othersAscend : Ascending others)
    (same : ∀ name, entries.lookup name = others.lookup name) : entries = others := by
  induction entries generalizing others with
  | nil =>
      cases others with
      | nil => rfl
      | cons other rest =>
          have atOther := same other.1
          rw [lookup_entry, if_pos rfl] at atOther
          cases atOther
  | cons entry rest ih =>
      obtain ⟨below, restAscends⟩ := List.pairwise_cons.mp ascending
      cases others with
      | nil =>
          have atEntry := same entry.1
          rw [lookup_entry, if_pos rfl] at atEntry
          cases atEntry
      | cons other more =>
          obtain ⟨otherBelow, moreAscends⟩ := List.pairwise_cons.mp othersAscend
          rcases entry with ⟨key, value⟩
          rcases other with ⟨otherKey, otherValue⟩
          -- The lesser of the two keys would stand in one list only.
          have key_eq : key = otherKey := by
            have atKey := same key
            have atOther := same otherKey
            by_contra different
            rw [lookup_entry, lookup_entry, if_pos rfl, if_neg different] at atKey
            rw [lookup_entry, lookup_entry, if_pos rfl, if_neg (Ne.symm different)] at atOther
            by_cases less : key < otherKey
            · rw [lookup_of_below fun e member => String.lt_trans less (otherBelow e member)]
                at atKey
              cases atKey
            · have greater : otherKey < key := by
                by_contra notGreater
                exact different
                  (String.le_antisymm (String.not_lt.mp notGreater) (String.not_lt.mp less))
              rw [lookup_of_below fun e member => String.lt_trans greater (below e member)]
                at atOther
              cases atOther
          subst key_eq
          have atKey := same key
          simp only [lookup_entry, if_true, Option.some.injEq] at atKey
          rw [atKey]
          refine congrArg _ (ih restAscends moreAscends ?_)
          intro name
          by_cases found : name = key
          · rw [found, lookup_of_below below, lookup_of_below otherBelow]
          · have atName := same name
            rw [lookup_entry, lookup_entry, if_neg found, if_neg found] at atName
            exact atName

/-! ## Entries of dictionaries -/

/-- Two dictionaries with the same values under all keys are the same. -/
theorem ext_get? (same : ∀ name, d.get? name = e.get? name) : d = e := by
  rcases d with ⟨entries, ascending⟩
  rcases e with ⟨others, othersAscend⟩
  congr
  exact ascending_ext ascending othersAscend same

theorem get?_insert (d : Dictionary) (key value name : String) :
    (d.insert key value).get? name = if name = key then some value else d.get? name :=
  lookup_insertEntry key value name d.entries

/-- Ascending entries win over what was there. -/
theorem get?_update (d : Dictionary) (ascending : Ascending entries) (name : String) :
    (d.update entries).get? name = (entries.lookup name).or (d.get? name) := by
  unfold update
  induction entries generalizing d with
  | nil => rfl
  | cons entry rest ih =>
      obtain ⟨below, restAscends⟩ := List.pairwise_cons.mp ascending
      rw [List.foldl_cons, ih _ restAscends, get?_insert, lookup_entry]
      by_cases same : name = entry.1
      · rw [if_pos same, if_pos same, same, lookup_of_below below]
        rfl
      · rw [if_neg same, if_neg same]

/-- The entries of another dictionary win over what was there, but for those under one key. -/
theorem get?_update_without (d e : Dictionary) (key name : String) :
    (d.update (e.entries.filter fun entry => entry.1 != key)).get? name =
      if name = key then d.get? name else (e.get? name).or (d.get? name) := by
  rw [get?_update d (e.ascending.filter _), lookup_without]
  by_cases same : name = key
  · rw [if_pos same, if_pos same]
    rfl
  · rw [if_neg same, if_neg same]
    rfl

/-! ## Entries up to their order -/

/-- Keys that ascend differ. -/
theorem nodup_keys (ascending : Ascending entries) : (entries.map Prod.fst).Nodup := by
  refine List.pairwise_map.mpr (ascending.imp ?_)
  intro entry other less same
  rw [same] at less
  exact String.lt_irrefl _ less

/-- Dictionaries with the same entries in some order are the same. -/
theorem eq_of_perm (perm : d.entries.Perm e.entries) : d = e := by
  rcases d with ⟨entries, ascending⟩
  rcases e with ⟨others, othersAscend⟩
  congr
  refine perm.eq_of_pairwise ?_ ascending othersAscend
  intro entry other _ _ less greater
  exact absurd (String.lt_trans less greater) (String.lt_irrefl _)

theorem perm_insertEntry (fresh : ∀ entry ∈ entries, entry.1 ≠ key) :
    (insertEntry key value entries).Perm ((key, value) :: entries) := by
  induction entries with
  | nil => exact .refl _
  | cons head rest ih =>
      rcases head with ⟨k, v⟩
      obtain ⟨different, others⟩ := List.forall_mem_cons.mp fresh
      unfold insertEntry
      split
      · exact .refl _
      · split
        · exact ((ih others).cons (k, v)).trans (.swap ..)
        · rename_i notBelow notAbove
          have same : k = key :=
            String.le_antisymm (String.not_lt.mp notBelow) (String.not_lt.mp notAbove)
          exact absurd same different

/-- Keys are free behind an entry that is put in when they were and differ from its key. -/
theorem free_insert_iff :
    (∀ entry ∈ entries, (d.insert key value).get? entry.1 = none) ↔
      key ∉ entries.map Prod.fst ∧ ∀ entry ∈ entries, d.get? entry.1 = none := by
  simp only [get?_insert, List.mem_map]
  constructor
  · intro free
    have differ : ∀ entry ∈ entries, entry.1 ≠ key := by
      intro entry member same
      have absent := free entry member
      rw [if_pos same] at absent
      cases absent
    constructor
    · rintro ⟨entry, member, same⟩
      exact differ entry member same
    · intro entry member
      have absent := free entry member
      rwa [if_neg (differ entry member)] at absent
  · rintro ⟨new, free⟩ entry member
    rw [if_neg, free entry member]
    intro same
    exact new ⟨entry, member, same⟩

/-- Entries under new keys that differ are put beside those that were there. -/
theorem perm_update (distinct : (entries.map Prod.fst).Nodup)
    (free : ∀ entry ∈ entries, d.get? entry.1 = none) :
    (d.update entries).entries.Perm (d.entries ++ entries) := by
  unfold update
  induction entries generalizing d with
  | nil =>
      rw [List.append_nil]
      exact .refl _
  | cons entry rest ih =>
      obtain ⟨differs, restDistinct⟩ := List.nodup_cons.mp distinct
      obtain ⟨entryFree, restFree⟩ := List.forall_mem_cons.mp free
      have inserted : (d.insert entry.1 entry.2).entries.Perm (entry :: d.entries) := by
        apply perm_insertEntry
        intro other member same
        have absent := List.lookup_eq_none_iff.mp entryFree other member
        exact bne_iff_ne.mp absent same.symm
      have added := ih (d := d.insert entry.1 entry.2) restDistinct
        (free_insert_iff.mpr ⟨differs, restFree⟩)
      exact (added.trans (inserted.append_right rest)).trans List.perm_middle.symm

/-- Where all keys differ, the dictionary does not depend on the order of the entries. -/
theorem ofList_perm {others : List (String × String)} (perm : entries.Perm others)
    (distinct : (entries.map Prod.fst).Nodup) : ofList entries = ofList others := by
  have placed : ∀ {some : List (String × String)}, (some.map Prod.fst).Nodup →
      (ofList some).entries.Perm some := fun distinct => perm_update distinct fun _ _ => rfl
  have othersDistinct := (perm.map Prod.fst).nodup_iff.mp distinct
  exact eq_of_perm ((placed distinct).trans (perm.trans (placed othersDistinct).symm))

end IntegrationHost.Dictionary
