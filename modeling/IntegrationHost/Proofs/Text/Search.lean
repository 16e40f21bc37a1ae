import IntegrationHost.Text.Search
import Mathlib.Data.List.Basic
import Mathlib.Data.List.Infix

/-!
# Cutting and replacing, read from the left

What the operations on text mean, said without positions: where the mark stands at the front of what
is still to read, it ends a piece or is replaced, and reading goes on behind it; any other character
is kept and reading goes on with the next one.
-/

namespace IntegrationHost.Text

/-! ## Meanings -/

/-- Put a character in front of the first piece. -/
def onFirst (c : Char) : List (List Char) → List (List Char)
  | [] => [[c]]
  | piece :: more => (c :: piece) :: more

/-- The pieces of characters between the occurrences of a mark that is not empty. -/
def cutAt (mark : List Char) : List Char → List (List Char)
  | [] => [[]]
  | c :: cs =>
    if mark.isPrefixOf (c :: cs) then [] :: cutAt mark (cs.drop (mark.length - 1))
    else onFirst c (cutAt mark cs)
termination_by cs => cs.length
decreasing_by
  · rw [List.length_drop, List.length_cons]
    omega
  · exact Nat.lt_succ_self _

/-- Characters with the occurrences of a text that is not empty replaced. -/
def substitute (search replacement : List Char) : List Char → List Char
  | [] => []
  | c :: cs =>
    if search.isPrefixOf (c :: cs) then
      replacement ++ substitute search replacement (cs.drop (search.length - 1))
    else c :: substitute search replacement cs
termination_by cs => cs.length
decreasing_by
  · rw [List.length_drop, List.length_cons]
    omega
  · exact Nat.lt_succ_self _

/-- The parts of a text between the occurrences of a mark. An empty mark stands before, between and
behind all characters. -/
def parts (mark s : String) : List String :=
  if mark.isEmpty then "" :: s.toList.map (fun c => String.ofList [c]) ++ [""]
  else (cutAt mark.toList s.toList).map String.ofList

/-- A text with the occurrences of another one replaced. -/
def substituted (search replacement s : String) : String :=
  String.ofList (substitute search.toList replacement.toList s.toList)

/-! ## What the operations do -/

/-- A text stands at the front when something follows it. -/
theorem isSome_after? (start cs : List Char) :
    (after? start cs).isSome = start.isPrefixOf cs := by
  induction start generalizing cs with
  | nil => rfl
  | cons x rest ih =>
      cases cs with
      | nil => rfl
      | cons c cs =>
          by_cases same : x = c
          · simp [after?, same, ih, List.isPrefixOf]
          · simp [after?, same, List.isPrefixOf]

/-- Skipping characters is leaving them out. -/
theorem piecesBehind_eq (mark : List Char) (skip : Nat) (cs : List Char) :
    piecesBehind mark skip cs = cutAt mark (cs.drop skip) := by
  induction cs generalizing skip with
  | nil =>
      rw [List.drop_nil, cutAt]
      cases skip <;> rfl
  | cons c cs ih =>
      cases skip with
      | succ skip => exact ih skip
      | zero =>
          rw [List.drop_zero, cutAt, piecesBehind, isSome_after?, ih, ih, List.drop_zero]
          rfl

theorem cutAt_ne_nil (mark cs : List Char) : cutAt mark cs ≠ [] := by
  cases cs with
  | nil =>
      rw [cutAt]
      exact List.cons_ne_nil _ _
  | cons c cs =>
      rw [cutAt]
      split
      · exact List.cons_ne_nil _ _
      · unfold onFirst
        split <;> exact List.cons_ne_nil _ _

/-- The pieces, with the replacement between them. -/
theorem intercalate_cutAt (search replacement cs : List Char) :
    replacement.intercalate (cutAt search cs) = substitute search replacement cs := by
  induction cs using substitute.induct search with
  | case1 =>
      rw [cutAt, substitute]
      rfl
  | case2 c cs found ih =>
      rw [cutAt, substitute, if_pos found, if_pos found,
        List.intercalate_cons_of_ne_nil (cutAt_ne_nil _ _), ih]
      rfl
  | case3 c cs notFound ih =>
      rw [cutAt, substitute, if_neg notFound, if_neg notFound, ← ih]
      rcases cut : cutAt search cs with _ | ⟨piece, more⟩
      · exact absurd cut (cutAt_ne_nil search cs)
      · cases more with
        | nil => rfl
        | cons next others =>
            rw [onFirst, List.intercalate_cons_cons, List.intercalate_cons_cons]
            rfl

theorem isEmpty_toList (s : String) : s.toList.isEmpty = s.isEmpty := by
  rw [Bool.eq_iff_iff, List.isEmpty_iff, String.isEmpty_iff, String.toList_eq_nil_iff]

/-- A text that is split has a part. -/
theorem parts_ne_nil (mark s : String) : parts mark s ≠ [] := by
  unfold parts
  split
  · exact List.cons_ne_nil _ _
  · rw [ne_eq, List.map_eq_nil_iff]
    exact cutAt_ne_nil _ _

/-- Splitting a text gives its parts. -/
theorem split_eq (mark s : String) : split mark s = parts mark s := by
  unfold split pieces parts
  rw [isEmpty_toList]
  by_cases empty : mark.isEmpty = true
  · rw [if_pos empty, if_pos empty, List.map_append, List.map_cons, List.map_map]
    rfl
  · rw [if_neg empty, if_neg empty, piecesBehind_eq, List.drop_zero]

/-- Replacing a text that is not empty substitutes all of its occurrences. -/
theorem replace_eq {search : String} (notEmpty : search.isEmpty = false) (replacement s : String) :
    replace search replacement s = substituted search replacement s := by
  apply String.toList_injective
  unfold replace substituted
  have asLists : String.toList ∘ String.ofList = id := funext fun _ => String.toList_ofList
  rw [split_eq, parts, if_neg (by rw [notEmpty]; decide), String.toList_intercalate, List.map_map,
    asLists, List.map_id, String.toList_ofList, intercalate_cutAt]

/-- A text is not cut where the mark does not stand in it. -/
theorem cut?_eq_none_iff {mark cs : List Char} : cut? mark cs = none ↔ ¬mark <:+: cs := by
  induction cs with
  | nil => simp [cut?]
  | cons c cs ih =>
      rw [List.infix_cons_iff, not_or, ← ih, ← List.isPrefixOf_iff_prefix, ← isSome_after?]
      rw [cut?]
      cases after? mark (c :: cs) with
      | some rest => simp
      | none => simp

/-- The characters behind a text are those that it is followed by. -/
theorem after?_eq_some_iff {start cs rest : List Char} :
    after? start cs = some rest ↔ cs = start ++ rest := by
  induction start generalizing cs with
  | nil => simp [after?]
  | cons x start ih =>
      cases cs with
      | nil => simp [after?]
      | cons c cs =>
          by_cases same : x = c
          · simp [after?, same, ih]
          · simp [after?, same, Ne.symm same]

/-- Characters are cut at the first place where a mark stands: it does not begin before that place.
-/
theorem cut?_eq_some_iff_first {mark cs before behind : List Char} (notEmpty : mark ≠ []) :
    cut? mark cs = some (before, behind) ↔
      cs = before ++ (mark ++ behind) ∧ ¬mark <:+: before ++ mark.dropLast := by
  induction cs generalizing before with
  | nil => simp [cut?, notEmpty]
  | cons c cs ih =>
      have shorter : mark.dropLast.length < mark.length := by
        rw [List.length_dropLast]
        exact Nat.sub_one_lt (mt List.length_eq_zero_iff.mp notEmpty)
      cases stands : after? mark (c :: cs) with
      | some rest =>
          have front := after?_eq_some_iff.mp stands
          simp only [cut?, stands, Option.some.injEq, Prod.mk.injEq]
          constructor
          · rintro ⟨rfl, rfl⟩
            refine ⟨front, fun inside => ?_⟩
            exact absurd inside.length_le (Nat.not_le_of_lt shorter)
          · rintro ⟨split, isFirst⟩
            cases before with
            | nil => exact ⟨rfl, List.append_cancel_left (front.symm.trans split)⟩
            | cons d before =>
                -- The mark begins at once, and so before the place in question.
                refine absurd (List.IsPrefix.isInfix ?_) isFirst
                have whole : d :: before ++ mark.dropLast <+: c :: cs := by
                  rw [split, List.prefix_append_right_inj]
                  exact (List.dropLast_prefix mark).trans (List.prefix_append mark behind)
                refine List.prefix_of_prefix_length_le ⟨rest, front.symm⟩ whole ?_
                rw [List.length_append, List.length_cons, List.length_dropLast]
                omega
      | none =>
          have notFront : ¬mark <+: c :: cs := by
            rintro ⟨rest, front⟩
            cases stands.symm.trans (after?_eq_some_iff.mpr front.symm)
          simp only [cut?, stands, Option.map_eq_some_iff, Prod.exists, Prod.mk.injEq]
          constructor
          · rintro ⟨found, rest, cut, rfl, rfl⟩
            obtain ⟨rfl, isFirst⟩ := ih.mp cut
            refine ⟨rfl, ?_⟩
            rw [List.cons_append, List.infix_cons_iff, not_or]
            refine ⟨fun front => notFront (front.trans ?_), isFirst⟩
            rw [← List.cons_append, ← List.cons_append, List.prefix_append_right_inj]
            exact (List.dropLast_prefix mark).trans (List.prefix_append mark rest)
          · rintro ⟨split, isFirst⟩
            cases before with
            | nil => exact absurd ⟨behind, split.symm⟩ notFront
            | cons d before =>
                obtain ⟨rfl, rfl⟩ := List.cons.inj split
                rw [List.cons_append, List.infix_cons_iff, not_or] at isFirst
                exact ⟨before, behind, ih.mpr ⟨rfl, isFirst.2⟩, rfl, rfl⟩

/-- What stands behind some occurrence of a mark stands behind its first one too. -/
theorem cut?_append (mark before behind : List Char) :
    ∃ front rest, cut? mark (before ++ (mark ++ behind)) = some (front, rest) ∧
      behind <:+ rest := by
  induction before with
  | nil =>
      refine ⟨[], behind, ?_, List.suffix_rfl⟩
      rw [List.nil_append]
      cases whole : mark ++ behind with
      | nil =>
          obtain ⟨rfl, rfl⟩ := List.append_eq_nil_iff.mp whole
          rfl
      | cons c cs => rw [cut?, after?_eq_some_iff.mpr whole.symm]
  | cons d before ih =>
      rw [List.cons_append]
      cases stands : after? mark (d :: (before ++ (mark ++ behind))) with
      | some rest =>
          have front := after?_eq_some_iff.mp stands
          refine ⟨[], rest, by rw [cut?, stands], ?_⟩
          have lengths := congrArg List.length front
          simp only [List.length_cons, List.length_append] at lengths
          have last : behind <:+ mark ++ rest :=
            ⟨d :: (before ++ mark), by rw [← front, List.cons_append, List.append_assoc]⟩
          exact List.suffix_of_suffix_length_le last ⟨mark, rfl⟩ (by omega)
      | none =>
          obtain ⟨front, rest, cut, within⟩ := ih
          exact ⟨d :: front, rest, by rw [cut?, stands, cut, Option.map_some], within⟩

/-- The rest of a text behind its beginning is what the text goes on with. -/
theorem stripStart?_eq_some_iff {start s rest : String} :
    stripStart? start s = some rest ↔ s.toList = start.toList ++ rest.toList := by
  simp only [stripStart?, Option.map_eq_some_iff, after?_eq_some_iff]
  constructor
  · rintro ⟨cs, whole, rfl⟩
    rw [String.toList_ofList]
    exact whole
  · intro whole
    exact ⟨_, whole, String.ofList_toList⟩

theorem endsWith_iff {s tail : String} : endsWith s tail = true ↔ tail.toList <:+ s.toList := by
  rw [endsWith, isSome_after?, List.isPrefixOf_iff_prefix, List.reverse_prefix]

theorem splitOnce_eq_none_iff {mark s : String} :
    splitOnce mark s = none ↔ ¬mark.toList <:+: s.toList := by
  rw [splitOnce, Option.map_eq_none_iff, cut?_eq_none_iff]

/-! ## Marks of one character -/

section

variable {c : Char} {cs : List Char} {mark s : String}

theorem hasAny_eq_false_iff {marks : List Char} :
    hasAny marks s = false ↔ ∀ c ∈ marks, c ∉ s.toList := by
  simp only [hasAny, List.any_eq_false, List.contains_iff_mem]
  exact ⟨fun none c isMark inside => none c inside isMark,
    fun none c inside isMark => none c isMark inside⟩

/-- Cutting at a character is what the standard library does. -/
theorem cutAt_eq_splitOn (c : Char) (cs : List Char) : cutAt [c] cs = cs.splitOn c := by
  induction cs with
  | nil =>
      rw [cutAt]
      rfl
  | cons d ds ih =>
      rw [cutAt, List.splitOn_cons_eq_if_modifyHead]
      by_cases same : c = d
      · subst same
        simp [List.isPrefixOf, ih]
      · have later : d ≠ c := Ne.symm same
        rcases pieces : ds.splitOn c with _ | ⟨piece, more⟩
        · exact absurd pieces (List.splitOn_ne_nil c ds)
        · simp [List.isPrefixOf, same, later, ih, pieces, onFirst]

theorem not_mem_of_mem_splitOn {piece : List Char} (member : piece ∈ cs.splitOn c) : c ∉ piece := by
  induction cs generalizing piece with
  | nil =>
      cases List.mem_singleton.mp member
      exact List.not_mem_nil
  | cons d ds ih =>
      rw [List.splitOn_cons_eq_if_modifyHead] at member
      rcases pieces : ds.splitOn c with _ | ⟨first, more⟩
      · exact absurd pieces (List.splitOn_ne_nil c ds)
      · rw [pieces] at member ih
        split at member
        · rcases List.mem_cons.mp member with rfl | inside
          · exact List.not_mem_nil
          · exact ih inside
        · rename_i different
          rcases List.mem_cons.mp member with rfl | inside
          · intro found
            rcases List.mem_cons.mp found with rfl | found
            · exact different (beq_self_eq_true c)
            · exact ih List.mem_cons_self found
          · exact ih (List.mem_cons_of_mem first inside)

/-- A text is split at a mark into the pieces that give the text with the mark between them, and in
which the mark does not occur. -/
theorem split_eq_iff (single : mark.toList = [c]) {pieces : List String} :
    split mark s = pieces ↔
      pieces ≠ [] ∧ s = mark.intercalate pieces ∧ ∀ piece ∈ pieces, c ∉ piece.toList := by
  have notEmpty : mark.isEmpty = false := by
    rw [← isEmpty_toList, single]
    rfl
  have split_splitOn : split mark s = (s.toList.splitOn c).map String.ofList := by
    rw [split_eq, parts, notEmpty, if_neg Bool.false_ne_true, single, cutAt_eq_splitOn]
  have asLists : String.toList ∘ String.ofList = id := funext fun _ => String.toList_ofList
  have asTexts : String.ofList ∘ String.toList = id := funext fun _ => String.ofList_toList
  rw [split_splitOn]
  constructor
  · rintro rfl
    refine ⟨fun none => List.splitOn_ne_nil c _ (List.map_eq_nil_iff.mp none), ?_, ?_⟩
    · apply String.toList_injective
      rw [String.toList_intercalate, single, List.map_map, asLists, List.map_id,
        List.intercalate_splitOn]
    · intro piece member
      obtain ⟨cs, inside, rfl⟩ := List.mem_map.mp member
      rw [String.toList_ofList]
      exact not_mem_of_mem_splitOn inside
  · rintro ⟨some, rfl, unmarked⟩
    rw [String.toList_intercalate, single, List.splitOn_intercalate c, List.map_map, asTexts,
      List.map_id]
    · intro piece member
      obtain ⟨text, inside, rfl⟩ := List.mem_map.mp member
      exact unmarked text inside
    · exact fun none => some (List.map_eq_nil_iff.mp none)

theorem cut?_eq_some_iff {before behind : List Char} :
    cut? [c] cs = some (before, behind) ↔ cs = before ++ c :: behind ∧ c ∉ before := by
  rw [cut?_eq_some_iff_first (List.cons_ne_nil c []), List.dropLast_singleton, List.append_nil,
    List.singleton_append, List.singleton_infix_iff]

/-- A text is cut once where a mark occurs first. -/
theorem splitOnce_eq_some_iff (single : mark.toList = [c]) {before behind : String} :
    splitOnce mark s = some (before, behind) ↔
      s = before ++ mark ++ behind ∧ c ∉ before.toList := by
  have split_iff : s = before ++ mark ++ behind ↔
      s.toList = before.toList ++ c :: behind.toList := by
    rw [← String.toList_inj, String.toList_append, String.toList_append, single, List.append_assoc]
    rfl
  rw [split_iff, ← cut?_eq_some_iff]
  simp only [splitOnce, single, Option.map_eq_some_iff, Prod.exists, Prod.mk.injEq]
  constructor
  · rintro ⟨before, behind, cut, rfl, rfl⟩
    rw [String.toList_ofList, String.toList_ofList]
    exact cut
  · intro cut
    exact ⟨_, _, cut, String.ofList_toList, String.ofList_toList⟩

end

end IntegrationHost.Text
