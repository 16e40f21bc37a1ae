import Mathlib.Data.List.Forall2
import Mathlib.Data.List.Perm.Basic

/-!
# Lists taken item by item

What is known of lists whose items stand opposite each other, and of lists that are mapped item by
item: by a function that may fail, or by one that is told the index of each item.
-/

namespace IntegrationHost.Lists

variable {α β γ ε : Type}

/-! ## Lists opposite each other -/

/-- Each item has one that it stands opposite to. -/
theorem exists_of_forall₂ {R : α → β → Prop} {xs : List α} {ys : List β}
    (all : List.Forall₂ R xs ys) {y : β} (isOne : y ∈ ys) : ∃ x ∈ xs, R x y := by
  induction all with
  | nil => cases isOne
  | cons first _ ih =>
      rcases List.mem_cons.mp isOne with rfl | isOne
      · exact ⟨_, List.mem_cons_self, first⟩
      · obtain ⟨x, isIn, related⟩ := ih isOne
        exact ⟨x, List.mem_cons_of_mem _ isIn, related⟩

/-- One item is put in place of another in a list that is opposite to itself. -/
theorem forall₂_replace {R : α → α → Prop} (same : ∀ a, R a a) (before after : List α) {a b : α}
    (related : R a b) : List.Forall₂ R (before ++ a :: after) (before ++ b :: after) :=
  List.rel_append (List.forall₂_same.mpr fun a _ => same a)
    (.cons related (List.forall₂_same.mpr fun a _ => same a))

/-- What stands opposite one item may be replaced. -/
theorem forall₂_replace_right {R : α → β → Prop} {xs : List α} {before after : List β} {y z : β}
    (related : List.Forall₂ R xs (before ++ y :: after)) (next : ∀ x, R x y → R x z) :
    List.Forall₂ R xs (before ++ z :: after) := by
  induction before generalizing xs with
  | nil =>
      obtain ⟨x, rest, first, others, rfl⟩ := List.forall₂_cons_right_iff.mp related
      exact .cons (next x first) others
  | cons head tail ih =>
      obtain ⟨x, rest, first, others, rfl⟩ := List.forall₂_cons_right_iff.mp related
      exact .cons first (ih others)

/-! ## Mapping that may fail -/

theorem mapM_eq_ok_iff {f : α → Except ε β} {as : List α} {bs : List β} :
    as.mapM f = .ok bs ↔ List.Forall₂ (fun a b => f a = .ok b) as bs := by
  induction as generalizing bs with
  | nil =>
      rw [List.forall₂_nil_left_iff]
      simp [pure, Except.pure, eq_comm]
  | cons a rest ih =>
      rw [List.mapM_cons, List.forall₂_cons_left_iff]
      cases first : f a with
      | error failure => simp [bind, Except.bind]
      | ok b =>
          cases others : rest.mapM f with
          | error failure => simp [bind, Except.bind, ← ih, others]
          | ok found => simp [bind, Except.bind, pure, Except.pure, ← ih, others, eq_comm]

/-- Where all fail, one fails. -/
theorem exists_of_mapM_error {f : α → Except ε β} {error : ε} {as : List α}
    (failed : as.mapM f = .error error) : ∃ a ∈ as, f a = .error error := by
  induction as with
  | nil => cases failed
  | cons a rest ih =>
      rw [List.mapM_cons] at failed
      cases first : f a with
      | error reason =>
          rw [first] at failed
          cases failed
          exact ⟨a, List.mem_cons_self, first⟩
      | ok b =>
          rw [first] at failed
          cases others : rest.mapM f with
          | error reason =>
              rw [others] at failed
              cases failed
              obtain ⟨later, isLater, fails⟩ := ih others
              exact ⟨later, List.mem_cons_of_mem a isLater, fails⟩
          | ok bs =>
              rw [others] at failed
              cases failed

theorem mapM_eq_some_iff {f : α → Option β} {as : List α} {bs : List β} :
    as.mapM f = some bs ↔ List.Forall₂ (fun a b => f a = some b) as bs := by
  induction as generalizing bs with
  | nil =>
      rw [List.forall₂_nil_left_iff]
      simp [eq_comm]
  | cons a rest ih =>
      simp only [List.mapM_cons, List.forall₂_cons_left_iff, ← ih]
      cases f a with
      | none => simp
      | some b => cases rest.mapM f <;> simp [eq_comm]

/-- What the items of a list are mapped to, the items opposite them are mapped to as well. -/
theorem mapM_eq_some_of_forall₂ {R : α → α → Prop} {f : α → Option β}
    (keeps : ∀ a b, R a b → ∀ c, f a = some c → f b = some c) {as others : List α}
    (related : List.Forall₂ R as others) {bs : List β} (found : as.mapM f = some bs) :
    others.mapM f = some bs := by
  rw [mapM_eq_some_iff] at found ⊢
  induction related generalizing bs with
  | nil => exact found
  | cons first _ ih =>
      obtain ⟨b, rest, isFirst, isRest, rfl⟩ := List.forall₂_cons_left_iff.mp found
      exact .cons (keeps _ _ first b isFirst) (ih isRest)

/-- A list in another order is mapped to a list in another order. -/
theorem mapM_perm {f : α → Option β} {as others : List α} (perm : as.Perm others) {bs : List β}
    (found : as.mapM f = some bs) : ∃ more, others.mapM f = some more ∧ bs.Perm more := by
  simp only [mapM_eq_some_iff] at found ⊢
  induction perm generalizing bs with
  | nil => exact ⟨bs, found, .refl bs⟩
  | cons a _ ih =>
      obtain ⟨c, rest, isFirst, isRest, rfl⟩ := List.forall₂_cons_left_iff.mp found
      obtain ⟨more, isMore, restPerm⟩ := ih isRest
      exact ⟨c :: more, .cons isFirst isMore, restPerm.cons c⟩
  | swap a b rest =>
      obtain ⟨d, behind, isFirst, isBehind, rfl⟩ := List.forall₂_cons_left_iff.mp found
      obtain ⟨c, more, isSecond, isMore, rfl⟩ := List.forall₂_cons_left_iff.mp isBehind
      exact ⟨c :: d :: more, .cons isSecond (.cons isFirst isMore), .swap c d more⟩
  | trans _ _ ih ih' =>
      obtain ⟨between, isBetween, first⟩ := ih found
      obtain ⟨more, isMore, second⟩ := ih' isBetween
      exact ⟨more, isMore, first.trans second⟩

/-! ## Mapping by index -/

theorem exists_of_mem_mapIdx {f : Nat → α → β} {as : List α} {b : β} (member : b ∈ as.mapIdx f) :
    ∃ index, ∃ a ∈ as, f index a = b := by
  obtain ⟨index, bound, same⟩ := List.mem_mapIdx.mp member
  exact ⟨index, as[index], List.getElem_mem bound, same⟩

theorem mem_mapIdx_of_mem {a : α} {as : List α} (member : a ∈ as) (f : Nat → α → β) :
    ∃ index, f index a ∈ as.mapIdx f := by
  obtain ⟨index, bound, rfl⟩ := List.getElem_of_mem member
  exact ⟨index, List.mem_mapIdx.mpr ⟨index, bound, rfl⟩⟩

/-- What is numbered by index is in order. -/
theorem pairwise_mapIdx {f : Nat → α → β} {number : β → Nat}
    (numbered : ∀ index a, number (f index a) = index) (as : List α) :
    (as.mapIdx f).Pairwise fun b c => number b < number c := by
  rw [List.pairwise_iff_getElem]
  intro i j _ _ less
  simpa only [List.getElem_mapIdx, numbered] using less

theorem filterMap_mapIdx {f : Nat → α → β} {g : β → Option γ} {h : α → Option γ}
    (same : ∀ index a, g (f index a) = h a) (as : List α) :
    (as.mapIdx f).filterMap g = as.filterMap h := by
  induction as generalizing f with
  | nil => rfl
  | cons a as ih =>
      rw [List.mapIdx_cons, List.filterMap_cons, List.filterMap_cons, same,
        ih fun index => same (index + 1)]

/-- What stands opposite the items that were made by index stands opposite those they were made
from. -/
theorem forall₂_mapIdx_left {R : β → γ → Prop} {S : α → γ → Prop} {f : Nat → α → β}
    (each : ∀ index a c, R (f index a) c → S a c) {as : List α} {cs : List γ}
    (related : List.Forall₂ R (as.mapIdx f) cs) : List.Forall₂ S as cs := by
  induction as generalizing f cs with
  | nil =>
      rw [List.mapIdx_nil, List.forall₂_nil_left_iff] at related
      rw [related]
      exact .nil
  | cons a rest ih =>
      rw [List.mapIdx_cons] at related
      obtain ⟨c, others, first, others_related, rfl⟩ := List.forall₂_cons_left_iff.mp related
      refine .cons (each 0 a c first) (ih ?_ others_related)
      intro index
      exact each (index + 1)

end IntegrationHost.Lists
