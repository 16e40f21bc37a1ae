import IntegrationHost.Proofs.Lists
import IntegrationHost.Proofs.Management.Server
import IntegrationHost.Proofs.Text.Order
import IntegrationHost.Proofs.Text.Search

/-!
# Which texts are object names

The grammar of object names is said about whole texts, apart from the reader that cuts them: what a
text spells, if anything, is a domain and pairs in the order in which they stand. The reader accepts
just the texts that spell something, and the name it gives keeps all that they spell but the order.
-/

namespace IntegrationHost.ObjectName

variable {s domain : String} {pairs : List (String × String)} {name : ObjectName}

/-! ## The grammar -/

/-- A text that says something and holds none of some marks. -/
def IsWord (marks : List Char) (text : String) : Prop := text ≠ "" ∧ ∀ c ∈ marks, c ∉ text.toList

/-- A pair as it stands in a name. -/
def writtenPair (pair : String × String) : String := pair.1 ++ "=" ++ pair.2

/-- A domain and pairs as they stand in a name. -/
def written (domain : String) (pairs : List (String × String)) : String :=
  domain ++ ":" ++ ",".intercalate (pairs.map writtenPair)

/-- What a text has to be to name something: a domain, a colon, and one or more pairs `key=value`
with commas between them, under keys that differ. -/
structure Spells (s domain : String) (pairs : List (String × String)) : Prop where
  text : s = written domain pairs
  isDomain : IsWord [':', ',', '='] domain
  some : pairs ≠ []
  isKey : ∀ pair ∈ pairs, IsWord [':', ',', '=', '\n'] pair.1
  isValue : ∀ pair ∈ pairs, IsWord [':', ',', '=', '\n'] pair.2
  distinct : (pairs.map Prod.fst).Nodup

theorem isWord_iff {marks : List Char} :
    IsWord marks s ↔ (!s.isEmpty && !Text.hasAny marks s) = true := by
  rw [IsWord, ← Text.hasAny_eq_false_iff]
  simp

instance (marks : List Char) (text : String) : Decidable (IsWord marks text) :=
  decidable_of_iff _ isWord_iff.symm

theorem isDomain_iff : isDomain s = true ↔ IsWord [':', ',', '='] s :=
  isWord_iff.symm

theorem isPart_iff : isPart s = true ↔ IsWord [':', ',', '=', '\n'] s :=
  isWord_iff.symm

/-! ## Making names -/

/-- Pairs can be collected when they are valid and their keys differ from each other and from those
that are there. -/
theorem collect_eq_ok_iff {into properties : Dictionary} :
    collect into pairs = .ok properties ↔
      properties = into.update pairs ∧
        (∀ pair ∈ pairs, isPart pair.1 = true ∧ isPart pair.2 = true) ∧
        (pairs.map Prod.fst).Nodup ∧ ∀ pair ∈ pairs, into.get? pair.1 = none := by
  induction pairs generalizing into with
  | nil => simp only [collect, Dictionary.update, List.foldl_nil, Except.ok.injEq, eq_comm,
      List.not_mem_nil, false_implies, implies_true, List.map_nil, List.nodup_nil, and_true]
  | cons pair rest ih =>
      rcases pair with ⟨key, value⟩
      simp only [List.forall_mem_cons, List.map_cons, List.nodup_cons]
      unfold collect
      split
      · rename_i invalid
        constructor
        · intro collected
          cases collected
        · rintro ⟨_, ⟨⟨keyValid, valueValid⟩, _⟩, _⟩
          simp [keyValid, valueValid] at invalid
      · rename_i valid
        have bothValid : isPart key = true ∧ isPart value = true := by simpa using valid
        split
        · rename_i taken
          constructor
          · intro collected
            cases collected
          · rintro ⟨_, _, _, free, _⟩
            rw [free] at taken
            cases taken
        · rename_i free
          have keyFree : into.get? key = none := by simpa using free
          rw [ih, Dictionary.free_insert_iff]
          constructor
          · rintro ⟨rfl, valid, distinct, new, absent⟩
            exact ⟨rfl, ⟨bothValid, valid⟩, ⟨new, distinct⟩, keyFree, absent⟩
          · rintro ⟨rfl, ⟨_, valid⟩, ⟨new, distinct⟩, _, absent⟩
            exact ⟨rfl, valid, distinct, new, absent⟩

theorem perm_update_empty (distinct : (pairs.map Prod.fst).Nodup) :
    (Dictionary.empty.update pairs).entries.Perm pairs :=
  Dictionary.perm_update distinct fun _ _ => rfl

/-- A name is made from what can be spelled, and keeps all of it but the order. -/
theorem new_eq_ok_iff :
    new domain pairs = .ok name ↔
      Spells (written domain pairs) domain pairs ∧ name.domain = domain ∧
        name.properties.entries.Perm pairs := by
  constructor
  · intro made
    unfold new at made
    split at made
    · cases made
    · rename_i domainGiven
      cases collected : collect .empty pairs with
      | error flaw =>
          rw [collected] at made
          cases made
      | ok properties =>
          rw [collected] at made
          dsimp only at made
          split at made
          · rename_i valid
            cases made
            obtain ⟨rfl, parts, distinct, _⟩ := collect_eq_ok_iff.mp collected
            have perm := perm_update_empty distinct
            refine ⟨⟨rfl, isDomain_iff.mp (by simpa using domainGiven), ?_,
              fun pair member => isPart_iff.mp (parts pair member).1,
              fun pair member => isPart_iff.mp (parts pair member).2, distinct⟩, rfl, perm⟩
            rintro rfl
            rw [isValid, List.perm_nil.mp perm, List.isEmpty_nil, Bool.not_true, Bool.and_false,
              Bool.false_and] at valid
            cases valid
          · cases made
  · rintro ⟨spells, rfl, perm⟩
    have domainValid : isDomain name.domain = true := isDomain_iff.mpr spells.isDomain
    have collected : collect .empty pairs = .ok (Dictionary.empty.update pairs) := by
      refine collect_eq_ok_iff.mpr ⟨rfl, fun pair member => ?_, spells.distinct, fun _ _ => rfl⟩
      exact ⟨isPart_iff.mpr (spells.isKey pair member), isPart_iff.mpr (spells.isValue pair member)⟩
    have properties_eq : Dictionary.empty.update pairs = name.properties :=
      Dictionary.eq_of_perm ((perm_update_empty spells.distinct).trans perm.symm)
    unfold new
    rw [domainValid, collected, properties_eq]
    exact dif_pos name.valid

/-! ## Reading names -/

theorem pair?_eq_ok_iff {pair : String × String} :
    pair? s = .ok pair ↔ '=' ∉ pair.1.toList ∧ s = writtenPair pair := by
  have cut_iff : Text.splitOnce "=" s = some pair ↔ s = writtenPair pair ∧ '=' ∉ pair.1.toList :=
    Text.splitOnce_eq_some_iff rfl
  rw [and_comm, ← cut_iff]
  unfold pair?
  cases Text.splitOnce "=" s with
  | none => simp
  | some found => simp

theorem mapM_pair?_eq_ok_iff {texts : List String} :
    texts.mapM pair? = .ok pairs ↔
      texts = pairs.map writtenPair ∧ ∀ pair ∈ pairs, '=' ∉ pair.1.toList := by
  rw [Lists.mapM_eq_ok_iff]
  simp only [pair?_eq_ok_iff]
  constructor
  · intro each
    induction each with
    | nil => exact ⟨rfl, nofun⟩
    | cons first _ ih =>
        obtain ⟨unmarked, rfl⟩ := first
        obtain ⟨rfl, others⟩ := ih
        exact ⟨rfl, List.forall_mem_cons.mpr ⟨unmarked, others⟩⟩
  · rintro ⟨rfl, unmarked⟩
    exact List.forall₂_map_left_iff.mpr
      (List.forall₂_same.mpr fun pair member => ⟨unmarked pair member, rfl⟩)

/-- A text is read as a name when it spells the domain of the name and, in some order, its pairs. -/
theorem ofText_eq_ok_iff :
    ofText s = .ok name ↔
      ∃ pairs, Spells s name.domain pairs ∧ name.properties.entries.Perm pairs := by
  constructor
  · intro read
    unfold ofText at read
    cases cut : Text.splitOnce ":" s with
    | none =>
        rw [cut] at read
        cases read
    | some found =>
        rcases found with ⟨domain, rest⟩
        rw [cut] at read
        dsimp only at read
        cases listed : (Text.split "," rest).mapM pair? with
        | error flaw =>
            rw [listed] at read
            cases read
        | ok pairs =>
            rw [listed] at read
            obtain ⟨spells, rfl, perm⟩ := new_eq_ok_iff.mp read
            obtain ⟨pieces_eq, _⟩ := mapM_pair?_eq_ok_iff.mp listed
            obtain ⟨_, rest_eq, _⟩ := (Text.split_eq_iff rfl).mp pieces_eq
            obtain ⟨text_eq, _⟩ := (Text.splitOnce_eq_some_iff rfl).mp cut
            rw [rest_eq] at text_eq
            refine ⟨pairs, ?_, perm⟩
            rw [text_eq]
            exact spells
  · rintro ⟨pairs, spells, perm⟩
    have domainUnmarked : ':' ∉ name.domain.toList := spells.isDomain.2 ':' (by decide)
    have cut : Text.splitOnce ":" s =
        some (name.domain, ",".intercalate (pairs.map writtenPair)) :=
      (Text.splitOnce_eq_some_iff rfl).mpr ⟨spells.text, domainUnmarked⟩
    have pieces : Text.split "," (",".intercalate (pairs.map writtenPair)) =
        pairs.map writtenPair := by
      refine (Text.split_eq_iff (c := ',') rfl).mpr ⟨by simp [spells.some], rfl, ?_⟩
      intro piece member
      obtain ⟨pair, inside, rfl⟩ := List.mem_map.mp member
      have keyUnmarked := (spells.isKey pair inside).2 ',' (by decide)
      have valueUnmarked := (spells.isValue pair inside).2 ',' (by decide)
      simp [writtenPair, keyUnmarked, valueUnmarked]
    have noEquals : ∀ pair ∈ pairs, '=' ∉ pair.1.toList := fun pair member =>
      (spells.isKey pair member).2 '=' (by decide)
    have listed : (pairs.map writtenPair).mapM pair? = .ok pairs :=
      mapM_pair?_eq_ok_iff.mpr ⟨rfl, noEquals⟩
    have made : new name.domain pairs = .ok name :=
      new_eq_ok_iff.mpr ⟨{ spells with text := rfl }, rfl, perm⟩
    unfold ofText
    rw [cut]
    dsimp only
    rw [pieces, listed]
    exact made

/-! ## Writing names -/

/-- What a name has in it can be spelled, and its text spells it. -/
theorem spells_text (name : ObjectName) :
    Spells name.text name.domain name.properties.entries := by
  have valid := name.valid
  simp only [isValid, Bool.and_eq_true, List.all_eq_true] at valid
  obtain ⟨⟨domainGiven, some⟩, parts⟩ := valid
  exact {
    text := rfl
    isDomain := isDomain_iff.mp domainGiven
    some := by simpa using some
    isKey := fun pair member => isPart_iff.mp (parts pair member).1
    isValue := fun pair member => isPart_iff.mp (parts pair member).2
    distinct := Dictionary.nodup_keys name.properties.ascending }

/-- What is spelled is read, in whatever order its pairs stand. -/
theorem Spells.exists_name (spells : Spells s domain pairs) :
    ∃ name, ofText s = .ok name ∧ name.domain = domain ∧ name.properties.entries.Perm pairs := by
  have perm := perm_update_empty spells.distinct
  have valid : isValid domain (Dictionary.empty.update pairs) = true := by
    have some : (Dictionary.empty.update pairs).entries ≠ [] := by
      intro none
      rw [none] at perm
      exact spells.some (List.nil_perm.mp perm)
    simp only [isValid, Bool.and_eq_true, List.all_eq_true]
    refine ⟨⟨isDomain_iff.mpr spells.isDomain, by simpa using some⟩, fun pair member => ?_⟩
    have inside : pair ∈ pairs := perm.mem_iff.mp member
    exact ⟨isPart_iff.mpr (spells.isKey pair inside), isPart_iff.mpr (spells.isValue pair inside)⟩
  exact ⟨⟨domain, _, valid⟩, ofText_eq_ok_iff.mpr ⟨pairs, spells, perm⟩, rfl, perm⟩

/-- The texts that are read as names are those of the grammar; a name is read back from its text;
two texts are read as the same name when they spell the same domain and, in some order, the same
pairs; and the text of a name has the pairs in the order of the bytes of their keys. -/
theorem ofText_grammar (s : String) :
    ((∃ name, ofText s = .ok name) ↔ ∃ domain pairs, Spells s domain pairs) ∧
      (∀ name : ObjectName, ofText name.text = .ok name) ∧
      (∀ t domain pairs otherDomain others, Spells s domain pairs → Spells t otherDomain others →
        (ofText s = ofText t ↔ domain = otherDomain ∧ pairs.Perm others)) ∧
      ∀ domain pairs, Spells s domain pairs →
        ∃ name sorted, ofText s = .ok name ∧ name.text = written domain sorted ∧
          sorted.Perm pairs ∧ sorted.Pairwise fun a b => Text.bytes a.1 < Text.bytes b.1 := by
  refine ⟨⟨?_, ?_⟩, ?_, ?_, ?_⟩
  · rintro ⟨name, read⟩
    obtain ⟨pairs, spells, _⟩ := ofText_eq_ok_iff.mp read
    exact ⟨name.domain, pairs, spells⟩
  · rintro ⟨domain, pairs, spells⟩
    obtain ⟨name, read, _⟩ := spells.exists_name
    exact ⟨name, read⟩
  · intro name
    exact ofText_eq_ok_iff.mpr ⟨_, name.spells_text, .refl _⟩
  · intro t domain pairs otherDomain others spells otherSpells
    obtain ⟨name, read, rfl, perm⟩ := spells.exists_name
    obtain ⟨other, otherRead, rfl, otherPerm⟩ := otherSpells.exists_name
    rw [read, otherRead, Except.ok.injEq]
    constructor
    · rintro rfl
      exact ⟨rfl, perm.symm.trans otherPerm⟩
    · rintro ⟨sameDomain, samePairs⟩
      have sameProperties : name.properties = other.properties :=
        Dictionary.eq_of_perm ((perm.trans samePairs).trans otherPerm.symm)
      rcases name with ⟨domain, properties, _⟩
      rcases other with ⟨otherDomain, otherProperties, _⟩
      cases sameDomain
      cases sameProperties
      rfl
  · intro domain pairs spells
    obtain ⟨name, read, rfl, perm⟩ := spells.exists_name
    refine ⟨name, name.properties.entries, read, rfl, perm, ?_⟩
    exact name.properties.ascending.imp Text.bytes_lt_bytes

/-- The name of an adapter with its pairs in two orders. -/
theorem ofText_grammar_two_orders :
    ofText "com.adapter.runtime:type=Adapter,id=a" =
      ofText "com.adapter.runtime:id=a,type=Adapter" := by
  have first : Spells "com.adapter.runtime:type=Adapter,id=a" hostDomain
      [("type", "Adapter"), ("id", "a")] :=
    ⟨by decide, by decide, by decide, by decide, by decide, by decide⟩
  have second : Spells "com.adapter.runtime:id=a,type=Adapter" hostDomain
      [("id", "a"), ("type", "Adapter")] :=
    ⟨by decide, by decide, by decide, by decide, by decide, by decide⟩
  obtain ⟨_, _, same_iff, _⟩ := ofText_grammar "com.adapter.runtime:type=Adapter,id=a"
  exact (same_iff _ _ _ _ _ first second).mpr ⟨rfl, .swap ..⟩

end IntegrationHost.ObjectName
