import IntegrationHost.Proofs.Json.Record
import Mathlib.Data.List.Forall2
import Mathlib.Data.List.Nodup

/-!
# Records that say the same

Two records correspond when the same fields stand in them and each value of the one is related to
the value of the same name in the other. Members may be put in another order, members of unknown
names may be added and values may be changed to related ones: the records found still correspond.
What is read from a field of one is then read from the field of the other, as long as the relation
keeps what is read.
-/

namespace IntegrationHost.Json

variable {α β : Type}

/-! ## What a relation keeps -/

/-- Wherever something is read from one value, the same is read from the other. -/
def ReadsAs (read : Json → Option α) (json other : Json) : Prop :=
  ∀ a, read json = some a → read other = some a

theorem ReadsAs.refl (read : Json → Option α) (json : Json) : ReadsAs read json json :=
  fun _ found => found

/-- What is read from a value is read from every related one. -/
def Keeps (R : Json → Json → Prop) (read : Json → Option α) : Prop :=
  ∀ json other, R json other → ReadsAs read json other

/-- The items of arrays are related one by one. -/
def EachItem (R : Json → Json → Prop) (json other : Json) : Prop :=
  ∀ items, json.items? = some items →
    ∃ others, other.items? = some others ∧ List.Forall₂ R items others

section

variable {R : Json → Json → Prop}

theorem EachItem.refl (same : ∀ json, R json json) (json : Json) : EachItem R json json :=
  fun items found => ⟨items, found, List.forall₂_same.mpr fun item _ => same item⟩

/-- One item of an array is changed to a related one. -/
theorem EachItem.replace (same : ∀ json, R json json) (before after : List Json)
    {item other : Json} (related : R item other) :
    EachItem R (.array (before ++ item :: after)) (.array (before ++ other :: after)) := by
  rintro _ ⟨⟩
  exact ⟨_, rfl, Lists.forall₂_replace same before after related⟩

/-- What is kept of items is kept of the array. -/
theorem Keeps.list? {read : Json → Option α} (keeps : Keeps R read) :
    Keeps (EachItem R) (list? read) := by
  intro json other related items found
  obtain ⟨values, isArray, each⟩ := Option.bind_eq_some_iff.mp found
  obtain ⟨others, isOther, pairs⟩ := related values isArray
  rw [Json.list?, isOther, Option.bind_some]
  exact Lists.mapM_eq_some_of_forall₂ keeps pairs each

end

/-- A value that may be null. -/
def nullable? (read : Json → Option α) : Json → Option (Option α)
  | .null => some none
  | json => (read json).map some

theorem optional?_eq_field? (read : Json → Option α) (name : String)
    (fields : List (String × Json)) :
    optional? read name fields = field? (nullable? read) none name fields := by
  unfold optional? field?
  cases fields.lookup name with
  | none => rfl
  | some json => cases json <;> rfl

theorem Keeps.nullable? {R : Json → Json → Prop} {read : Json → Option α} (keeps : Keeps R read)
    (notNull : read .null = none) (null : ∀ other, R .null other → other = .null) :
    Keeps R (nullable? read) := by
  have plain : ∀ {json : Json}, json ≠ .null →
      Json.nullable? read json = (read json).map some := by
    intro json different
    cases json with
    | null => exact absurd rfl different
    | _ => rfl
  intro json other related value found
  by_cases isNull : json = .null
  · subst isNull
    rw [null other related]
    exact found
  · rw [plain isNull] at found
    obtain ⟨a, given, rfl⟩ := Option.map_eq_some_iff.mp found
    have kept := keeps json other related a given
    have stays : other ≠ .null := by
      rintro rfl
      rw [notNull] at kept
      cases kept
    rw [plain stays, kept, Option.map_some]

/-! ## Plain values -/

/-- A value that is neither an array nor an object stays as it is. -/
def Plainly (json other : Json) : Prop :=
  json.depth = 0 → other = json

/-- Nothing is read from null, arrays and objects. -/
structure Flat (read : Json → Option α) : Prop where
  null : read .null = none
  array : ∀ items, read (.array items) = none
  object : ∀ members, read (.object members) = none

theorem flat_string : Flat string? :=
  ⟨rfl, fun _ => rfl, fun _ => rfl⟩

theorem flat_bool : Flat bool? :=
  ⟨rfl, fun _ => rfl, fun _ => rfl⟩

theorem flat_nat64 : Flat nat64? :=
  ⟨rfl, fun _ => rfl, fun _ => rfl⟩

theorem Flat.keeps {read : Json → Option α} (flat : Flat read) : Keeps Plainly read := by
  intro json other same a found
  cases json with
  | array items =>
      rw [flat.array] at found
      cases found
  | object members =>
      rw [flat.object] at found
      cases found
  | _ =>
      rw [same rfl]
      exact found

/-! ## Fields that correspond -/

/-- Two fields have one name, under which their values are related. -/
def Matching (R : String → Json → Json → Prop) (field other : String × Json) : Prop :=
  field.1 = other.1 ∧ R field.1 field.2 other.2

theorem forall₂_matching {R : String → Json → Json → Prop} (same : ∀ name json, R name json json)
    (fields : List (String × Json)) : List.Forall₂ (Matching R) fields fields :=
  List.forall₂_same.mpr fun field _ => ⟨rfl, same field.1 field.2⟩

/-- The same fields are there, with related values. -/
def Correspond (R : String → Json → Json → Prop) (fields others : List (String × Json)) : Prop :=
  ∀ name, Option.Rel (R name) (fields.lookup name) (others.lookup name)

section

variable {R : String → Json → Json → Prop} {fields others : List (String × Json)}
variable {read : Json → Option α}

theorem correspond_of_lookup_eq (same : ∀ name json, R name json json)
    (equal : ∀ name, fields.lookup name = others.lookup name) : Correspond R fields others := by
  intro name
  rw [← equal name]
  cases fields.lookup name with
  | none => exact .none
  | some json => exact .some (same name json)

theorem correspond_of_forall₂ (related : List.Forall₂ (Matching R) fields others) :
    Correspond R fields others := by
  intro name
  induction related with
  | nil => exact .none
  | @cons a b _ _ first _ ih =>
      obtain ⟨key, value⟩ := a
      obtain ⟨key', other⟩ := b
      obtain ⟨rfl, values⟩ : key = key' ∧ R key value other := first
      rw [Dictionary.lookup_entry, Dictionary.lookup_entry]
      by_cases found : name = key
      · rw [if_pos found, if_pos found, found]
        exact .some values
      · rw [if_neg found, if_neg found]
        exact ih

/-- A field is in both records, or in none of them. -/
theorem Correspond.cases (corresponds : Correspond R fields others) (name : String) :
    (fields.lookup name = none ∧ others.lookup name = none) ∨
      ∃ json other, fields.lookup name = some json ∧ others.lookup name = some other ∧
        R name json other := by
  have pair := corresponds name
  revert pair
  generalize fields.lookup name = field
  generalize others.lookup name = field'
  rintro (related | _)
  · exact .inr ⟨_, _, rfl, rfl, related⟩
  · exact .inl ⟨rfl, rfl⟩

namespace Correspond

theorem required? (corresponds : Correspond R fields others) (name : String)
    (keeps : Keeps (R name) read) {a : α} (found : required? read name fields = some a) :
    Json.required? read name others = some a := by
  unfold Json.required? at found ⊢
  obtain ⟨missing, _⟩ | ⟨json, other, isField, isOther, related⟩ := corresponds.cases name
  · rw [missing] at found
    cases found
  · rw [isField] at found
    rw [isOther]
    exact keeps _ _ related a found

theorem field? (corresponds : Correspond R fields others) (name : String)
    (keeps : Keeps (R name) read) {default a : α}
    (found : field? read default name fields = some a) :
    Json.field? read default name others = some a := by
  unfold Json.field? at found ⊢
  obtain ⟨missing, otherMissing⟩ | ⟨json, other, isField, isOther, related⟩ :=
    corresponds.cases name
  · rw [missing] at found
    rw [otherMissing]
    exact found
  · rw [isField] at found
    rw [isOther]
    exact keeps _ _ related a found

/-- A field that may be null is kept when null stays null. -/
theorem optional? (corresponds : Correspond R fields others) (name : String)
    (keeps : Keeps (R name) read) (notNull : read .null = none)
    (null : ∀ other, R name .null other → other = .null)
    {value : Option α} (found : optional? read name fields = some value) :
    Json.optional? read name others = some value := by
  rw [optional?_eq_field?] at found ⊢
  exact corresponds.field? name (keeps.nullable? notNull null) found

theorem optional?_flat (corresponds : Correspond R fields others) (name : String)
    (plain : R name = Plainly) (flat : Flat read) {value : Option α}
    (found : Json.optional? read name fields = some value) :
    Json.optional? read name others = some value := by
  refine corresponds.optional? name ?_ flat.null ?_ found <;> rw [plain]
  · exact flat.keeps
  · exact fun other same => same rfl

end Correspond

end

/-! ## Members that are known -/

/-- A member, if its name is text and one of those that are known. -/
def known? (names : List String) (m : Literal × Json) : Option (String × Json) :=
  m.1.bind fun name => if names.contains name then some (name, m.2) else none

theorem mapM_texts (members : List (Literal × Json)) :
    (members.mapM fun m => m.1.map fun name => (name, m.2)) =
      if members.all fun m => m.1.isSome then
        some (members.filterMap fun m => m.1.map fun name => (name, m.2)) else none := by
  induction members with
  | nil => rfl
  | cons m rest ih =>
      obtain ⟨_ | name, value⟩ := m
      · simp
      · rw [List.mapM_cons, ih]
        cases texts : rest.all fun m => m.1.isSome <;> simp [texts]

theorem filter_texts (names : List String) (members : List (Literal × Json)) :
    (members.filterMap fun m => m.1.map fun name => (name, m.2)).filter
      (fun m => names.contains m.1) = members.filterMap (known? names) := by
  rw [List.filter_filterMap]
  refine List.filterMap_congr fun m _ => ?_
  obtain ⟨_ | name, value⟩ := m
  · rfl
  · simp [known?, Option.filter]

/-- The known members are found where all names are text and none that is known repeats. -/
theorem knownMembers?_eq_some_iff {names : List String} {members : List (Literal × Json)}
    {fields : List (String × Json)} :
    knownMembers? names members = some fields ↔
      (∀ m ∈ members, m.1.isSome = true) ∧ members.filterMap (known? names) = fields ∧
        (fields.map Prod.fst).Nodup := by
  unfold knownMembers?
  rw [mapM_texts, ← List.all_eq_true]
  cases texts : members.all fun m => m.1.isSome with
  | false =>
      refine iff_of_false nofun ?_
      rintro ⟨impossible, _⟩
      cases impossible
  | true =>
      simp only [if_true, Option.bind_eq_bind, Option.bind_some, filter_texts, true_and]
      constructor
      · intro found
        by_cases distinct : ((members.filterMap (known? names)).map Prod.fst).Nodup
        · rw [if_pos distinct, Option.some.injEq] at found
          exact ⟨found, found ▸ distinct⟩
        · rw [if_neg distinct] at found
          cases found
      · rintro ⟨rfl, distinct⟩
        exact if_pos distinct

/-- What stands under a known name among the known members is what stands there among all. -/
theorem lookup_known {names : List String} {name : String} (isKnown : name ∈ names)
    (members : List (Literal × Json)) :
    (members.filterMap (known? names)).lookup name = members.lookup (some name) := by
  induction members with
  | nil => rfl
  | cons m rest ih =>
      obtain ⟨key, value⟩ := m
      rw [Dictionary.lookup_entry, ← ih, List.filterMap_cons]
      by_cases same : some name = key
      · subst same
        rw [if_pos rfl, known?, Option.bind_some, if_pos (List.contains_iff_mem.mpr isKnown)]
        exact List.lookup_cons_self
      · rw [if_neg same]
        cases found : known? names (key, value) with
        | none => rfl
        | some field =>
            obtain ⟨word, rfl, taken⟩ := Option.bind_eq_some_iff.mp found
            have different : name ≠ word := same ∘ congrArg some
            split at taken
            · cases taken
              exact (Dictionary.lookup_entry ..).trans (if_neg different)
            · cases taken

/-- One of the values that names are given to is changed to one that is related under its name. -/
theorem forall₂_zip {R : String → Json → Json → Prop} (same : ∀ name json, R name json json)
    {names : List String} (before after : List Json) {item other : Json}
    (related : ∀ name, names[before.length]? = some name → R name item other) :
    List.Forall₂ (Matching R)
      (names.zip (before ++ item :: after)) (names.zip (before ++ other :: after)) := by
  induction names generalizing before with
  | nil => exact .nil
  | cons name rest ih =>
      cases before with
      | nil => exact .cons ⟨rfl, related name rfl⟩ (forall₂_matching same _)
      | cons first before =>
          exact .cons ⟨rfl, same name first⟩ (ih before related)

/-! ## Records that correspond -/

/-- Where a record is found in the one value, one that corresponds to it is found in the other. -/
def Carries (R : String → Json → Json → Prop) (names : List String) (json other : Json) : Prop :=
  ∀ fields, json.record? names = some fields →
    ∃ others, other.record? names = some others ∧ Correspond R fields others

namespace Carries

variable {R : String → Json → Json → Prop} {names : List String}

/-- The order of the members does not matter. -/
theorem permute (same : ∀ name json, R name json json) {members others : List (Literal × Json)}
    (perm : members.Perm others) : Carries R names (.object members) (.object others) := by
  intro fields found
  obtain ⟨isText, rfl, distinct⟩ := knownMembers?_eq_some_iff.mp found
  have knownPerm := perm.filterMap (known? names)
  have distinctOthers := (knownPerm.map Prod.fst).nodup_iff.mp distinct
  refine ⟨others.filterMap (known? names), knownMembers?_eq_some_iff.mpr
    ⟨fun m member => isText m (perm.mem_iff.mpr member), rfl, distinctOthers⟩, ?_⟩
  exact correspond_of_lookup_eq same (Dictionary.lookup_perm knownPerm distinct)

/-- Members of names that are not known are passed over. -/
theorem insert (same : ∀ name json, R name json json) {name : String} (unknown : name ∉ names)
    (value : Json) (members : List (Literal × Json)) :
    Carries R names (.object members) (.object ((some name, value) :: members)) := by
  intro fields found
  obtain ⟨isText, rfl, distinct⟩ := knownMembers?_eq_some_iff.mp found
  have skipped : known? names (some name, value) = none := by
    simp [known?, unknown]
  refine ⟨members.filterMap (known? names), knownMembers?_eq_some_iff.mpr
    ⟨List.forall_mem_cons.mpr ⟨rfl, isText⟩, ?_, distinct⟩, ?_⟩
  · rw [List.filterMap_cons, skipped]
  · exact correspond_of_lookup_eq same fun _ => rfl

/-- The value of a member is changed to one that is related under its name. -/
theorem replace (same : ∀ name json, R name json json) (before after : List (Literal × Json))
    {key : Literal} {value other : Json} (related : ∀ name, key = some name → R name value other) :
    Carries R names (.object (before ++ (key, value) :: after))
      (.object (before ++ (key, other) :: after)) := by
  intro fields found
  obtain ⟨isText, rfl, distinct⟩ := knownMembers?_eq_some_iff.mp found
  -- The known members differ in one place at most, and there only if the name is a known one.
  have values : List.Forall₂ (Matching R)
      ((before ++ (key, value) :: after).filterMap (known? names))
      ((before ++ (key, other) :: after).filterMap (known? names)) := by
    rw [List.filterMap_append, List.filterMap_append, List.filterMap_cons, List.filterMap_cons]
    refine List.rel_append (forall₂_matching same _) ?_
    cases key with
    | none => exact forall₂_matching same _
    | some name =>
        by_cases isKnown : names.contains name = true
        · simp only [known?, Option.bind_some, if_pos isKnown]
          exact .cons ⟨rfl, related name rfl⟩ (forall₂_matching same _)
        · simp only [known?, Option.bind_some, if_neg isKnown]
          exact forall₂_matching same _
  have sameNames : ((before ++ (key, value) :: after).filterMap (known? names)).map Prod.fst =
      ((before ++ (key, other) :: after).filterMap (known? names)).map Prod.fst :=
    List.forall₂_eq_eq_eq ▸ List.rel_map (fun _ _ pair => pair.1) values
  refine ⟨_, knownMembers?_eq_some_iff.mpr ⟨?_, rfl, sameNames ▸ distinct⟩,
    correspond_of_forall₂ values⟩
  rw [List.forall_mem_append, List.forall_mem_cons] at isText ⊢
  exact isText

/-- The item of an array that lists the fields is changed to one that is related under the name of
its place. -/
theorem replaceItem (same : ∀ name json, R name json json) (before after : List Json)
    {item other : Json} (related : ∀ name, names[before.length]? = some name → R name item other) :
    Carries R names (.array (before ++ item :: after)) (.array (before ++ other :: after)) := by
  intro fields found
  have fits : (before ++ item :: after).length ≤ names.length := by
    by_contra tooMany
    rw [record?, if_neg tooMany] at found
    cases found
  rw [record?, if_pos fits] at found
  cases found
  have othersFit : (before ++ other :: after).length ≤ names.length := by simpa using fits
  exact ⟨_, if_pos othersFit, correspond_of_forall₂ (forall₂_zip same before after related)⟩

end Carries

/-! ## Dictionaries -/

/-- The entry of a dictionary that a member is. -/
def pair? (m : Literal × Json) : Option (String × String) := do
  let key ← m.1
  let value ← m.2.string?
  return (key, value)

theorem dictionary?_object (members : List (Literal × Json)) :
    dictionary? (.object members) = (members.mapM pair?).map Dictionary.ofList :=
  Option.map_eq_bind.symm

/-- Entries have the keys of the members that they are. -/
theorem keys_entries {members : List (Literal × Json)} {entries : List (String × String)}
    (found : members.mapM pair? = some entries) :
    entries.map (fun entry => some entry.1) = members.map Prod.fst := by
  induction members generalizing entries with
  | nil =>
      cases found
      rfl
  | cons m rest ih =>
      rw [List.mapM_cons] at found
      obtain ⟨entry, first, behind⟩ := Option.bind_eq_some_iff.mp found
      obtain ⟨more, others, given⟩ := Option.bind_eq_some_iff.mp behind
      cases given
      obtain ⟨key, isText, isEntry⟩ := Option.bind_eq_some_iff.mp first
      obtain ⟨value, _, given⟩ := Option.bind_eq_some_iff.mp isEntry
      cases given
      rw [List.map_cons, List.map_cons, ih others, isText]

/-- Where no key repeats, the order of the members does not matter to a dictionary. -/
theorem dictionary?_permute {members others : List (Literal × Json)} (perm : members.Perm others)
    (distinct : (members.map Prod.fst).Nodup) :
    ReadsAs dictionary? (.object members) (.object others) := by
  intro d found
  rw [dictionary?_object] at found ⊢
  obtain ⟨entries, readEntries, rfl⟩ := Option.map_eq_some_iff.mp found
  obtain ⟨more, readMore, entriesPerm⟩ := Lists.mapM_perm perm readEntries
  -- Keys of entries are the texts of the keys of members, so they differ as those do.
  have keys : (entries.map Prod.fst).Nodup := by
    rw [← keys_entries readEntries, ← Function.comp_def, ← List.map_map] at distinct
    exact distinct.of_map some
  rw [readMore, Option.map_some, Dictionary.ofList_perm entriesPerm keys]

/-- Nor does it matter when a value is changed to one of the same text. -/
theorem dictionary?_replace (before after : List (Literal × Json)) (key : Literal)
    {value other : Json} (related : ReadsAs string? value other) :
    ReadsAs dictionary? (.object (before ++ (key, value) :: after))
      (.object (before ++ (key, other) :: after)) := by
  intro d found
  rw [dictionary?_object] at found ⊢
  obtain ⟨entries, readEntries, rfl⟩ := Option.map_eq_some_iff.mp found
  have members := Lists.forall₂_replace
    (R := fun a b : Literal × Json => ∀ entry, pair? a = some entry → pair? b = some entry)
    (fun _ _ found => found) before after (a := (key, value)) (b := (key, other)) ?_
  · rw [Lists.mapM_eq_some_of_forall₂ (fun _ _ same => same) members readEntries, Option.map_some]
  · intro entry isEntry
    obtain ⟨name, isText, behind⟩ := Option.bind_eq_some_iff.mp isEntry
    obtain ⟨text, hasText, given⟩ := Option.bind_eq_some_iff.mp behind
    cases given
    simp only [pair?, show key = some name from isText, related text hasText]
    rfl

end IntegrationHost.Json
