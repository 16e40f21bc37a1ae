import IntegrationHost.Json.Record
import IntegrationHost.Proofs.Json.RoundTrip
import IntegrationHost.Proofs.Lists
import IntegrationHost.Proofs.Text.Dictionary

/-!
# Records written and read

An object is written from members whose names are text and differ. What it is asked for by name is
read back, whether a member is there, is left out, or belongs to another record in the same object.
-/

namespace IntegrationHost.Json

/-! ## Objects and their members -/

section

variable {number : Numeral → Prop}

theorem legibleItems_iff {items : List Json} :
    LegibleItems number items ↔ ∀ item ∈ items, item.Legible number := by
  induction items with
  | nil => simp [LegibleItems]
  | cons item rest ih => simp [LegibleItems, ih]

theorem legible_ofMembers {members : List (String × Json)} :
    (ofMembers members).Legible number ↔ ∀ m ∈ members, m.2.Legible number := by
  rw [ofMembers, Legible]
  induction members with
  | nil => simp [LegibleMembers]
  | cons m rest ih => simp [LegibleMembers, ih]

theorem legible_ofString (s : String) : (ofString s).Legible number :=
  rfl

/-- The texts of a dictionary are text. -/
theorem legible_ofDictionary (d : Dictionary) : (ofDictionary d).Legible number := by
  rw [ofDictionary, legible_ofMembers]
  intro m member
  obtain ⟨entry, -, rfl⟩ := List.mem_map.mp member
  rfl

/-- A member that may be left out is legible if its value is. -/
theorem legible_optional {α : Type} {write : α → Json} {value : Option α} (key : String)
    (legible : ∀ a ∈ value, (write a).Legible number) :
    ∀ m ∈ optional key (value.map write), m.2.Legible number := by
  intro m member
  obtain ⟨v, inside, rfl⟩ := List.mem_map.mp member
  obtain ⟨a, found, rfl⟩ := Option.map_eq_some_iff.mp (Option.mem_toList.mp inside)
  exact legible a found

end

section

variable {number : Numeral → Prop}

mutual

/-- A value is sound when it is legible and its numbers have finite doubles. -/
theorem isSound_of_legible (finite : ∀ n, number n → n.isFinite = true) :
    ∀ {value : Json}, value.Legible number → value.isSound = true
  | .null, _ => rfl
  | .bool _, _ => rfl
  | .number n, allowed => finite n allowed
  | .string _, isText => isText
  | .array _, items => soundItems_of_legible finite items
  | .object _, members => soundMembers_of_legible finite members

theorem soundItems_of_legible (finite : ∀ n, number n → n.isFinite = true) :
    ∀ {items : List Json}, LegibleItems number items → soundItems items = true
  | [], _ => rfl
  | _ :: _, ⟨item, rest⟩ => by
      rw [soundItems, isSound_of_legible finite item, soundItems_of_legible finite rest]
      rfl

theorem soundMembers_of_legible (finite : ∀ n, number n → n.isFinite = true) :
    ∀ {members : List (Literal × Json)}, LegibleMembers number members →
      soundMembers members = true
  | [], _ => rfl
  | (_, _) :: _, ⟨isText, value, rest⟩ => by
      rw [soundMembers, isText, isSound_of_legible finite value,
        soundMembers_of_legible finite rest]
      rfl

end

end

theorem soundItems_iff {items : List Json} :
    soundItems items = true ↔ ∀ item ∈ items, item.isSound = true := by
  induction items with
  | nil => simp [soundItems]
  | cons item rest ih => simp [soundItems, ih]

theorem soundMembers_iff {members : List (Literal × Json)} :
    soundMembers members = true ↔ ∀ m ∈ members, m.1.isSome = true ∧ m.2.isSound = true := by
  induction members with
  | nil => simp [soundMembers]
  | cons m rest ih => simp [soundMembers, ih, and_assoc]

/-- An array is no deeper than its items allow, each one level further in. -/
theorem array_depth_le_iff {items : List Json} {level limit : Nat} :
    level + (array items).depth ≤ limit ↔
      level + 1 ≤ limit ∧ ∀ item ∈ items, level + 1 + item.depth ≤ limit := by
  rw [depth]
  induction items with
  | nil => simp [depthItems]
  | cons item rest ih =>
      rw [List.forall_mem_cons, and_left_comm, ← ih, depthItems]
      omega

theorem object_depth_le_iff {members : List (Literal × Json)} {level limit : Nat} :
    level + (object members).depth ≤ limit ↔
      level + 1 ≤ limit ∧ ∀ m ∈ members, level + 1 + m.2.depth ≤ limit := by
  rw [depth]
  induction members with
  | nil => simp [depthMembers]
  | cons m rest ih =>
      rw [List.forall_mem_cons, and_left_comm, ← ih, depthMembers]
      omega

/-- An item stands one level deeper than the array. -/
theorem depth_item_lt {item : Json} {items : List Json} (member : item ∈ items) :
    item.depth < (array items).depth := by
  rw [depth, Nat.lt_succ_iff]
  induction member with
  | head rest => exact Nat.le_max_left _ _
  | tail _ _ ih => exact Nat.le_trans ih (Nat.le_max_right _ _)

/-- A value stands one level deeper than the object. -/
theorem depth_member_lt {m : String × Json} {members : List (String × Json)}
    (member : m ∈ members) : m.2.depth < (ofMembers members).depth := by
  rw [ofMembers, depth, Nat.lt_succ_iff]
  induction member with
  | head rest => exact Nat.le_max_left _ _
  | tail _ _ ih => exact Nat.le_trans ih (Nat.le_max_right _ _)

/-- An item of the last member of an object stands two levels deeper than the object. -/
theorem depth_listed {α : Type} (write : α → Json) {items : List α} {item : α}
    (member : item ∈ items) (before : List (String × Json)) (name : String) :
    (write item).depth + 2 ≤ (ofMembers (before ++ [(name, array (items.map write))])).depth := by
  have inArray := depth_item_lt (List.mem_map_of_mem (f := write) member)
  have listed : (name, array (items.map write)) ∈ before ++ [(name, array (items.map write))] :=
    List.mem_append_right before List.mem_cons_self
  exact Nat.lt_of_le_of_lt inArray (depth_member_lt listed)

/-! ## Members by name -/

/-- The members of an object that are known, when they are known to be the ones. -/
theorem knownMembers?_eq {names : List String} {members known : List (String × Json)}
    (distinct : names.Nodup) (named : (known.map Prod.fst).Sublist names)
    (found : members.filter (fun m => names.contains m.1) = known) :
    knownMembers? names (members.map fun m => (some m.1, m.2)) = some known := by
  have texts : ((members.map fun m => (some m.1, m.2)).mapM fun m : Literal × Json =>
      m.1.map fun name => (name, m.2)) = some members := by
    rw [List.mapM_map]
    exact (List.mapM_pure (m := Option) (f := id)).trans (congrArg some (List.map_id members))
  rw [knownMembers?, texts, Option.bind_eq_bind, Option.bind_some]
  simp only [found]
  rw [if_pos (distinct.sublist named)]

theorem filter_eq_self_of_named {names : List String} {members : List (String × Json)}
    (named : (members.map Prod.fst).Sublist names) :
    members.filter (fun m => names.contains m.1) = members :=
  List.filter_eq_self.mpr fun _ member =>
    List.contains_iff_mem.mpr (named.subset (List.mem_map_of_mem member))

theorem filter_eq_nil_of_named {names others : List String} {members : List (String × Json)}
    (named : (members.map Prod.fst).Sublist others) (apart : List.Disjoint names others) :
    members.filter (fun m => names.contains m.1) = [] := by
  apply List.filter_eq_nil_iff.mpr
  intro m member known
  exact apart (List.contains_iff_mem.mp known) (named.subset (List.mem_map_of_mem member))

/-- A record is read from the object of its fields. -/
theorem record?_ofMembers {names : List String} {members : List (String × Json)}
    (distinct : names.Nodup) (named : (members.map Prod.fst).Sublist names) :
    (ofMembers members).record? names = some members :=
  knownMembers?_eq distinct named (filter_eq_self_of_named named)

/-- A member that may be left out has the name it is given. -/
theorem names_optional (key : String) (value : Option Json) :
    ((optional key value).map Prod.fst).Sublist [key] := by
  cases value with
  | none => exact List.nil_sublist _
  | some v => exact List.Sublist.refl _

theorem lookup_optional (key name : String) (value : Option Json) :
    (optional key value).lookup name = if name = key then value else none := by
  cases value with
  | none => exact (ite_self none).symm
  | some v => exact Dictionary.lookup_entry key v name []

/-- A record that begins with a member that may be left out. -/
theorem record?_optional {key : String} {names : List String} {members : List (String × Json)}
    (value : Option Json) (distinct : (key :: names).Nodup)
    (named : (members.map Prod.fst).Sublist names) :
    (ofMembers (optional key value ++ members)).record? (key :: names) =
      some (optional key value ++ members) := by
  refine record?_ofMembers distinct ?_
  rw [List.map_append]
  exact (names_optional key value).append named

theorem lookup_optional_other {key name : String} (other : name ≠ key) (value : Option Json)
    (members : List (String × Json)) :
    (optional key value ++ members).lookup name = members.lookup name := by
  rw [List.lookup_append, lookup_optional, if_neg other, Option.none_or]

theorem lookup_optional_self {key : String} {members : List (String × Json)}
    (apart : members.lookup key = none) (value : Option Json) :
    (optional key value ++ members).lookup key = value := by
  rw [List.lookup_append, lookup_optional, if_pos rfl, apart, Option.or_none]

/-! ## Fields read back -/

section

variable {α : Type} {read : Json → Option α} {name : String} {fields : List (String × Json)}

theorem required?_eq {json : Json} (found : fields.lookup name = some json) :
    required? read name fields = read json := by
  rw [required?, found, Option.bind_some]

theorem field?_eq {json : Json} (default : α) (found : fields.lookup name = some json) :
    field? read default name fields = read json := by
  rw [field?, found]

/-- A field that is left out for none is read back, unless it is written as null. -/
theorem optional?_eq {write : α → Json} {value : Option α} (notNull : read .null = none)
    (found : fields.lookup name = value.map write) (back : ∀ a ∈ value, read (write a) = some a) :
    optional? read name fields = some value := by
  unfold optional?
  cases value with
  | none => rw [found, Option.map_none]
  | some a =>
      have written := back a rfl
      rw [found, Option.map_some]
      split
      case h_1 same => cases same
      case h_2 same =>
        rw [Option.some.inj same, notNull] at written
        cases written
      case h_3 same => rw [← Option.some.inj same, written, Option.map_some]

/-- A text that may be left out of the front is read back. -/
theorem optional?_text (apart : fields.lookup name = none) (value : Option String) :
    optional? string? name (optional name (value.map .ofString) ++ fields) = some value :=
  optional?_eq rfl (lookup_optional_self apart _) fun _ _ => rfl

theorem list?_map {write : α → Json} {items : List α}
    (back : ∀ a ∈ items, read (write a) = some a) :
    list? read (.array (items.map write)) = some items := by
  rw [list?, items?, Option.bind_some, Lists.mapM_eq_some_iff, List.forall₂_map_left_iff]
  exact List.forall₂_same.mpr back

end

/-! ## What was read -/

section

variable {α : Type} {read : Json → Option α} {name : String} {fields : List (String × Json)}

/-- What a field was read as is what it stands for when it is missing, or was read from a value. -/
theorem field?_cases {default a : α} (found : field? read default name fields = some a) :
    a = default ∨ ∃ json, read json = some a := by
  unfold field? at found
  split at found
  · exact Or.inl (Option.some.inj found).symm
  · exact Or.inr ⟨_, found⟩

theorem optional?_cases {value : Option α} (found : optional? read name fields = some value) :
    ∀ a ∈ value, ∃ json, read json = some a := by
  unfold optional? at found
  split at found
  · cases found
    exact nofun
  · cases found
    exact nofun
  · obtain ⟨a, given, rfl⟩ := Option.map_eq_some_iff.mp found
    rintro _ ⟨⟩
    exact ⟨_, given⟩

/-- Every item of an array was read from a value. -/
theorem list?_cases {json : Json} {items : List α} (found : list? read json = some items) :
    ∀ a ∈ items, ∃ json, read json = some a := by
  obtain ⟨values, _, each⟩ := Option.bind_eq_some_iff.mp found
  intro a member
  obtain ⟨value, _, readValue⟩ := Lists.exists_of_forall₂ (Lists.mapM_eq_some_iff.mp each) member
  exact ⟨value, readValue⟩

/-- So was every item of a field that stands for no items when it is missing. -/
theorem items_cases {items : List α} (found : field? (list? read) [] name fields = some items) :
    ∀ a ∈ items, ∃ json, read json = some a := by
  rcases field?_cases found with rfl | ⟨json, given⟩
  · exact List.forall_mem_nil _
  · exact list?_cases given

theorem lt_of_nat64? {json : Json} {n : Nat} (found : json.nat64? = some n) :
    n < Numeral.nat64Bound := by
  unfold nat64? at found
  split at found
  · exact of_decide_eq_true (Option.filter_eq_some_iff.mp found).2
  · cases found

end

theorem nat64?_ofNat {n : Nat} (fits : n < Numeral.nat64Bound) : (ofNat n).nat64? = some n := by
  rw [ofNat, nat64?, Option.filter_eq_some_iff]
  exact ⟨rfl, decide_eq_true fits⟩

/-- A dictionary is read back from the object of its entries. -/
theorem dictionary?_ofDictionary (d : Dictionary) : (ofDictionary d).dictionary? = some d := by
  have entries : ∀ entries : List (String × String),
      ((entries.map fun entry => (entry.1, ofString entry.2)).map fun m => (some m.1, m.2)).mapM
        (fun m : Literal × Json => do return (← m.1, ← m.2.string?)) = some entries := by
    intro entries
    induction entries with
    | nil => rfl
    | cons entry rest ih =>
        rw [List.map_cons, List.map_cons, List.mapM_cons, ih]
        rfl
  rw [ofDictionary, ofMembers, dictionary?, entries]
  refine congrArg some (Dictionary.ext_get? fun name => ?_)
  have same := Dictionary.get?_update .empty d.ascending name
  exact same.trans (Option.or_none)

end IntegrationHost.Json
