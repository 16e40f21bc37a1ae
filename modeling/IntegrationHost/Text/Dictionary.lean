/-!
# Dictionaries

Texts under texts, kept in ascending order of their keys. The order of `String` is the order of its
code points, which is also that of its UTF-8 bytes. Two dictionaries with the same entries are
equal.
-/

namespace IntegrationHost

/-- Entries whose keys ascend strictly. -/
def Ascending (entries : List (String × String)) : Prop :=
  entries.Pairwise fun a b => a.1 < b.1

instance (entries : List (String × String)) : Decidable (Ascending entries) :=
  inferInstanceAs (Decidable (entries.Pairwise fun a b => a.1 < b.1))

/-- A finite map from texts to texts. -/
structure Dictionary where
  entries : List (String × String)
  ascending : Ascending entries
  deriving DecidableEq

namespace Dictionary

/-- No entries. -/
def empty : Dictionary := ⟨[], List.Pairwise.nil⟩

instance : Inhabited Dictionary := ⟨empty⟩

/-- Put a value under a key among ascending entries. -/
def insertEntry (key value : String) : List (String × String) → List (String × String)
  | [] => [(key, value)]
  | (k, v) :: rest =>
    if key < k then (key, value) :: (k, v) :: rest
    else if k < key then (k, v) :: insertEntry key value rest
    else (key, value) :: rest

/-- An entry after an insertion is the inserted one or was there before. -/
theorem mem_insertEntry {key value : String} {entries : List (String × String)}
    {entry : String × String} (h : entry ∈ insertEntry key value entries) :
    entry = (key, value) ∨ entry ∈ entries := by
  induction entries with
  | nil => simpa [insertEntry] using h
  | cons head rest ih =>
    obtain ⟨k, v⟩ := head
    unfold insertEntry at h
    split at h
    · simpa using h
    · split at h
      · rcases List.mem_cons.1 h with h | h
        · exact Or.inr (List.mem_cons.2 (Or.inl h))
        · rcases ih h with h | h
          · exact Or.inl h
          · exact Or.inr (List.mem_cons_of_mem _ h)
      · rcases List.mem_cons.1 h with h | h
        · exact Or.inl h
        · exact Or.inr (List.mem_cons_of_mem _ h)

private theorem eq_of_not_lt {a b : String} (hab : ¬a < b) (hba : ¬b < a) : a = b :=
  String.le_antisymm (String.not_lt.1 hba) (String.not_lt.1 hab)

/-- An insertion keeps the keys ascending. -/
theorem ascending_insertEntry (key value : String) {entries : List (String × String)}
    (h : Ascending entries) : Ascending (insertEntry key value entries) := by
  induction entries with
  | nil => simp [insertEntry, Ascending]
  | cons head rest ih =>
    obtain ⟨k, v⟩ := head
    have hrest : Ascending rest := (List.pairwise_cons.1 h).2
    have hhead := (List.pairwise_cons.1 h).1
    unfold insertEntry
    split
    case isTrue hlt =>
      refine List.pairwise_cons.2 ⟨fun entry hentry => ?_, h⟩
      rcases List.mem_cons.1 hentry with rfl | hentry
      · exact hlt
      · exact String.lt_trans hlt (hhead entry hentry)
    case isFalse hnlt =>
      split
      case isTrue hgt =>
        refine List.pairwise_cons.2 ⟨fun entry hentry => ?_, ih hrest⟩
        rcases mem_insertEntry hentry with rfl | hentry
        · exact hgt
        · exact hhead entry hentry
      case isFalse hngt =>
        have heq : key = k := eq_of_not_lt hnlt hngt
        exact List.pairwise_cons.2 ⟨fun entry hentry => heq ▸ hhead entry hentry, hrest⟩

/-- Put a value under a key, in place of any value already there. -/
def insert (d : Dictionary) (key value : String) : Dictionary :=
  ⟨insertEntry key value d.entries, ascending_insertEntry key value d.ascending⟩

/-- The value under a key. -/
def get? (d : Dictionary) (key : String) : Option String :=
  d.entries.lookup key

/-- Take a key and its value out. -/
def erase (d : Dictionary) (key : String) : Dictionary :=
  ⟨d.entries.filter fun entry => entry.1 != key, List.Pairwise.filter _ d.ascending⟩

/-- The dictionary of a list of entries; the last value of a key stays. -/
def ofList (entries : List (String × String)) : Dictionary :=
  entries.foldl (fun d entry => d.insert entry.1 entry.2) empty

/-- Put in all the entries of `more`, which win over those already there. -/
def update (d : Dictionary) (more : List (String × String)) : Dictionary :=
  more.foldl (fun d entry => d.insert entry.1 entry.2) d

/-- The keys, ascending. -/
def keys (d : Dictionary) : List String :=
  d.entries.map Prod.fst

end Dictionary

end IntegrationHost
