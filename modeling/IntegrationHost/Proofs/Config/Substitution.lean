import IntegrationHost.Config.PreProcessor
import IntegrationHost.Proofs.Text.Search

/-!
# Filling in variables

A text can be read in one way only as literals with references between them, and this reading says
what becomes of it: every reference is replaced by the value of its variable, and where variables
are missing the failure names the first of them. Values are put in as they are, and nothing in them
is looked at again.
-/

namespace IntegrationHost.Config

namespace Template

/-! ## Readings -/

/-- A reference to a variable, as it is written. -/
def mention (name : String) : String := String.ofList opening ++ name ++ String.ofList closing

/-- Somewhere in a text a reference is opened, and it is closed further on. -/
def HasReference (text : String) : Prop :=
  ∃ before name behind, text = before ++ mention name ++ behind

/-- Literals with references between them: for each reference the literal before it and the name
that it refers to, and the literal behind the last one. -/
structure Reading where
  references : List (String × String)
  last : String

namespace Reading

/-- The literals, with something written for each name. -/
def written (r : Reading) (write : String → String) : String :=
  r.references.foldr (fun reference rest => reference.1 ++ write reference.2 ++ rest) r.last

/-- A text is read so: no reference is opened in a literal before another reference, none is closed
within a name, and behind the last one there is none any more. -/
structure Reads (r : Reading) (text : String) : Prop where
  text_eq : r.written mention = text
  literals : ∀ reference ∈ r.references, ¬opening <:+: reference.1.toList
  names : ∀ reference ∈ r.references, '\x7d' ∉ reference.2.toList
  last : ¬HasReference r.last

/-- Put a literal and a reference in front. -/
def prepend (literal name : String) (r : Reading) : Reading :=
  ⟨(literal, name) :: r.references, r.last⟩

end Reading

/-! ## The first reference -/

section

variable {cs before name behind : List Char}

/-- The opening mark does not end with the character that it begins with. -/
theorem opening_infix_append : opening <:+: before ++ opening.dropLast ↔ opening <:+: before := by
  constructor
  · intro inside
    rcases List.infix_concat_iff.mp inside with ⟨front, split⟩ | inside
    · have marks := congrArg List.getLast? split
      rw [List.getLast?_append, List.getLast?_concat] at marks
      exact absurd (show some '\x7b' = some '$' from marks) (by decide)
    · exact inside
  · intro inside
    exact inside.trans (List.infix_append [] before _)

/-- The first reference is opened at the first opening mark and closed at the first closing mark
behind that. -/
theorem reference?_eq_some_iff :
    reference? cs = some (before, name, behind) ↔
      cs = before ++ (opening ++ (name ++ '\x7d' :: behind)) ∧ ¬opening <:+: before ∧
        '\x7d' ∉ name := by
  have notEmpty : opening ≠ [] := List.cons_ne_nil _ _
  have opened (before rest : List Char) : Text.cut? opening cs = some (before, rest) ↔
      cs = before ++ (opening ++ rest) ∧ ¬opening <:+: before ++ opening.dropLast :=
    Text.cut?_eq_some_iff_first notEmpty
  have closed (rest name behind : List Char) : Text.cut? ['\x7d'] rest = some (name, behind) ↔
      rest = name ++ '\x7d' :: behind ∧ '\x7d' ∉ name :=
    Text.cut?_eq_some_iff
  simp only [opening_infix_append] at opened
  simp only [reference?, closing, Option.bind_eq_bind, Option.bind_eq_some_iff, Prod.exists,
    opened, closed, Option.pure_def, Option.some.injEq, Prod.mk.injEq]
  constructor
  · rintro ⟨_, rest, ⟨rfl, plain⟩, _, _, ⟨rfl, unclosed⟩, rfl, rfl, rfl⟩
    exact ⟨rfl, plain, unclosed⟩
  · rintro ⟨rfl, plain, unclosed⟩
    exact ⟨_, _, ⟨rfl, plain⟩, _, _, ⟨rfl, unclosed⟩, rfl, rfl, rfl⟩

end

section

variable {text literal name : String}

@[simp]
theorem toList_mention : (mention name).toList = opening ++ (name.toList ++ closing) := by
  simp [mention]

/-- The first reference of a text is the one that stands behind a literal in which none is opened.
-/
theorem reference?_toList_eq_some_iff {behind : String} :
    reference? text.toList = some (literal.toList, name.toList, behind.toList) ↔
      text = literal ++ mention name ++ behind ∧ ¬opening <:+: literal.toList ∧
        '\x7d' ∉ name.toList := by
  rw [reference?_eq_some_iff, ← String.toList_inj]
  simp [closing]

/-- No reference is found exactly in the texts that have none. -/
theorem reference?_eq_none_iff : reference? text.toList = none ↔ ¬HasReference text := by
  constructor
  · rintro missing ⟨before, name, behind, rfl⟩
    obtain ⟨front, rest, opened, within⟩ :=
      Text.cut?_append opening before.toList (name.toList ++ '\x7d' :: behind.toList)
    have closes : '\x7d' ∈ rest := within.mem (by simp)
    have closed : Text.cut? closing rest ≠ none := by
      rw [ne_eq, Text.cut?_eq_none_iff, not_not]
      exact (List.singleton_infix_iff _ _).mpr closes
    have split : (before ++ mention name ++ behind).toList =
        before.toList ++ (opening ++ (name.toList ++ '\x7d' :: behind.toList)) := by
      simp [closing]
    rw [split, reference?, opened] at missing
    cases found : Text.cut? closing rest with
    | none => exact closed found
    | some _ =>
        simp only [Option.bind_eq_bind, Option.bind_some, found] at missing
        cases missing
  · intro plain
    rw [Option.eq_none_iff_forall_ne_some]
    rintro ⟨before, name, behind⟩ found
    obtain ⟨split, -, -⟩ := reference?_eq_some_iff.mp found
    refine plain ⟨String.ofList before, String.ofList name, String.ofList behind, ?_⟩
    rw [← String.toList_inj, split]
    simp [closing]

end

/-! ## One reading for every text -/

namespace Reading

variable {text : String} {r : Reading}

/-- A text without a reference is read as one literal. -/
theorem reads_iff_of_plain (plain : ¬HasReference text) : r.Reads text ↔ r = ⟨[], text⟩ := by
  constructor
  · intro reads
    obtain ⟨references, last⟩ := r
    cases references with
    | nil =>
        cases reads.text_eq
        rfl
    | cons reference rest =>
        exact absurd ⟨_, _, _, reads.text_eq.symm⟩ plain
  · rintro rfl
    exact ⟨rfl, by simp, by simp, plain⟩

/-- A text is read as the literal before its first reference, that reference, and what is read
behind it. -/
theorem reads_iff_of_reference {literal name behind : String}
    (found : reference? text.toList = some (literal.toList, name.toList, behind.toList)) :
    r.Reads text ↔ ∃ tail : Reading, tail.Reads behind ∧ r = tail.prepend literal name := by
  have split := reference?_toList_eq_some_iff.mp found
  constructor
  · intro reads
    obtain ⟨references, last⟩ := r
    cases references with
    | nil =>
        have single : last = text := reads.text_eq
        exact absurd ⟨_, _, _, single.trans split.1⟩ reads.last
    | cons reference rest =>
        obtain ⟨⟨plain, plains⟩, closed, allClosed⟩ :=
          And.intro (List.forall_mem_cons.mp reads.literals) (List.forall_mem_cons.mp reads.names)
        have first := reference?_toList_eq_some_iff.mpr ⟨reads.text_eq.symm, plain, closed⟩
        have same := first.symm.trans found
        simp only [Option.some.injEq, Prod.mk.injEq, String.toList_inj] at same
        obtain ⟨rfl, rfl, text_eq⟩ := same
        exact ⟨⟨rest, last⟩, ⟨text_eq, plains, allClosed, reads.last⟩, rfl⟩
  · rintro ⟨tail, reads, rfl⟩
    refine ⟨?_, List.forall_mem_cons.mpr ⟨split.2.1, reads.literals⟩,
      List.forall_mem_cons.mpr ⟨split.2.2, reads.names⟩, reads.last⟩
    rw [split.1, ← reads.text_eq]
    rfl

end Reading

/-- Behind its first reference a text is shorter. -/
theorem length_lt_of_reference {text literal name behind : String}
    (found : reference? text.toList = some (literal.toList, name.toList, behind.toList)) :
    behind.length < text.length := by
  rw [(reference?_toList_eq_some_iff.mp found).1, String.length_append, String.length_append,
    mention, String.length_append, String.length_append, String.length_ofList]
  simp only [opening, List.length_cons]
  omega

theorem exists_reference {text : String} (some : HasReference text) :
    ∃ literal name behind : String,
      reference? text.toList = Option.some (literal.toList, name.toList, behind.toList) := by
  cases found : reference? text.toList with
  | none => exact absurd some (reference?_eq_none_iff.mp found)
  | some parts =>
      exact ⟨String.ofList parts.1, String.ofList parts.2.1, String.ofList parts.2.2, by simp⟩

/-- Every text has one reading. -/
theorem existsUnique_reading (text : String) : ∃! r : Reading, r.Reads text := by
  induction size : text.length using Nat.strong_induction_on generalizing text with
  | _ size ih =>
      by_cases plain : HasReference text
      · obtain ⟨literal, name, behind, found⟩ := exists_reference plain
        obtain ⟨tail, reads, unique⟩ :=
          ih behind.length (size ▸ length_lt_of_reference found) behind rfl
        refine ⟨tail.prepend literal name,
          (Reading.reads_iff_of_reference found).mpr ⟨tail, reads, rfl⟩, ?_⟩
        intro r other
        obtain ⟨rest, readsRest, rfl⟩ := (Reading.reads_iff_of_reference found).mp other
        rw [unique rest readsRest]
      · simp only [Reading.reads_iff_of_plain plain]
        exact ⟨_, rfl, fun r same => same⟩

/-! ## Filling in -/

variable {bindings : Dictionary}

/-- What becomes of a text that is read so: it is written with the values of its variables, or the
first variable that is not defined is named. -/
def Reading.filled (bindings : Dictionary) (r : Reading) : Except String String :=
  match r.references.find? fun reference => (bindings.get? reference.2).isNone with
  | none => .ok (r.written fun name => (bindings.get? name).getD "")
  | some reference => .error reference.2

theorem Reading.filled_prepend (literal name : String) (tail : Reading) :
    (tail.prepend literal name).filled bindings =
      match bindings.get? name with
      | none => .error name
      | some value => (tail.filled bindings).map (literal ++ value ++ ·) := by
  cases bound : bindings.get? name with
  | none => simp [filled, prepend, bound]
  | some value =>
      simp only [filled, prepend, List.find?_cons, bound, Option.isNone_some]
      cases tail.references.find? fun reference => (bindings.get? reference.2).isNone with
      | none => simp [written, Except.map, bound]
      | some reference => rfl

/-- Nothing but the reading of a text decides what it is filled in with. The induction is on the
bound, which every reference brings down by no more than the text becomes shorter. -/
theorem fillWithin_eq {r : Reading} {text : String} {bound : Nat} (reads : r.Reads text)
    (enough : text.length ≤ bound) :
    fillWithin bindings bound text.toList = (r.filled bindings).map String.toList := by
  induction bound generalizing r text with
  | zero =>
      have plain : ¬HasReference text := by
        intro some
        obtain ⟨_, _, _, found⟩ := exists_reference some
        exact absurd (length_lt_of_reference found) (by omega)
      rw [(Reading.reads_iff_of_plain plain).mp reads]
      rfl
  | succ bound ih =>
      by_cases plain : HasReference text
      · obtain ⟨literal, name, behind, found⟩ := exists_reference plain
        obtain ⟨tail, readsTail, rfl⟩ := (Reading.reads_iff_of_reference found).mp reads
        have shorter := length_lt_of_reference found
        rw [Reading.filled_prepend, fillWithin, found]
        simp only [String.ofList_toList]
        cases bindings.get? name with
        | none => rfl
        | some value =>
            simp only [ih readsTail (by omega)]
            cases tail.filled bindings with
            | error missing => rfl
            | ok rest =>
                change Except.ok _ = Except.ok (literal ++ value ++ rest).toList
                rw [String.toList_append, String.toList_append]
      · have missing := reference?_eq_none_iff.mpr plain
        rw [(Reading.reads_iff_of_plain plain).mp reads, fillWithin, missing]
        rfl

theorem fill_eq {r : Reading} {text : String} (reads : r.Reads text) :
    fill bindings text = r.filled bindings := by
  rw [fill, fillWithin_eq reads (Nat.le_refl _)]
  cases r.filled bindings with
  | error missing => rfl
  | ok filled => exact congrArg Except.ok String.ofList_toList

end Template

namespace PreProcessor

/-- A text is read in one way. Where all names that it refers to are defined, they are replaced by
their values, which go in as they are; otherwise the first name that is not defined is reported. A
text without a reference stays as it is. -/
theorem substitution_run_exact (bindings : Dictionary) (text : String) :
    ∃ r : Template.Reading, r.Reads text ∧
      (∀ other : Template.Reading, other.Reads text → other = r) ∧
      (∀ value : String → String,
        (∀ reference ∈ r.references, bindings.get? reference.2 = some (value reference.2)) →
          (substitution bindings).run text = .ok (r.written value)) ∧
      (∀ front literal name back, r.references = front ++ (literal, name) :: back →
        (∀ reference ∈ front, (bindings.get? reference.2).isSome) → bindings.get? name = none →
          (substitution bindings).run text =
            .error (.preProcessing substitutionName ("variable '" ++ name ++ "' is not defined"))) ∧
      (¬Template.HasReference text → (substitution bindings).run text = .ok text) := by
  obtain ⟨r, reads, unique⟩ := Template.existsUnique_reading text
  have run_eq : (substitution bindings).run text = (r.filled bindings).mapError fun name =>
      .preProcessing substitutionName ("variable '" ++ name ++ "' is not defined") :=
    congrArg (Except.mapError _) (Template.fill_eq reads)
  refine ⟨r, reads, unique, ?defined, ?undefined, ?plain⟩
  case defined =>
    intro value defined
    have none :
        (r.references.find? fun reference => (bindings.get? reference.2).isNone) = none := by
      rw [List.find?_eq_none]
      intro reference member
      rw [defined reference member]
      exact Bool.false_ne_true
    have same : r.written (fun name => (bindings.get? name).getD "") = r.written value := by
      apply List.foldr_ext
      intro reference member rest
      simp only [defined reference member, Option.getD_some]
    rw [run_eq, Template.Reading.filled, none, ← same]
    rfl
  case undefined =>
    intro front literal name back split earlier missing
    have first : (r.references.find? fun reference => (bindings.get? reference.2).isNone) =
        some (literal, name) := by
      rw [List.find?_eq_some_iff_append]
      refine ⟨by rw [missing]; rfl, front, back, split, fun reference member => ?_⟩
      rw [Option.isNone_eq_false_iff.mpr (earlier reference member)]
      rfl
    rw [run_eq, Template.Reading.filled, first]
    rfl
  case plain =>
    intro plain
    rw [run_eq, (Template.Reading.reads_iff_of_plain plain).mp reads]
    rfl

end PreProcessor

end IntegrationHost.Config
