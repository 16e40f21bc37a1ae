import IntegrationHost.Proofs.Text.Blank
import IntegrationHost.Proofs.Text.Search
import IntegrationHost.Registry.Basic

/-!
# Which locations are read back from their texts

A URL is read back from its text. The text of a file is its bare path, which is taken as it stands
from a text that begins with `file://`: it may be empty, begin with a blank, or look like a location
of another scheme, and is then refused or read as another location. Any other path is read back.
-/

namespace IntegrationHost

open Text (trim)

namespace Config.Location

/-! ## Which texts are locations -/

/-- What a text without blanks around it spells, if it is a location. -/
inductive Spells : String → Location → Prop
  | file {text path : String} (split : text.toList = "file://".toList ++ path.toList) :
      Spells text (.file path)
  | path {text : String} (some : text ≠ "") (unmarked : ¬"://".toList <:+: text.toList) :
      Spells text (.file text)
  | url {text scheme rest : String} (other : Text.stripStart? "file://" text = none)
      (cut : Text.splitOnce "://" text = Option.some (scheme, rest)) (some : scheme ≠ "") :
      Spells text (.url text)

variable {s path : String} {l : Location}

/-- A path behind its scheme is marked as a location with one. -/
theorem infix_of_file {text : String} (split : text.toList = "file://".toList ++ path.toList) :
    "://".toList <:+: text.toList :=
  ⟨"file".toList, path.toList, split.symm⟩

/-- A text is read as what it spells without the blanks around it. -/
theorem ofText_eq_ok_iff : ofText s = .ok l ↔ Spells (trim s) l := by
  constructor
  · intro read
    unfold ofText at read
    dsimp only at read
    split at read
    · cases read
    · rename_i notEmpty
      split at read
      · rename_i path stripped
        cases read
        exact .file (Text.stripStart?_eq_some_iff.mp stripped)
      · rename_i other
        split at read
        · rename_i scheme rest cut
          split at read
          · cases read
          · rename_i named
            cases read
            exact .url other cut (by simpa using named)
        · rename_i uncut
          cases read
          exact .path (by simpa using notEmpty) (Text.splitOnce_eq_none_iff.mp uncut)
  · intro spells
    unfold ofText
    generalize trim s = text at spells ⊢
    cases spells with
    | file split =>
        have stripped := Text.stripStart?_eq_some_iff.mpr split
        have some : text.isEmpty = false := by
          rw [← Text.isEmpty_toList, split]
          rfl
        simp [some, stripped]
    | path some unmarked =>
        have other : Text.stripStart? "file://" text = none := by
          rw [Option.eq_none_iff_forall_ne_some]
          intro path stripped
          exact unmarked (infix_of_file (Text.stripStart?_eq_some_iff.mp stripped))
        simp [some, other, Text.splitOnce_eq_none_iff.mpr unmarked]
    | url other cut some =>
        have notEmpty : text ≠ "" := by
          rintro rfl
          cases cut
        simp [notEmpty, other, cut, some]

/-! ## Which are read back -/

/-- A location is no file, or its path can stand for itself: it says something, has no blanks around
it, and looks like no location with a scheme. -/
def Plain : Location → Prop
  | .file path => path ≠ "" ∧ trim path = path ∧ ¬"://".toList <:+: path.toList
  | .url _ => True

/-- A path is read as the file that it leads to just when it is plain. -/
theorem ofText_path_iff : ofText path = .ok (.file path) ↔ (Location.file path).Plain := by
  rw [ofText_eq_ok_iff]
  constructor
  · generalize trimmed : trim path = text
    intro spells
    cases spells with
    | file split =>
        -- What is left of a text behind the scheme is shorter than the text.
        have shorter := Text.length_trim_le path
        have scheme : 0 < "file://".toList.length := by decide
        rw [trimmed, split, List.length_append] at shorter
        omega
    | path some unmarked => exact ⟨some, trimmed, unmarked⟩
  · rintro ⟨some, trimmed, unmarked⟩
    rw [trimmed]
    exact .path some unmarked

/-- A URL that was read is read back. -/
theorem ofText_url {text : String} (read : ofText s = .ok (.url text)) :
    ofText text = .ok (.url text) := by
  rw [ofText_eq_ok_iff] at read ⊢
  generalize trimmed : trim s = whole at read
  cases read with
  | url other cut some =>
      rw [← trimmed, Text.trim_trim, trimmed]
      exact .url other cut some

theorem ofText_text_iff (read : ofText s = .ok l) : ofText l.text = .ok l ↔ l.Plain := by
  cases l with
  | file path => exact ofText_path_iff
  | url text => exact iff_of_true (ofText_url read) trivial

end Config.Location

namespace Registry

open Config

variable {ω : Type} (r : Registry ω) (name : ObjectName) (l : Location)

theorem location?_putLocation : (r.putLocation name (some l)).location? name = some l := by
  simp [putLocation, location?]

/-- Remembering a location once more changes nothing. -/
theorem putLocation_putLocation :
    (r.putLocation name (some l)).putLocation name (some l) = r.putLocation name (some l) := by
  simp [putLocation, withoutLocation]

/-- A text that spells a remembered location changes nothing when it is put in its place. -/
theorem putLocationText_eq_ok_iff {text : String} :
    (r.putLocation name (some l)).putLocationText name text = .ok (r.putLocation name (some l)) ↔
      Location.ofText text = .ok l := by
  unfold putLocationText
  cases read : Location.ofText text with
  | error error => exact iff_of_false nofun nofun
  | ok other =>
      rw [Except.map, Except.ok.injEq, Except.ok.injEq]
      constructor
      · intro same
        have located := location?_putLocation (r.putLocation name (some l)) name other
        rw [same, location?_putLocation] at located
        exact (Option.some.inj located).symm
      · rintro rfl
        exact putLocation_putLocation r name other

/-- A location that was read from a text is read back from its own just when it is plain. So when it
is remembered for an adapter, its text, put in its place again, leaves everything as it is just when
it is plain. -/
theorem putLocationText_again_iff {s : String} {l : Location} (read : Location.ofText s = .ok l) :
    (Location.ofText l.text = .ok l ↔ l.Plain) ∧
      ∀ {ω : Type} (r : Registry ω) (name : ObjectName), ∃ left,
        r.putLocationText name s = .ok left ∧
        (left.location? name).map Location.text = some l.text ∧
        (left.putLocationText name l.text = .ok left ↔ l.Plain) := by
  have back := Location.ofText_text_iff read
  refine ⟨back, ?_⟩
  intro ω r name
  refine ⟨r.putLocation name (some l), ?_, ?_, ?_⟩
  · rw [putLocationText, read]
    rfl
  · rw [location?_putLocation]
    rfl
  · rw [putLocationText_eq_ok_iff, back]

/-- The location of a file with its scheme before it. -/
theorem putLocationText_again_iff_absolute :
    Location.ofText " file:///etc/a.json" = .ok (.file "/etc/a.json") ∧
      Location.ofText "/etc/a.json" = .ok (.file "/etc/a.json") := by
  have read : Location.ofText " file:///etc/a.json" = .ok (.file "/etc/a.json") := by rfl
  refine ⟨read, (putLocationText_again_iff read).1.mpr ⟨?_, ?_, ?_⟩⟩
  · decide
  · rfl
  · decide

/-- Paths that cannot stand for themselves: one that is empty, one that begins with a blank, and one
that looks like a URL. -/
theorem paths_not_read_back :
    Location.ofText "file://" = .ok (.file "") ∧
      Location.ofText "" = .error (.invalidLocation "" "location is empty") ∧
      Location.ofText "file:// a.json" = .ok (.file " a.json") ∧
      Location.ofText " a.json" = .ok (.file "a.json") ∧
      Location.ofText "file://http://host/a.json" = .ok (.file "http://host/a.json") ∧
      Location.ofText "http://host/a.json" = .ok (.url "http://host/a.json") := by
  refine ⟨?_, ?_, ?_, ?_, ?_, ?_⟩ <;> rfl

end Registry

end IntegrationHost
