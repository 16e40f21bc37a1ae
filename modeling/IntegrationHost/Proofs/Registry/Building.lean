import IntegrationHost.Proofs.Management.Server
import IntegrationHost.Proofs.Text.Blank
import IntegrationHost.Proofs.Text.Search
import IntegrationHost.Registry.Basic
import IntegrationHost.Rehearsal.Programs

/-!
# Which settings a registry is built from

Settings are checked before a registry is built from them, and its id is then put into a name. The
check knows of the marks that structure a name, but not that a name has a single line: a registry is
built from settings that pass the check unless its id has a line end. The command in settings that
pass has words, so that a registry has a version control just when a command is set.
-/

namespace IntegrationHost

open Text (isBlank)

/-! ## What the check lets through -/

namespace Config

namespace Settings

variable {s : Settings} {id : String}

/-- Settings pass when none of what is set is blank and the id has no mark of a name. -/
theorem check_eq_ok_iff : s.check = .ok () ↔
    (∀ id, s.registryId = some id → isRegistryId id = true) ∧
      (∀ url, s.adapterConfigUrl = some url → isBlank url = false) ∧
      (∀ name ∈ s.preprocessors, isBlank name = false) ∧
      ∀ command, s.versionControl = some command → isBlank command = false := by
  have passes : s.check = .ok () ↔ s.flaw? = none := by
    unfold check
    cases s.flaw? <;> simp
  rw [passes]
  simp [flaw?, Option.filter_eq_none_iff]

/-- An id that passes is part of a name when it has no line end. -/
theorem isPart_of_isRegistryId (usable : isRegistryId id = true) :
    ObjectName.isPart id = true ↔ '\n' ∉ id.toList := by
  rw [isRegistryId, Bool.and_eq_true, Bool.not_eq_true', Bool.not_eq_true',
    Text.hasAny_eq_false_iff] at usable
  obtain ⟨notBlank, unmarked⟩ := usable
  have notEmpty : id.isEmpty = false := by
    rw [Bool.eq_false_iff]
    intro empty
    rw [String.isEmpty_iff.mp empty] at notBlank
    cases notBlank
  rw [ObjectName.isPart, notEmpty, Bool.not_false, Bool.true_and, Bool.not_eq_true',
    Text.hasAny_eq_false_iff]
  constructor
  · intro none
    exact none '\n' (by decide)
  · intro oneLine c isMark
    rw [show [':', ',', '=', '\n'] = [':', ',', '='] ++ ['\n'] from rfl, List.mem_append,
      List.mem_singleton] at isMark
    rcases isMark with isMark | rfl
    · exact unmarked c isMark
    · exact oneLine

end Settings

/-- A version control comes of a command that has words. -/
theorem VersionControl.isSome_ofSettings? {ω : Type} [RunsPrograms ω] {s : Settings}
    (checked : s.check = .ok ()) :
    (ofSettings? s : Option (VersionControl ω)).isSome = s.versionControl.isSome := by
  obtain ⟨_, _, _, commandGiven⟩ := Settings.check_eq_ok_iff.mp checked
  rw [ofSettings?, Option.isSome_map]
  cases set : s.versionControl with
  | none => rfl
  | some command =>
      have notBlank := commandGiven command set
      rw [Option.bind_some, Command.ofText?]
      cases words : Text.words command with
      | nil => cases notBlank.symm.trans (Text.words_eq_nil_iff.mp words)
      | cons program arguments => rfl

end Config

namespace Registry

open Config (Settings)

/-! ## What building comes to -/

/-- The name of a registry has to be on one line. -/
theorem nameFor_cases {settings : Settings} (checked : settings.check = .ok ()) :
    ((∀ id, settings.registryId = some id → '\n' ∉ id.toList) ∧
        ∃ name, nameFor settings = .ok name) ∨
      ∃ id, settings.registryId = some id ∧ '\n' ∈ id.toList ∧
        nameFor settings = .error (.ofFlaw (.invalidProperty "id" id)) := by
  have typePart : ObjectName.isPart "AdapterRegistry" = true := by decide
  obtain ⟨idGiven, _⟩ := Settings.check_eq_ok_iff.mp checked
  cases set : settings.registryId with
  | none =>
      obtain ⟨name, named⟩ : ∃ name, ObjectName.registry ObjectName.defaultRegistryId = .ok name :=
        ObjectName.exists_given typePart (by decide)
      exact Or.inl ⟨nofun, name, by rw [nameFor, set, Option.getD_none, named]; rfl⟩
  | some id =>
      have part_iff := Settings.isPart_of_isRegistryId (idGiven id set)
      by_cases oneLine : '\n' ∈ id.toList
      · have notPart : ObjectName.isPart id = false :=
          eq_false_of_ne_true fun part => part_iff.mp part oneLine
        have unnamed : ObjectName.registry id = .error (.invalidProperty "id" id) :=
          ObjectName.given_of_not_isPart typePart notPart
        exact Or.inr ⟨id, rfl, oneLine, by rw [nameFor, set, Option.getD_some, unnamed]; rfl⟩
      · obtain ⟨name, named⟩ : ∃ name, ObjectName.registry id = .ok name :=
          ObjectName.exists_given typePart (part_iff.mpr oneLine)
        refine Or.inl ⟨?_, name, by rw [nameFor, set, Option.getD_some, named]; rfl⟩
        rintro _ ⟨⟩
        exact oneLine

section

variable {ω : Type} [HasFiles ω] [Config.RunsPrograms ω]

/-- A registry with the collaborators that come with the host is built, or its settings do not pass
the check, or its id has a line end. -/
theorem build_cases (settings : Settings) (server : Nat) :
    (∃ error, settings.check = .error error ∧
        build settings server (.standard ω) = .error (.configuration error)) ∨
      (settings.check = .ok () ∧ ∃ id, settings.registryId = some id ∧ '\n' ∈ id.toList ∧
        build settings server (.standard ω) =
          .error (.management (.ofFlaw (.invalidProperty "id" id)))) ∨
      settings.check = .ok () ∧ (∀ id, settings.registryId = some id → '\n' ∉ id.toList) ∧
        ∃ r, build settings server (.standard ω) = .ok r ∧
          r.versionControl.isSome = settings.versionControl.isSome := by
  unfold build
  cases checked : settings.check with
  | error error => exact Or.inl ⟨error, rfl, rfl⟩
  | ok _ =>
      rcases nameFor_cases checked with ⟨oneLine, name, named⟩ | ⟨id, set, lineEnd, unnamed⟩
      · rw [named]
        exact Or.inr (Or.inr ⟨rfl, oneLine, _, rfl,
          Config.VersionControl.isSome_ofSettings? checked⟩)
      · rw [unnamed]
        exact Or.inr (Or.inl ⟨rfl, id, set, lineEnd, rfl⟩)

/-- A registry is built just from the settings that pass the check and whose id, if one is set, has
no line end; from those that pass and have such an id no name can be made. A registry that was built
has a version control just when its settings name a command. -/
theorem build_ok_iff_oneLine (settings : Settings) (server : Nat) :
    ((∃ r, build settings server (.standard ω) = .ok r) ↔
      settings.check = .ok () ∧ ∀ id, settings.registryId = some id → '\n' ∉ id.toList) ∧
    (∀ id, settings.check = .ok () → settings.registryId = some id → '\n' ∈ id.toList →
      build settings server (.standard ω) =
        .error (.management (.ofFlaw (.invalidProperty "id" id)))) ∧
    ∀ r, build settings server (.standard ω) = .ok r →
      (r.versionControl.isSome = true ↔ settings.versionControl.isSome = true) := by
  rcases build_cases (ω := ω) settings server with
    ⟨error, failed, built⟩ | ⟨checked, id, set, lineEnd, built⟩ |
      ⟨checked, oneLine, r, built, versionControl_eq⟩
  · rw [built, failed]
    simp
  · rw [built]
    refine ⟨?_, ?_, nofun⟩
    · refine iff_of_false (fun ⟨_, isBuilt⟩ => nomatch isBuilt) ?_
      rintro ⟨_, oneLine⟩
      exact oneLine id set lineEnd
    · rintro other _ otherSet _
      cases set.symm.trans otherSet
      rfl
  · rw [built]
    refine ⟨iff_of_true ⟨r, rfl⟩ ⟨checked, oneLine⟩, ?_, ?_⟩
    · intro id _ set lineEnd
      exact absurd lineEnd (oneLine id set)
    · rintro _ ⟨⟩
      rw [versionControl_eq]

end

/-- Settings that pass the check and from which no registry is built. -/
theorem check_ok_build_error :
    let settings : Settings := { Settings.default with registryId := some "main\n" }
    settings.check = .ok () ∧
      build settings 0 (.standard Rehearsal.Stage) =
        .error (.management (.malformedName "invalid key property 'id=main\n'")) := by
  exact ⟨by decide, by rfl⟩

end Registry

end IntegrationHost
