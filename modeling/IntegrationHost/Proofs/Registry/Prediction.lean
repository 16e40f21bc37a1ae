import IntegrationHost.Proofs.Adapter.Validation
import IntegrationHost.Proofs.Registry.Admission
import IntegrationHost.Rehearsal.Programs

/-!
# What a check says of a creation

A registry checks a configuration text in the way in which it prepares the creation of an adapter,
but for the name: the rules for ids know nothing of the marks that structure a name. So where
nothing else is in the way, an adapter is created from what passes the check, unless its id holds
one of these marks.
-/

namespace IntegrationHost

/-! ## Names of adapters -/

namespace ObjectName

/-- The characters that structure names, and the end of a line. -/
def marks : List Char := [':', ',', '=', '\n']

theorem isPart_eq {id : String} (notEmpty : id ≠ "") : isPart id = !Text.hasAny marks id := by
  simp [isPart, marks, notEmpty]

end ObjectName

/-- The id of a definition that breaks no rule is not empty. -/
theorem AdapterDefinition.id_ne_empty {d : AdapterDefinition} (accepted : d.broken = []) :
    d.id ≠ "" := by
  unfold broken violations at accepted
  rw [List.append_eq_nil_iff, List.append_eq_nil_iff] at accepted
  obtain ⟨⟨idGiven, _⟩, _⟩ := accepted
  unfold AdapterDefinition.id
  cases given : d.uniqueId with
  | none =>
      rw [given] at idGiven
      cases idGiven
  | some id =>
      rintro rfl
      rw [given] at idGiven
      exact absurd idGiven (by decide)

variable {ω A : Type}

/-- The handle of an adapter, if its id can be put into a name. -/
theorem Handle.new_cases (kind : AdapterKind ω A) {d : AdapterDefinition} (given : d.id ≠ "") :
    (Text.hasAny ObjectName.marks d.id = false ∧ ∃ handle, new kind d = .ok handle) ∨
      Text.hasAny ObjectName.marks d.id = true ∧
        new kind d = .error (.ofFlaw (.invalidProperty "id" d.id)) := by
  have part := ObjectName.isPart_eq given
  have typePart : ObjectName.isPart "Adapter" = true := by decide
  cases marked : Text.hasAny ObjectName.marks d.id with
  | true =>
      rw [marked] at part
      have unnamed : ObjectName.adapter d.id = .error (.invalidProperty "id" d.id) :=
        ObjectName.given_of_not_isPart typePart part
      refine Or.inr ⟨rfl, ?_⟩
      unfold new
      rw [unnamed]
  | false =>
      rw [marked] at part
      obtain ⟨name, named⟩ : ∃ name, ObjectName.adapter d.id = .ok name :=
        ObjectName.exists_given typePart part
      refine Or.inl ⟨rfl, ?_⟩
      unfold new
      rw [named]
      exact ⟨_, rfl⟩

namespace Registry

variable {kind : AdapterKind ω A} {r : Registry ω} {h : Host ω A} {text : String}

/-! ## Creations -/

/-- An empty server takes every adapter. -/
theorem expose_of_empty {n : Nat} {handle : Handle A} (found : h.handles[n]? = some handle)
    (empty : h.servers r.server = .empty) :
    (r.expose n handle.name h).answer = .ok handle.name := by
  have registered : (h.servers r.server).register handle.name (.adapter n) =
      .ok ⟨[(handle.name, .adapter n)]⟩ := by
    rw [empty]
    rfl
  simp only [expose, Host.registerHandle, found, Host.register, registered]

/-- What was prepared is created by a registry that lists nothing, on a server that is empty. -/
theorem create_of_prepare {handle : Handle A} (prepared : r.prepare kind text = .ok handle)
    (location : Option Config.Location) (unlisted : r.listed = [])
    (empty : h.servers r.server = .empty) :
    (r.create kind text location h).answer = .ok handle.name := by
  have notListed : r.lists handle.name = false := by
    simp [lists, unlisted]
  have exposed := expose_of_empty (r := r.list handle.name) (h.handle_addHandle handle) empty
  simp only [create, prepared, notListed, Bool.false_eq_true, if_false,
    show (h.addHandle handle).1 = h.handles.length from rfl, exposed]

theorem createFromText_of_prepare {handle : Handle A} (prepared : r.prepare kind text = .ok handle)
    (unlisted : r.listed = []) (empty : h.servers r.server = .empty) :
    (r.createFromText kind text h).answer = .ok handle.name :=
  create_of_prepare prepared none unlisted empty

/-- What cannot be prepared is not created. -/
theorem createFromText_of_prepare_error {error : Error}
    (unprepared : r.prepare kind text = .error error) :
    (r.createFromText kind text h).answer = .error error := by
  simp only [createFromText, create, unprepared]
  rfl

/-! ## Checks -/

section

variable [HasFiles ω] (standard : r.collaborators = .standard ω)
  (enabled : r.settings.validationEnabled = true)

include standard enabled

/-- Of a text that can be read, the check and a creation find the same rules broken. -/
theorem check_eq (d : AdapterDefinition) : r.check d = accept d.broken := by
  unfold check
  rw [if_pos enabled, standard]
  rfl

theorem validate_eq {d : AdapterDefinition} (read : r.unmarshal text = .ok d) :
    r.validate text = (accept d.broken).mapError Error.flattened := by
  unfold validate
  rw [read]
  dsimp only
  rw [if_pos enabled, standard]
  rfl

/-- A text that passes the check spells a definition that breaks no rule. -/
theorem validate_ok_iff :
    r.validate text = .ok () ↔ ∃ d, r.unmarshal text = .ok d ∧ d.broken = [] := by
  cases read : r.unmarshal text with
  | error error => simp [validate, read]
  | ok d =>
      rw [validate_eq standard enabled read]
      simp only [Except.ok.injEq, exists_eq_left', ← accept_iff]
      cases accept d.broken with
      | error error => exact ⟨nofun, nofun⟩
      | ok _ => exact Iff.rfl

variable (kind) in
/-- Of a definition that breaks no rule, the handle is made. -/
theorem prepare_of_accepted {d : AdapterDefinition} (read : r.unmarshal text = .ok d)
    (accepted : d.broken = []) :
    r.prepare kind text = (Handle.new kind d).mapError .management := by
  have passes : r.check d = .ok () :=
    (check_eq standard enabled d).trans (accept_iff.mpr accepted)
  simp only [prepare, read, bind, Except.bind, passes]

variable (unlisted : r.listed = []) (empty : h.servers r.server = .empty)

/-- What is created breaks no rule. -/
theorem accepted_of_createFromText {name : ObjectName}
    (created : (r.createFromText kind text h).answer = .ok name) :
    ∃ d, r.unmarshal text = .ok d ∧ d.broken = [] := by
  cases prepared : r.prepare kind text with
  | error error => cases created.symm.trans (createFromText_of_prepare_error prepared)
  | ok handle =>
      obtain ⟨d, read, passes, _⟩ := prepare_ok prepared
      rw [check_eq standard enabled, accept_iff] at passes
      exact ⟨d, read, passes⟩

include unlisted empty

variable (kind) in
/-- What breaks no rule is created, if its id holds none of the marks of names. -/
theorem createFromText_of_accepted {d : AdapterDefinition} (read : r.unmarshal text = .ok d)
    (accepted : d.broken = []) :
    (Text.hasAny ObjectName.marks d.id = false ∧
        ∃ name, (r.createFromText kind text h).answer = .ok name) ∨
      Text.hasAny ObjectName.marks d.id = true ∧
        (r.createFromText kind text h).answer =
          .error (.management (.ofFlaw (.invalidProperty "id" d.id))) := by
  have prepared := prepare_of_accepted kind standard enabled read accepted
  rcases Handle.new_cases kind (AdapterDefinition.id_ne_empty accepted) with
    ⟨unmarked, handle, made⟩ | ⟨marked, failed⟩
  · rw [made] at prepared
    exact Or.inl ⟨unmarked, handle.name, createFromText_of_prepare prepared unlisted empty⟩
  · rw [failed] at prepared
    exact Or.inr ⟨marked, createFromText_of_prepare_error prepared⟩

/-- A registry that lists nothing, and whose server is empty, creates an adapter from a text if and
only if the text passes the check and the id that it spells holds none of the marks of names. From a
text that passes the check, but spells an id with such a mark, it creates none for this reason. -/
theorem createFromText_ok_iff_validate (kind : AdapterKind ω A) (text : String) :
    let answer := (r.createFromText kind text h).answer
    ((∃ name, answer = .ok name) ↔
      r.validate text = .ok () ∧
        ∃ d, r.unmarshal text = .ok d ∧ Text.hasAny ObjectName.marks d.id = false) ∧
    (r.validate text = .ok () → ∀ d, r.unmarshal text = .ok d →
      Text.hasAny ObjectName.marks d.id = true →
        answer = .error (.management (.ofFlaw (.invalidProperty "id" d.id)))) := by
  intro answer
  rw [validate_ok_iff standard enabled]
  refine ⟨⟨?_, ?_⟩, ?_⟩
  · rintro ⟨name, created⟩
    obtain ⟨d, read, accepted⟩ := accepted_of_createFromText standard enabled created
    refine ⟨⟨d, read, accepted⟩, d, read, ?_⟩
    rcases createFromText_of_accepted kind standard enabled unlisted empty read accepted with
      ⟨unmarked, _⟩ | ⟨_, failed⟩
    · exact unmarked
    · cases created.symm.trans failed
  · rintro ⟨⟨d, read, accepted⟩, d', read', unmarked⟩
    cases read.symm.trans read'
    rcases createFromText_of_accepted kind standard enabled unlisted empty read accepted with
      ⟨_, created⟩ | ⟨marked, _⟩
    · exact created
    · cases unmarked.symm.trans marked
  · rintro ⟨d, read, accepted⟩ d' read' marked
    cases read.symm.trans read'
    rcases createFromText_of_accepted kind standard enabled unlisted empty read accepted with
      ⟨unmarked, _⟩ | ⟨_, failed⟩
    · cases unmarked.symm.trans marked
    · exact failed

end

/-- A registry that has just been built creates an adapter without channels, which has passed the
check. -/
theorem createFromText_ok_iff_validate_built :
    let h : Host Rehearsal.Stage (LiveAdapter _) := .new default
    let text := "\x7b\"uniqueId\":\"a b\"\x7d"
    ∃ r : Registry Rehearsal.Stage, build .default 0 (.standard _) = .ok r ∧
      r.collaborators = .standard _ ∧ r.settings.validationEnabled = true ∧ r.listed = [] ∧
      h.servers r.server = .empty ∧ r.validate text = .ok () ∧
      ∃ name, (r.createFromText (LiveAdapter.kind _) text h).answer = .ok name := by
  intro h text
  let r : Registry Rehearsal.Stage := ⟨.default, 0,
    ⟨ObjectName.hostDomain,
      .ofList [("type", "AdapterRegistry"), ("id", ObjectName.defaultRegistryId)], by decide⟩,
    .standard _, none, [], []⟩
  have read : r.unmarshal text = .ok ⟨some "a b", []⟩ := by decide +kernel
  have valid : r.validate text = .ok () := (validate_ok_iff rfl rfl).mpr ⟨_, read, by decide⟩
  refine ⟨r, by rfl, rfl, rfl, rfl, rfl, valid, ?_⟩
  exact (createFromText_ok_iff_validate (r := r) (h := h) rfl rfl rfl rfl (LiveAdapter.kind _)
    text).1.mpr ⟨valid, _, read, by decide⟩

/-- Such a registry finds nothing wrong with an adapter whose id holds a comma, and creates none
from it. -/
theorem validate_ok_createFromText_error :
    let h : Host Rehearsal.Stage (LiveAdapter _) := .new default
    let text := "\x7b\"uniqueId\":\"a,b\"\x7d"
    ∃ r : Registry Rehearsal.Stage, build .default 0 (.standard _) = .ok r ∧
      r.settings.validationEnabled = true ∧ r.listed = [] ∧ h.servers r.server = .empty ∧
      r.validate text = .ok () ∧
      (r.createFromText (LiveAdapter.kind _) text h).answer =
        .error (.management (.malformedName "invalid key property 'id=a,b'")) := by
  intro h text
  let r : Registry Rehearsal.Stage := ⟨.default, 0,
    ⟨ObjectName.hostDomain,
      .ofList [("type", "AdapterRegistry"), ("id", ObjectName.defaultRegistryId)], by decide⟩,
    .standard _, none, [], []⟩
  have read : r.unmarshal text = .ok ⟨some "a,b", []⟩ := by decide +kernel
  have accepted : AdapterDefinition.broken ⟨some "a,b", []⟩ = [] := by decide
  have valid : r.validate text = .ok () := (validate_ok_iff rfl rfl).mpr ⟨_, read, accepted⟩
  refine ⟨r, by rfl, rfl, rfl, rfl, valid, ?_⟩
  rcases createFromText_of_accepted (h := h) (LiveAdapter.kind _) rfl rfl rfl rfl read accepted with
    ⟨unmarked, _⟩ | ⟨_, failed⟩
  · exact absurd unmarked (by decide)
  · exact failed

end Registry

end IntegrationHost
