import IntegrationHost.Proofs.Adapter.Element
import IntegrationHost.Registry.Basic

/-!
# What a check finds

The check of a configuration goes through its elements in document order. It finds every rule that
is broken, at the place where it is broken, and finds it once.
-/

namespace IntegrationHost

namespace Element

/-! ## The faults of one element -/

/-- What is wrong with the id of an element. -/
def idFaults : Option (Option String) → List Fault
  | none => []
  | some none => [.missingId]
  | some (some id) => if Text.isBlank id then [.blankId] else []

/-- What is wrong with the fields of a service. -/
def serviceFaults : Service.Definition → List Fault
  | .simple _ (.addMetadata metadata) =>
    if metadata.keys.any Text.isBlank then [.blankKey] else []
  | .simple _ (.replaceText search _) => if search.isEmpty then [.emptySearch] else []
  | .splitJoin _ poolSize separator _ nested =>
    (if poolSize < 1 then [.noWorkers] else []) ++
      (if separator = some "" then [.emptySeparator] else []) ++
      (if nested.isNone then [.noNested] else [])
  | _ => []

/-- The faults of an element itself, in the order in which they are looked for. -/
def faults : Element → List Fault
  | service d => serviceFaults d
  | e => idFaults e.requiredId ++ (Violation.secondTimes [] e.partIds).map .repeatedId

/-- Services are told apart by their places only. -/
theorem partIds_service (d : Service.Definition) : (service d).partIds = [] := by
  apply List.filterMap_eq_nil_iff.mpr
  intro p member
  match d with
  | .simple _ _ => cases member
  | .list _ services =>
      obtain ⟨index, d, -, rfl⟩ := Lists.exists_of_mem_mapIdx member
      rfl
  | .splitJoin _ _ _ _ nested =>
      obtain ⟨d, -, rfl⟩ := List.mem_map.mp member
      rfl

theorem partIds_workflow (d : WorkflowDefinition) : (workflow d).partIds = [] := by
  apply List.filterMap_eq_nil_iff.mpr
  intro p member
  obtain ⟨index, d, -, rfl⟩ := Lists.exists_of_mem_mapIdx member
  rfl

theorem mem_guarded {broken : Prop} [Decidable broken] {fault named : Fault} :
    fault ∈ (if broken then [named] else []) ↔ broken ∧ fault = named := by
  rw [List.mem_ite_nil_right, List.mem_singleton]

theorem mem_serviceFaults {d : Service.Definition} {fault : Fault} :
    fault ∈ serviceFaults d ↔ (service d).Breaks fault := by
  constructor
  · intro member
    match d with
    | .simple _ (.addMetadata metadata) =>
        obtain ⟨anyBlank, rfl⟩ := mem_guarded.mp member
        obtain ⟨key, inside, blank⟩ := List.any_eq_true.mp anyBlank
        exact .blankKey inside blank
    | .simple _ (.replaceText search _) =>
        obtain ⟨empty, rfl⟩ := mem_guarded.mp member
        obtain rfl := String.isEmpty_iff.mp empty
        exact .emptySearch
    | .splitJoin _ poolSize separator _ nested =>
        simp only [serviceFaults, List.mem_append, mem_guarded] at member
        rcases member with (⟨less, rfl⟩ | ⟨rfl, rfl⟩) | ⟨missing, rfl⟩
        · obtain rfl := Nat.lt_one_iff.mp less
          exact .noWorkers
        · exact .emptySeparator
        · obtain rfl := Option.isNone_iff_eq_none.mp missing
          exact .noNested
    | .simple _ .nothing | .simple _ (.logMessage _) | .simple _ (.alwaysFail _) | .list _ _ =>
        cases member
  · intro breaks
    cases breaks with
    | missingId missing => cases missing
    | blankId given => cases given
    | repeatedId twice => simp [partIds_service] at twice
    | blankKey inside blank =>
        rw [serviceFaults, if_pos (List.any_eq_true.mpr ⟨_, inside, blank⟩)]
        exact List.mem_singleton_self _
    | emptySearch => exact List.mem_singleton_self _
    | noWorkers => simp [serviceFaults]
    | emptySeparator => simp [serviceFaults]
    | noNested => simp [serviceFaults]

theorem mem_idFaults {e : Element} {fault : Fault} (member : fault ∈ idFaults e.requiredId) :
    e.Breaks fault ∧ fault.rank = 0 := by
  match id : e.requiredId with
  | none =>
      rw [id] at member
      cases member
  | some none =>
      rw [id] at member
      obtain rfl := List.mem_singleton.mp member
      exact ⟨.missingId id, rfl⟩
  | some (some text) =>
      rw [id, idFaults, mem_guarded] at member
      obtain ⟨blank, rfl⟩ := member
      exact ⟨.blankId id blank, rfl⟩

theorem mem_repeatedIds {e : Element} {fault : Fault} :
    fault ∈ (Violation.secondTimes [] e.partIds).map Fault.repeatedId ↔
      ∃ id, 2 ≤ e.partIds.count id ∧ fault = .repeatedId id := by
  constructor
  · intro member
    obtain ⟨id, second, rfl⟩ := List.mem_map.mp member
    exact ⟨id, (Violation.mem_secondTimes.mp second).2, rfl⟩
  · rintro ⟨id, twice, rfl⟩
    exact List.mem_map_of_mem (Violation.mem_secondTimes.mpr ⟨by simp, twice⟩)

/-- The faults of an element that is no service. -/
theorem mem_namedFaults {e : Element} (named : ∀ d, e ≠ service d) {fault : Fault} :
    fault ∈ idFaults e.requiredId ++ (Violation.secondTimes [] e.partIds).map Fault.repeatedId ↔
      e.Breaks fault := by
  rw [List.mem_append, mem_repeatedIds]
  constructor
  · rintro (ofId | ⟨id, twice, rfl⟩)
    · exact (mem_idFaults ofId).1
    · exact .repeatedId twice
  · intro breaks
    cases breaks with
    | missingId missing =>
        rw [missing]
        exact Or.inl (List.mem_singleton_self _)
    | blankId given blank =>
        rw [given, idFaults, if_pos blank]
        exact Or.inl (List.mem_singleton_self _)
    | repeatedId twice => exact Or.inr ⟨_, twice, rfl⟩
    | _ => exact absurd rfl (named _)

/-- The faults that are found in an element are the rules that it breaks. -/
theorem mem_faults {e : Element} {fault : Fault} : fault ∈ e.faults ↔ e.Breaks fault := by
  cases e with
  | service d => exact mem_serviceFaults
  | _ => exact mem_namedFaults (by rintro _ ⟨⟩)

theorem namedFaults_ordered (e : Element) :
    (idFaults e.requiredId ++ (Violation.secondTimes [] e.partIds).map Fault.repeatedId).Pairwise
      e.Sooner := by
  rw [List.pairwise_append, List.pairwise_map]
  refine ⟨?_, ?_, ?_⟩
  · match e.requiredId with
    | none => exact .nil
    | some none => exact List.pairwise_singleton _ _
    | some (some text) =>
        rw [idFaults]
        split
        · exact List.pairwise_singleton _ _
        · exact .nil
  · exact (Violation.secondTimes_ordered [] e.partIds).imp fun before => .id before
  · intro fault ofId other ofParts
    obtain ⟨id, -, rfl⟩ := mem_repeatedIds.mp ofParts
    refine .rule ?_
    rw [(mem_idFaults ofId).2]
    exact Nat.zero_lt_one

/-- They are found in order. -/
theorem faults_ordered (e : Element) : e.faults.Pairwise e.Sooner := by
  cases e with
  | service d =>
      have sooner : (serviceFaults d).Pairwise fun fault other => fault.rank < other.rank := by
        match d with
        | .simple _ (.addMetadata _) | .simple _ (.replaceText _ _) =>
            rw [serviceFaults]
            split
            · exact List.pairwise_singleton _ _
            · exact .nil
        | .splitJoin _ _ _ _ _ =>
            rw [serviceFaults]
            split <;> split <;> split <;> decide
        | .simple _ .nothing | .simple _ (.logMessage _) | .simple _ (.alwaysFail _)
        | .list _ _ => exact .nil
      exact sooner.imp fun less => .rule less
  | _ => exact namedFaults_ordered _

/-! ## The walk -/

/-- A walk over a list that checks each item at its own path checks parts. -/
theorem walk_eq {α : Type} (path name : String) (check : String → α → List Violation)
    (walk : Nat → List α → List Violation) (part : Nat → α → Step × Element)
    (nil : ∀ index, walk index [] = [])
    (cons : ∀ index a as, walk index (a :: as) =
      check (itemPath (childPath path name) index) a ++ walk (index + 1) as)
    (segment : ∀ i a, (part i a).1.segment = itemPath name i)
    (checks : ∀ path i a, (part i a).2.violations path = check path a) (as : List α) :
    walk 0 as =
      (as.mapIdx part).flatMap fun p => p.2.violations (childPath path p.1.segment) := by
  have numbered : ∀ index, walk index as = (as.mapIdx fun i => part (index + i)).flatMap fun p =>
      p.2.violations (childPath path p.1.segment) := by
    induction as with
    | nil => exact nil
    | cons a as ih =>
        intro index
        rw [cons, ih, List.mapIdx_cons, List.flatMap_cons, checks, segment, itemPath_childPath]
        simp only [Nat.add_assoc, Nat.add_comm 1]
        rfl
  simpa only [Nat.zero_add] using numbered 0

theorem nonBlank_eq (e : Element) (path : String) {id : Option String}
    (required : e.requiredId = some id) :
    Violation.nonBlank (childPath path "uniqueId") id =
      (idFaults e.requiredId).map (·.violation e path) := by
  rw [required]
  cases id with
  | none => rfl
  | some text =>
      rw [Violation.nonBlank, idFaults]
      split <;> rfl

/-- The checks of ids find the faults of an element that is no service. -/
theorem ids_eq (e : Element) (path : String) {id : Option String} {ids : List String}
    (required : e.requiredId = some id) (named : e.partIds = ids) :
    Violation.nonBlank (childPath path "uniqueId") id ++
        Violation.repeated (childPath path e.partsField) ids =
      (idFaults e.requiredId ++
        (Violation.secondTimes [] e.partIds).map Fault.repeatedId).map (·.violation e path) := by
  rw [List.map_append, nonBlank_eq e path required, ← named, Violation.repeated_eq, List.map_map]
  rfl

theorem partIds_adapter (d : AdapterDefinition) :
    (adapter d).partIds = d.channels.filterMap ChannelDefinition.uniqueId := by
  apply Lists.filterMap_mapIdx
  exact fun _ _ => rfl

theorem partIds_channel (d : ChannelDefinition) :
    (channel d).partIds = d.workflows.filterMap WorkflowDefinition.uniqueId := by
  apply Lists.filterMap_mapIdx
  exact fun _ _ => rfl

theorem map_guarded {broken : Prop} [Decidable broken] (fault : Fault)
    (report : Fault → Violation) :
    (if broken then [fault] else []).map report = if broken then [report fault] else [] := by
  split <;> rfl

theorem violations_service (d : Service.Definition) (path : String) :
    d.violations path = (serviceFaults d).map (·.violation (service d) path) ++
      (service d).parts.flatMap fun p => p.2.violations (childPath path p.1.segment) := by
  match d with
  | .simple _ (.addMetadata _) | .simple _ (.replaceText _ _) =>
      rw [serviceFaults, map_guarded, parts, List.flatMap_nil, List.append_nil]
      rfl
  | .simple _ .nothing | .simple _ (.logMessage _) | .simple _ (.alwaysFail _) => rfl
  | .list _ services =>
      exact walk_eq path "services" Service.Definition.violations
        (Service.Definition.listViolations (childPath path "services"))
        (fun i d => (.service i, service d))
        (fun _ => rfl) (fun _ _ _ => rfl) (fun _ _ => rfl) (fun _ _ _ => rfl) services
  | .splitJoin _ poolSize separator _ nested =>
      rw [serviceFaults, List.map_append, List.map_append, map_guarded, map_guarded, map_guarded]
      cases nested with
      | none =>
          rw [parts, Option.toList_none, List.map_nil, List.flatMap_nil, List.append_nil]
          rfl
      | some nested =>
          rw [parts, Option.toList_some, List.map_singleton, List.flatMap_singleton,
            Option.isNone_some, if_neg Bool.false_ne_true, List.append_nil]
          rfl

/-- A check of an element reports its own faults, and then those of its parts. -/
theorem violations_eq (e : Element) (path : String) :
    e.violations path = e.faults.map (·.violation e path) ++
      e.parts.flatMap fun p => p.2.violations (childPath path p.1.segment) := by
  match e with
  | adapter d =>
      have ids := ids_eq (adapter d) path rfl (partIds_adapter d)
      have walk := walk_eq path "channels" ChannelDefinition.violations
        (AdapterDefinition.channelViolations (childPath path "channels"))
        (fun i d => (.channel i, channel d))
        (fun _ => rfl) (fun _ _ _ => rfl) (fun _ _ => rfl) (fun _ _ _ => rfl) d.channels
      exact congrArg₂ (· ++ ·) ids walk
  | channel d =>
      have ids := ids_eq (channel d) path rfl (partIds_channel d)
      have walk := walk_eq path "workflows" WorkflowDefinition.violations
        (ChannelDefinition.workflowViolations (childPath path "workflows"))
        (fun i d => (.workflow i, workflow d))
        (fun _ => rfl) (fun _ _ _ => rfl) (fun _ _ => rfl) (fun _ _ _ => rfl) d.workflows
      exact congrArg₂ (· ++ ·) ids walk
  | workflow d =>
      have ids := ids_eq (workflow d) path rfl (partIds_workflow d)
      have walk := walk_eq path "services" Service.Definition.violations
        (Service.Definition.listViolations (childPath path "services"))
        (fun i d => (.service i, service d))
        (fun _ => rfl) (fun _ _ _ => rfl) (fun _ _ => rfl) (fun _ _ _ => rfl) d.services
      rw [Violation.repeated_eq, Violation.secondTimes, List.map_nil, List.append_nil] at ids
      exact congrArg₂ (· ++ ·) ids walk
  | service d => exact violations_service d path

/-! ## Findings -/

/-- A rule that is broken, and the element that breaks it. -/
structure Finding where
  position : List Step
  element : Element
  fault : Fault

namespace Finding

/-- What is reported of it when the check begins at a path. -/
def violation (root : String) (f : Finding) : Violation :=
  f.fault.violation f.element (Step.place root f.position)

/-- What is found in a part, seen from the whole. -/
def under (step : Step) (f : Finding) : Finding :=
  { f with position := step :: f.position }

/-- The order of the document: an element comes before its parts and these come by their numbers;
what is found in the same element comes in the order of its rules. -/
inductive Before (f g : Finding) : Prop where
  | place (earlier : List.Lex (fun step other : Step => step.index < other.index)
      f.position g.position)
  | rule (same : f.position = g.position) (sooner : f.element.Sooner f.fault g.fault)

theorem before_irrefl (f : Finding) : ¬ f.Before f := by
  rintro (earlier | ⟨-, sooner⟩)
  · exact List.lex_irrefl (fun step => Nat.lt_irrefl step.index) f.position earlier
  · exact f.element.sooner_irrefl f.fault sooner

theorem Before.under {f g : Finding} (before : f.Before g) (step : Step) :
    (f.under step).Before (g.under step) := by
  rcases before with earlier | ⟨same, sooner⟩
  · exact .place (.cons earlier)
  · exact .rule (congrArg (step :: ·) same) sooner

end Finding

/-- What is found in an element. -/
def findings (e : Element) : List Finding :=
  e.faults.map (fun fault => ⟨[], e, fault⟩) ++
    e.parts.attach.flatMap fun p => p.1.2.findings.map (.under p.1.1)
termination_by sizeOf e
decreasing_by exact sizeOf_part_lt p.2

/-- What is found in a part, seen from the whole. -/
def partFindings (p : Step × Element) : List Finding :=
  p.2.findings.map (.under p.1)

/-- What is found in an element itself comes first. -/
theorem findings_eq (e : Element) :
    e.findings = e.faults.map (fun fault => ⟨[], e, fault⟩) ++
      e.parts.flatMap partFindings := by
  rw [findings, List.flatMap_subtype (g := partFindings), List.unattach_attach]
  exact fun _ _ => rfl

/-- A check reports what is found. -/
theorem violations_eq_map (e : Element) (root : String) :
    e.violations root = e.findings.map (·.violation root) := by
  induction e using findings.induct generalizing root with
  | _ e ih =>
      rw [violations_eq, findings_eq, List.map_append, List.map_map, List.map_flatMap]
      refine congrArg₂ (· ++ ·) rfl (List.flatMap_congr fun p member => ?_)
      rw [ih ⟨p, member⟩, partFindings, List.map_map]
      rfl

/-- What is found is every rule that is broken, where it is broken. -/
theorem mem_findings {e : Element} {f : Finding} :
    f ∈ e.findings ↔ e.Holds f.position f.element ∧ f.element.Breaks f.fault := by
  induction e using findings.induct generalizing f with
  | _ e ih =>
      rw [findings_eq, List.mem_append, List.mem_map, List.mem_flatMap]
      constructor
      · rintro (⟨fault, member, rfl⟩ | ⟨p, member, inside⟩)
        · exact ⟨.self e, mem_faults.mp member⟩
        · obtain ⟨g, found, rfl⟩ := List.mem_map.mp inside
          obtain ⟨holds, breaks⟩ := (ih ⟨p, member⟩).mp found
          exact ⟨.part member holds, breaks⟩
      · rcases f with ⟨position, element, fault⟩
        rintro ⟨holds, breaks⟩
        cases holds with
        | self => exact Or.inl ⟨fault, mem_faults.mpr breaks, rfl⟩
        | @part _ part _ step position member inside =>
            refine Or.inr ⟨(step, part), member, List.mem_map.mpr ?_⟩
            refine ⟨⟨position, element, fault⟩, ?_, rfl⟩
            exact (ih ⟨(step, part), member⟩).mpr ⟨inside, breaks⟩

/-- It is found in document order. -/
theorem findings_ordered (e : Element) : e.findings.Pairwise Finding.Before := by
  induction e using findings.induct with
  | _ e ih =>
      rw [findings_eq, List.pairwise_append, List.pairwise_map, List.pairwise_flatMap]
      refine ⟨e.faults_ordered.imp fun sooner => .rule rfl sooner, ⟨?_, ?_⟩, ?_⟩
      · intro p member
        rw [partFindings, List.pairwise_map]
        exact (ih ⟨p, member⟩).imp fun before => before.under p.1
      · refine e.parts_ordered.imp fun less f found g later => ?_
        obtain ⟨f, -, rfl⟩ := List.mem_map.mp found
        obtain ⟨g, -, rfl⟩ := List.mem_map.mp later
        exact .place (.rel less)
      · intro f own g found
        obtain ⟨fault, -, rfl⟩ := List.mem_map.mp own
        obtain ⟨p, -, inside⟩ := List.mem_flatMap.mp found
        obtain ⟨g, -, rfl⟩ := List.mem_map.mp inside
        exact .place .nil

/-- Nothing is reported twice. -/
theorem violations_nodup (e : Element) (root : String) : (e.violations root).Nodup := by
  have distinct : e.findings.Nodup := e.findings_ordered.imp fun {f g} before same => by
    subst same
    exact f.before_irrefl before
  rw [violations_eq_map]
  refine distinct.map_on fun f found g foundToo same => ?_
  obtain ⟨holds, -⟩ := mem_findings.mp found
  obtain ⟨otherHolds, -⟩ := mem_findings.mp foundToo
  rcases f with ⟨position, element, fault⟩
  rcases g with ⟨otherPosition, other, otherFault⟩
  obtain ⟨paths, messages⟩ := Violation.mk.inj same
  obtain ⟨rfl, fields⟩ :=
    Step.place_inj (fault.field_plain element) (otherFault.field_plain other) paths
  obtain rfl := holds.unique otherHolds
  rw [Fault.eq_of_field_of_message fields messages]

/-- Nothing is reported when no rule is broken, and only then. -/
theorem violations_eq_nil_iff (e : Element) (root : String) :
    e.violations root = [] ↔
      ∀ position part, e.Holds position part → ∀ fault, ¬ part.Breaks fault := by
  rw [violations_eq_map, List.map_eq_nil_iff, List.eq_nil_iff_forall_not_mem]
  constructor
  · intro none position part holds fault breaks
    exact none ⟨position, part, fault⟩ (mem_findings.mpr ⟨holds, breaks⟩)
  · intro none f found
    obtain ⟨holds, breaks⟩ := mem_findings.mp found
    exact none f.position f.element holds f.fault breaks

/-- What is found in a part stands together, and is found wherever the part stands. -/
theorem findings_inside {e part : Element} {position : List Step} (holds : e.Holds position part) :
    ∃ before inside after, e.findings = before ++ inside ++ after ∧
      (∀ root, inside.map (·.violation root) = part.violations (Step.place root position)) ∧
      ∀ f ∈ before ++ after, ¬ position <+: f.position := by
  induction holds with
  | self e =>
      refine ⟨[], e.findings, [], by simp, fun root => ?_, nofun⟩
      exact (e.violations_eq_map root).symm
  | @part e part target step position member _ ih =>
      obtain ⟨before, inside, after, found, same, apart⟩ := ih
      obtain ⟨earlier, later, parts_eq⟩ := List.append_of_mem member
      have otherSteps : ∀ p ∈ earlier ++ later, p.1 ≠ step := by
        have distinct := e.steps_nodup
        rw [parts_eq, List.map_append, List.map_cons, List.nodup_middle, ← List.map_append]
          at distinct
        intro p other same
        have among : p.1 ∈ (earlier ++ later).map Prod.fst := List.mem_map_of_mem other
        rw [same] at among
        exact (List.nodup_cons.mp distinct).1 among
      refine ⟨e.faults.map (fun fault => ⟨[], e, fault⟩) ++
          earlier.flatMap partFindings ++ before.map (.under step),
        inside.map (.under step), after.map (.under step) ++ later.flatMap partFindings,
        ?_, fun root => ?_, ?_⟩
      · rw [findings_eq, parts_eq, List.flatMap_append, List.flatMap_cons, partFindings, found]
        simp only [List.map_append, List.append_assoc]
      · rw [List.map_map, Step.place_cons, ← same]
        rfl
      · have elsewhere : ∀ ps : List (Step × Element), (∀ p ∈ ps, p ∈ earlier ++ later) →
            ∀ f ∈ ps.flatMap partFindings, ¬ step :: position <+: f.position := by
          intro ps others f member reached
          obtain ⟨p, inPs, inPart⟩ := List.mem_flatMap.mp member
          obtain ⟨g, -, rfl⟩ := List.mem_map.mp inPart
          exact otherSteps p (others p inPs) (List.cons_prefix_cons.mp reached).1.symm
        have beside : ∀ fs : List Finding, (∀ f ∈ fs, f ∈ before ++ after) →
            ∀ f ∈ fs.map (Finding.under step), ¬ step :: position <+: f.position := by
          intro fs others f member reached
          obtain ⟨g, inFs, rfl⟩ := List.mem_map.mp member
          exact apart g (others g inFs) (List.cons_prefix_cons.mp reached).2
        simp only [List.forall_mem_append]
        refine ⟨⟨⟨?_, elsewhere earlier fun p member => List.mem_append_left _ member⟩,
          beside before fun f member => List.mem_append_left _ member⟩,
          beside after fun f member => List.mem_append_right _ member,
          elsewhere later fun p member => List.mem_append_right _ member⟩
        intro f own reached
        obtain ⟨fault, -, rfl⟩ := List.mem_map.mp own
        exact List.cons_ne_nil _ _ (List.prefix_nil.mp reached)

end Element

theorem Registry.accept_iff {broken : List Violation} : accept broken = .ok () ↔ broken = [] := by
  cases broken with
  | nil => exact ⟨fun _ => rfl, fun _ => rfl⟩
  | cons v rest => exact ⟨nofun, nofun⟩

namespace AdapterDefinition

/-- The violations of an adapter are reported one by one for the rules that are broken, at the
elements that break them, in document order, and no two are the same. So nothing is reported exactly
when no rule is broken. What is reported for a part is what a check of the part alone reports, and
stands together. -/
theorem violations_exact (d : AdapterDefinition) (root : String) :
    ∃ findings : List Element.Finding,
      d.violations root = findings.map (·.violation root) ∧
      (∀ f, f ∈ findings ↔
        (Element.adapter d).Holds f.position f.element ∧ f.element.Breaks f.fault) ∧
      findings.Pairwise Element.Finding.Before ∧
      (d.violations root).Nodup ∧
      (Registry.accept (d.violations root) = .ok () ↔
        ∀ position part, (Element.adapter d).Holds position part → ∀ fault, ¬ part.Breaks fault) ∧
      ∀ position part, (Element.adapter d).Holds position part →
        ∃ before inside after, findings = before ++ inside ++ after ∧
          inside.map (·.violation root) = part.violations (Element.Step.place root position) ∧
          ∀ f ∈ before ++ after, ¬ position <+: f.position := by
  have reported := Element.violations_eq_map (.adapter d) root
  refine ⟨(Element.adapter d).findings, reported, fun f => Element.mem_findings,
    Element.findings_ordered _, Element.violations_nodup (.adapter d) root, ?_, ?_⟩
  · exact Registry.accept_iff.trans (Element.violations_eq_nil_iff (.adapter d) root)
  · intro position part holds
    obtain ⟨before, inside, after, found, same, apart⟩ := Element.findings_inside holds
    exact ⟨before, inside, after, found, same root, apart⟩

example :
    (AdapterDefinition.mk none [⟨some "a", true, []⟩,
      ⟨some "a", true, [⟨some " ", [.list none [.splitJoin none 0 none none none]]⟩]⟩]).violations
        "" =
      [⟨"uniqueId", "may not be null"⟩, ⟨"channels", "duplicate uniqueId a"⟩,
        ⟨"channels[1].workflows[0].uniqueId", "may not be blank"⟩,
        ⟨"channels[1].workflows[0].services[0].services[0].poolSize",
          "must be greater than or equal to 1"⟩,
        ⟨"channels[1].workflows[0].services[0].services[0].service", "may not be null"⟩] := by
  decide

end AdapterDefinition

end IntegrationHost
