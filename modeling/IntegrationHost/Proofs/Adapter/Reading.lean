import IntegrationHost.Proofs.Adapter.Configuration

/-!
# Definitions that were read

The reader takes no size or time that does not fit 64 bits. So every definition that was read from
a text is read back from its own text, as far as the reader goes into it.
-/

namespace IntegrationHost

namespace Service.Definition

theorem allFit_iff {services : List Definition} :
    AllFit services ↔ ∀ d ∈ services, d.Fits := by
  induction services with
  | nil => simp [AllFit]
  | cons d rest ih => simp [AllFit, ih]

theorem nestedFits_iff {service : Option Definition} :
    NestedFits service ↔ ∀ d ∈ service, d.Fits := by
  cases service <;> simp [NestedFits]

/-- The sizes and times of a service that was read fit. -/
theorem fits_of_ofJsonWithin {levels : Nat} {json : Json} {d : Definition}
    (read : ofJsonWithin levels json = some d) : d.Fits := by
  induction levels generalizing json d with
  | zero => cases read
  | succ levels ih =>
      cases json with
      | object members =>
          rw [ofJsonWithin] at read
          obtain ⟨head, _, read⟩ := Option.bind_eq_some_iff.mp read
          obtain ⟨id, _, read⟩ := Option.bind_eq_some_iff.mp read
          obtain ⟨kind, _, read⟩ := Option.bind_eq_some_iff.mp read
          obtain ⟨fields, _, read⟩ := Option.bind_eq_some_iff.mp read
          cases kind with
          | nullService =>
              cases read
              trivial
          | addMetadata =>
              obtain ⟨metadata, _, given⟩ := Option.bind_eq_some_iff.mp read
              cases given
              trivial
          | replaceText =>
              obtain ⟨search, _, read⟩ := Option.bind_eq_some_iff.mp read
              obtain ⟨replacement, _, given⟩ := Option.bind_eq_some_iff.mp read
              cases given
              trivial
          | logMessage =>
              obtain ⟨lead, _, given⟩ := Option.bind_eq_some_iff.mp read
              cases given
              trivial
          | alwaysFail =>
              obtain ⟨message, _, given⟩ := Option.bind_eq_some_iff.mp read
              cases given
              trivial
          | serviceList =>
              obtain ⟨services, listed, given⟩ := Option.bind_eq_some_iff.mp read
              cases given
              refine allFit_iff.mpr fun d member => ?_
              obtain ⟨inner, readInner⟩ := Json.items_cases listed d member
              exact ih readInner
          | splitJoin =>
              obtain ⟨size, sizeRead, read⟩ := Option.bind_eq_some_iff.mp read
              obtain ⟨separator, _, read⟩ := Option.bind_eq_some_iff.mp read
              obtain ⟨timeout, timeoutRead, read⟩ := Option.bind_eq_some_iff.mp read
              obtain ⟨service, serviceRead, given⟩ := Option.bind_eq_some_iff.mp read
              cases given
              refine ⟨?_, fun ms member => ?_, nestedFits_iff.mpr fun d member => ?_⟩
              · rcases Json.field?_cases sizeRead with rfl | ⟨value, found⟩
                · decide
                · exact Json.lt_of_nat64? found
              · obtain ⟨value, found⟩ := Json.optional?_cases timeoutRead ms member
                exact Json.lt_of_nat64? found
              · obtain ⟨value, found⟩ := Json.optional?_cases serviceRead d member
                exact ih found
      | _ => cases read

theorem fits_of_ofJson? {level : Nat} {json : Json} {d : Definition}
    (read : ofJson? level json = some d) : d.Fits := by
  unfold ofJson? at read
  split at read
  · exact fits_of_ofJsonWithin read
  · cases read

end Service.Definition

theorem WorkflowDefinition.fits_of_ofJson? {level : Nat} {json : Json} {d : WorkflowDefinition}
    (read : ofJson? level json = some d) : d.Fits := by
  obtain ⟨fields, _, read⟩ := Option.bind_eq_some_iff.mp read
  obtain ⟨id, _, read⟩ := Option.bind_eq_some_iff.mp read
  obtain ⟨services, listed, given⟩ := Option.bind_eq_some_iff.mp read
  cases given
  intro service member
  obtain ⟨inner, readInner⟩ := Json.items_cases listed service member
  exact Service.Definition.fits_of_ofJson? readInner

theorem ChannelDefinition.fits_of_ofJson? {level : Nat} {json : Json} {d : ChannelDefinition}
    (read : ofJson? level json = some d) : d.Fits := by
  obtain ⟨fields, _, read⟩ := Option.bind_eq_some_iff.mp read
  obtain ⟨id, _, read⟩ := Option.bind_eq_some_iff.mp read
  obtain ⟨autoStart, _, read⟩ := Option.bind_eq_some_iff.mp read
  obtain ⟨workflows, listed, given⟩ := Option.bind_eq_some_iff.mp read
  cases given
  intro workflow member
  obtain ⟨inner, readInner⟩ := Json.items_cases listed workflow member
  exact WorkflowDefinition.fits_of_ofJson? readInner

theorem AdapterDefinition.fits_of_ofJson? {json : Json} {d : AdapterDefinition}
    (read : ofJson? json = some d) : d.Fits := by
  obtain ⟨fields, _, read⟩ := Option.bind_eq_some_iff.mp read
  obtain ⟨id, _, read⟩ := Option.bind_eq_some_iff.mp read
  obtain ⟨channels, listed, given⟩ := Option.bind_eq_some_iff.mp read
  cases given
  intro channel member
  obtain ⟨inner, readInner⟩ := Json.items_cases listed channel member
  exact ChannelDefinition.fits_of_ofJson? readInner

namespace Config.Marshaller

/-- A text is read as a definition if the value that it spells is. -/
theorem json_unmarshal_eq_ok_iff {text : String} {d : AdapterDefinition} :
    json.unmarshal text = .ok d ↔
      ∃ value, Json.read? text = some value ∧ AdapterDefinition.ofJson? value = some d := by
  rw [← Option.bind_eq_some_iff]
  dsimp only [json, ofJson]
  cases (Json.read? text).bind AdapterDefinition.ofJson? with
  | none => simp
  | some definition => simp

/-- A definition that was read from a text is read again from its own text, and a line end behind
it, if no more arrays and objects stand around each other than the reader takes. -/
theorem json_unmarshal_line {text : String} {d : AdapterDefinition}
    (read : json.unmarshal text = .ok d)
    (deep : d.toJson.depth ≤ Service.Definition.nestingLimit) :
    json.unmarshal (json.marshal d ++ "\n") = .ok d := by
  obtain ⟨value, _, given⟩ := json_unmarshal_eq_ok_iff.mp read
  have fits : d.Fits := AdapterDefinition.fits_of_ofJson? given
  have blank : ∀ c ∈ "\n".toList, Json.isSpace c = true := List.forall_mem_singleton.mpr (by decide)
  exact json_unmarshal_eq_ok_iff.mpr
    ⟨d.toJson, Json.read?_pretty_blank (AdapterDefinition.legible_toJson fits) blank,
      AdapterDefinition.ofJson?_toJson fits deep⟩

end Config.Marshaller

end IntegrationHost
