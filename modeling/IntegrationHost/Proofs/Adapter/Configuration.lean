import IntegrationHost.Config.Marshaller
import IntegrationHost.Proofs.Service.Configuration

/-!
# Adapter definitions written and read

Reading the text of an adapter definition gives the definition back, whatever texts stand in it and
however its services are nested, as far as the reader goes into a text.
-/

namespace IntegrationHost

namespace WorkflowDefinition

/-- The sizes and times of all services fit 64 bits. -/
def Fits (d : WorkflowDefinition) : Prop :=
  ∀ service ∈ d.services, service.Fits

theorem legible_toJson {d : WorkflowDefinition} (fits : d.Fits) :
    d.toJson.Legible Numeral.Written := by
  rw [toJson, Json.legible_ofMembers, List.forall_mem_append, List.forall_mem_singleton]
  refine ⟨Json.legible_optional _ fun s _ => Json.legible_ofString s, ?_⟩
  rw [Json.Legible, Json.legibleItems_iff, Service.Definition.listJson_eq_map, List.forall_mem_map]
  exact fun service member =>
    service.legible_toJson (fun n _ => Numeral.written_ofNat n) (fits service member)

/-- A workflow is read back where it stands, when what stands around it leaves levels enough. -/
theorem ofJson?_toJson {d : WorkflowDefinition} (fits : d.Fits) {level : Nat}
    (deep : level + d.toJson.depth ≤ Service.Definition.nestingLimit) :
    ofJson? level d.toJson = some d := by
  rw [toJson, Service.Definition.listJson_eq_map] at deep ⊢
  have services : Json.list? (Service.Definition.ofJson? (level + 2))
      (.array (d.services.map Service.Definition.toJson)) = some d.services := by
    apply Json.list?_map
    intro service member
    have inside := Json.depth_listed Service.Definition.toJson member
      (Json.optional "uniqueId" (d.uniqueId.map .ofString)) "services"
    exact Service.Definition.ofJson?_toJson (fits service member) (by omega)
  rw [ofJson?, Json.record?_optional _ (by decide) (by exact List.Sublist.refl _)]
  simp only [Option.bind_eq_bind, Option.bind_some]
  rw [Json.optional?_text rfl, Json.field?_eq _ (Json.lookup_optional_other (by decide) _ _),
    services]
  rfl

end WorkflowDefinition

namespace ChannelDefinition

/-- The sizes and times of all services fit 64 bits. -/
def Fits (d : ChannelDefinition) : Prop :=
  ∀ workflow ∈ d.workflows, workflow.Fits

theorem legible_toJson {d : ChannelDefinition} (fits : d.Fits) :
    d.toJson.Legible Numeral.Written := by
  rw [toJson, Json.legible_ofMembers, List.forall_mem_append, List.forall_mem_cons,
    List.forall_mem_singleton]
  refine ⟨Json.legible_optional _ fun s _ => Json.legible_ofString s, trivial, ?_⟩
  rw [Json.Legible, Json.legibleItems_iff, List.forall_mem_map]
  exact fun workflow member => WorkflowDefinition.legible_toJson (fits workflow member)

/-- A channel is read back where it stands, when what stands around it leaves levels enough. -/
theorem ofJson?_toJson {d : ChannelDefinition} (fits : d.Fits) {level : Nat}
    (deep : level + d.toJson.depth ≤ Service.Definition.nestingLimit) :
    ofJson? level d.toJson = some d := by
  have workflows : Json.list? (WorkflowDefinition.ofJson? (level + 2))
      (.array (d.workflows.map WorkflowDefinition.toJson)) = some d.workflows := by
    apply Json.list?_map
    intro workflow member
    have listed := Json.depth_listed WorkflowDefinition.toJson member
      (Json.optional "uniqueId" (d.uniqueId.map .ofString) ++ [("autoStart", .bool d.autoStart)])
      "workflows"
    rw [List.append_assoc] at listed
    have inside : workflow.toJson.depth + 2 ≤ d.toJson.depth := listed
    exact WorkflowDefinition.ofJson?_toJson (fits workflow member) (by omega)
  rw [toJson, ofJson?, Json.record?_optional _ (by decide) (by exact List.Sublist.refl _)]
  simp only [Option.bind_eq_bind, Option.bind_some]
  rw [Json.optional?_text rfl, Json.field?_eq _ (Json.lookup_optional_other (by decide) _ _),
    Json.field?_eq _ (Json.lookup_optional_other (by decide) _ _), workflows]
  rfl

end ChannelDefinition

namespace AdapterDefinition

/-- The sizes and times of all services fit 64 bits. -/
def Fits (d : AdapterDefinition) : Prop :=
  ∀ channel ∈ d.channels, channel.Fits

theorem legible_toJson {d : AdapterDefinition} (fits : d.Fits) :
    d.toJson.Legible Numeral.Written := by
  rw [toJson, Json.legible_ofMembers, List.forall_mem_append, List.forall_mem_singleton]
  refine ⟨Json.legible_optional _ fun s _ => Json.legible_ofString s, ?_⟩
  rw [Json.Legible, Json.legibleItems_iff, List.forall_mem_map]
  exact fun channel member => ChannelDefinition.legible_toJson (fits channel member)

/-- An adapter is read back from the object it is written as. -/
theorem ofJson?_toJson {d : AdapterDefinition} (fits : d.Fits)
    (deep : d.toJson.depth ≤ Service.Definition.nestingLimit) : ofJson? d.toJson = some d := by
  rw [toJson] at deep ⊢
  have channels : Json.list? (ChannelDefinition.ofJson? 2)
      (.array (d.channels.map ChannelDefinition.toJson)) = some d.channels := by
    apply Json.list?_map
    intro channel member
    have inside := Json.depth_listed ChannelDefinition.toJson member
      (Json.optional "uniqueId" (d.uniqueId.map .ofString)) "channels"
    exact ChannelDefinition.ofJson?_toJson (fits channel member) (by omega)
  rw [ofJson?, Json.record?_optional _ (by decide) (by exact List.Sublist.refl _)]
  simp only [Option.bind_eq_bind, Option.bind_some]
  rw [Json.optional?_text rfl, Json.field?_eq _ (Json.lookup_optional_other (by decide) _ _),
    channels]
  rfl

end AdapterDefinition

namespace Config.Marshaller

/-- A definition is read back from its text, if its sizes and times fit 64 bits and no more arrays
and objects stand around each other than the reader takes. -/
theorem json_unmarshal_marshal (d : AdapterDefinition) (fits : d.Fits)
    (deep : d.toJson.depth ≤ Service.Definition.nestingLimit) :
    json.unmarshal (json.marshal d) = .ok d := by
  have text := Json.read?_pretty (AdapterDefinition.legible_toJson fits)
  simp only [json, ofJson, text, Option.bind_some, AdapterDefinition.ofJson?_toJson fits deep]

/-- One service of each kind, with texts of all sorts and the greatest numbers there are. -/
def variety : AdapterDefinition :=
  ⟨some "prüfung \x22\n\x5c\t", [⟨none, false, [⟨some "", [
    .simple none .nothing,
    .simple (some "a") (.addMetadata (Dictionary.empty.insert "ключ" "値 \x01")),
    .list (some "\x7f") [.simple (some " ") (.logMessage ""), .list none []],
    .splitJoin none 18446744073709551615 (some "") (some 18446744073709551615)
      (some (.splitJoin (some "𝔰") 0 none none (some (.simple none (.replaceText "" "/"))))),
    .splitJoin none 1 none none none,
    .simple none (.alwaysFail "\u2028")]⟩]⟩]⟩

theorem json_unmarshal_marshal_variety :
    json.unmarshal (json.marshal variety) = .ok variety := by
  apply json_unmarshal_marshal
  · simp [variety, AdapterDefinition.Fits, ChannelDefinition.Fits, WorkflowDefinition.Fits,
      Service.Definition.Fits, Service.Definition.AllFit, Service.Definition.NestedFits,
      Numeral.nat64Bound]
  · decide

end Config.Marshaller

end IntegrationHost
