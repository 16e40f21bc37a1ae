import IntegrationHost.Proofs.Json.Record
import IntegrationHost.Service.Definition
import Mathlib.Data.List.Nodup

/-!
# Service definitions written and read

A service definition is read back from the object it is written as, when its sizes and times fit 64
bits and the object is no deeper than the reader goes.
-/

namespace IntegrationHost.Service

theorem Kind.ofJson?_name (kind : Kind) : ofJson? (.ofString kind.name) = some kind := by
  cases kind <;> rfl

/-- No kind has a field of the name of one that all kinds have, or two of the same name. -/
theorem Kind.nodup_fields (kind : Kind) : (["uniqueId", "type"] ++ kind.fields).Nodup := by
  cases kind <;> decide

namespace Definition

mutual

/-- The sizes and times of the definition, at every depth, fit 64 bits. -/
def Fits : Definition → Prop
  | simple _ _ => True
  | list _ services => AllFit services
  | splitJoin _ poolSize _ timeout service =>
    poolSize < Numeral.nat64Bound ∧ (∀ ms ∈ timeout, ms < Numeral.nat64Bound) ∧ NestedFits service

/-- All definitions fit. -/
def AllFit : List Definition → Prop
  | [] => True
  | d :: rest => d.Fits ∧ AllFit rest

/-- A nested service fits, or there is none. -/
def NestedFits : Option Definition → Prop
  | none => True
  | some d => d.Fits

end

theorem listJson_eq_map (services : List Definition) : listJson services = services.map toJson := by
  induction services with
  | nil => rfl
  | cons d rest ih => rw [listJson, ih, List.map_cons]

theorem nestedJson_eq_map (service : Option Definition) :
    nestedJson service = service.map toJson := by
  cases service <;> rfl

/-! ## What is written -/

section

variable {number : Numeral → Prop}

theorem legible_headMembers (id : Option String) (kind : Kind) :
    ∀ m ∈ headMembers id kind, m.2.Legible number := by
  rw [headMembers, List.forall_mem_append, List.forall_mem_singleton]
  exact ⟨Json.legible_optional _ fun s _ => Json.legible_ofString s, Json.legible_ofString _⟩

theorem legible_taskMembers (task : Task) : ∀ m ∈ taskMembers task, m.2.Legible number := by
  cases task with
  | nothing => exact List.forall_mem_nil _
  | addMetadata metadata =>
      exact List.forall_mem_singleton.mpr (Json.legible_ofDictionary metadata)
  | replaceText search replacement =>
      exact List.forall_mem_cons.mpr ⟨rfl, List.forall_mem_singleton.mpr rfl⟩
  | logMessage lead => exact List.forall_mem_singleton.mpr rfl
  | alwaysFail message => exact List.forall_mem_singleton.mpr rfl

mutual

/-- A definition that fits is written in text and in numbers of 64 bits. -/
theorem legible_toJson (whole : ∀ n < Numeral.nat64Bound, number (.ofNat n)) :
    ∀ d : Definition, d.Fits → d.toJson.Legible number
  | simple id task, _ => by
      rw [toJson, Json.legible_ofMembers, List.forall_mem_append]
      exact ⟨legible_headMembers id _, legible_taskMembers task⟩
  | list id services, fits => by
      rw [toJson, Json.legible_ofMembers, List.forall_mem_append, List.forall_mem_singleton]
      refine ⟨legible_headMembers id _, ?_⟩
      rw [Json.Legible, Json.legibleItems_iff, listJson_eq_map]
      rintro _ member
      obtain ⟨d, inside, rfl⟩ := List.mem_map.mp member
      exact legible_listJson whole services fits d inside
  | splitJoin id poolSize separator timeout service, ⟨sizeFits, timeFits, nestedFits⟩ => by
      rw [toJson, nestedJson_eq_map, Json.legible_ofMembers]
      simp only [List.forall_mem_append, List.forall_mem_singleton]
      refine ⟨⟨⟨⟨legible_headMembers id _, whole poolSize sizeFits⟩, ?_⟩, ?_⟩, ?_⟩
      · exact Json.legible_optional _ fun s _ => Json.legible_ofString s
      · exact Json.legible_optional _ fun ms given => whole ms (timeFits ms given)
      · exact Json.legible_optional _ (legible_nestedJson whole service nestedFits)

theorem legible_listJson (whole : ∀ n < Numeral.nat64Bound, number (.ofNat n)) :
    ∀ services : List Definition, AllFit services → ∀ d ∈ services, d.toJson.Legible number
  | [], _ => List.forall_mem_nil _
  | d :: rest, ⟨fits, restFit⟩ =>
      List.forall_mem_cons.mpr
        ⟨legible_toJson whole d fits, legible_listJson whole rest restFit⟩

theorem legible_nestedJson (whole : ∀ n < Numeral.nat64Bound, number (.ofNat n)) :
    ∀ service : Option Definition, NestedFits service → ∀ d ∈ service, d.toJson.Legible number
  | none, _ => nofun
  | some d, fits => by
      rintro _ ⟨⟩
      exact legible_toJson whole d fits

end

end

/-! ## What is read -/

section

variable (id : Option String) {kind : Kind} {own : List (String × Json)}

theorem names_headMembers (kind : Kind) :
    ((headMembers id kind).map Prod.fst).Sublist ["uniqueId", "type"] := by
  rw [headMembers, List.map_append]
  exact (Json.names_optional "uniqueId" _).append (List.Sublist.refl ["type"])

/-- The fields of all kinds are found among the members of a definition. -/
theorem knownMembers?_head (named : (own.map Prod.fst).Sublist kind.fields) :
    Json.knownMembers? ["uniqueId", "type"]
      ((headMembers id kind ++ own).map fun m => (some m.1, m.2)) = some (headMembers id kind) := by
  have names := names_headMembers id kind
  refine Json.knownMembers?_eq (by decide) names ?_
  rw [List.filter_append, Json.filter_eq_self_of_named names,
    Json.filter_eq_nil_of_named named (List.disjoint_of_nodup_append kind.nodup_fields),
    List.append_nil]

/-- The fields of its own kind are found among the members of a definition. -/
theorem knownMembers?_own (named : (own.map Prod.fst).Sublist kind.fields) :
    Json.knownMembers? kind.fields
      ((headMembers id kind ++ own).map fun m => (some m.1, m.2)) = some own := by
  have distinct := kind.nodup_fields
  refine Json.knownMembers?_eq distinct.of_append_right named ?_
  rw [List.filter_append, Json.filter_eq_self_of_named named,
    Json.filter_eq_nil_of_named (names_headMembers id kind)
      (List.disjoint_symm (List.disjoint_of_nodup_append distinct)),
    List.nil_append]

theorem optional?_uniqueId (kind : Kind) :
    Json.optional? Json.string? "uniqueId" (headMembers id kind) = some id :=
  Json.optional?_text rfl id

theorem required?_type (kind : Kind) :
    Json.required? Kind.ofJson? "type" (headMembers id kind) = some kind :=
  (Json.required?_eq (Json.lookup_optional_other (by decide) _ _)).trans kind.ofJson?_name

theorem names_taskMembers (task : Task) :
    ((taskMembers task).map Prod.fst).Sublist task.kind.fields := by
  cases task <;> exact List.Sublist.refl _

end

/-- The members of a split-join. -/
def splitJoinMembers (poolSize : Nat) (separator : Option String) (timeout : Option Nat)
    (service : Option Definition) : List (String × Json) :=
  ("poolSize", .ofNat poolSize) ::
    (Json.optional "separator" (separator.map .ofString) ++
      (Json.optional "shutdownTimeoutMs" (timeout.map .ofNat) ++
        Json.optional "service" (service.map toJson)))

section

variable (poolSize : Nat) (separator : Option String) (timeout : Option Nat)
variable (service : Option Definition)

theorem toJson_splitJoin (id : Option String) :
    (splitJoin id poolSize separator timeout service).toJson =
      .ofMembers (headMembers id .splitJoin ++
        splitJoinMembers poolSize separator timeout service) := by
  rw [toJson, nestedJson_eq_map, List.append_assoc, List.append_assoc, List.append_assoc]
  rfl

theorem names_splitJoinMembers :
    ((splitJoinMembers poolSize separator timeout service).map Prod.fst).Sublist
      Kind.splitJoin.fields := by
  simp only [splitJoinMembers, List.map_cons, List.map_append]
  exact ((Json.names_optional "separator" _).append
    ((Json.names_optional "shutdownTimeoutMs" _).append
      (Json.names_optional "service" _))).cons_cons "poolSize"

/-- What stands under the names of the fields. -/
theorem lookup_splitJoinMembers :
    let members := splitJoinMembers poolSize separator timeout service
    members.lookup "poolSize" = some (.ofNat poolSize) ∧
      members.lookup "separator" = separator.map .ofString ∧
      members.lookup "shutdownTimeoutMs" = timeout.map .ofNat ∧
      members.lookup "service" = service.map toJson := by
  simp [splitJoinMembers, Dictionary.lookup_entry, List.lookup_append, Json.lookup_optional]

end

theorem ofJsonWithin_null (levels : Nat) : ofJsonWithin levels .null = none := by
  cases levels <;> rfl

/-- A reader goes at least one level deep into an object. -/
theorem exists_level {members : List (String × Json)} {levels : Nat}
    (deep : (Json.ofMembers members).depth ≤ levels) :
    ∃ below, levels = below + 1 ∧ ∀ m ∈ members, m.2.depth ≤ below := by
  have object : 0 < (Json.ofMembers members).depth := Nat.succ_pos _
  refine ⟨levels - 1, by omega, fun m member => ?_⟩
  have inside := Json.depth_member_lt member
  omega

mutual

/-- A definition is read back by a reader that goes as deep as the definition is. -/
theorem ofJsonWithin_toJson : ∀ (d : Definition) {levels : Nat}, d.Fits →
    d.toJson.depth ≤ levels → ofJsonWithin levels d.toJson = some d
  | simple id task, levels, _, deep => by
      rw [toJson] at deep ⊢
      obtain ⟨below, rfl, -⟩ := exists_level deep
      have named := names_taskMembers task
      rw [Json.ofMembers, ofJsonWithin, knownMembers?_head id named]
      simp only [Option.bind_eq_bind, Option.bind_some, optional?_uniqueId, required?_type,
        knownMembers?_own id named]
      cases task with
      | addMetadata metadata =>
          simp only [Task.kind, taskMembers]
          rw [Json.field?_eq _ rfl, Json.dictionary?_ofDictionary]
          rfl
      | _ => rfl
  | list id services, levels, fits, deep => by
      rw [toJson, listJson_eq_map] at deep ⊢
      obtain ⟨below, rfl, -⟩ := exists_level deep
      have servicesDeep : ∀ d ∈ services, d.toJson.depth ≤ below := by
        intro d member
        have inside := Json.depth_listed toJson member (headMembers id .serviceList)
          "services"
        omega
      have named : ([("services", Json.array (services.map toJson))].map Prod.fst).Sublist
          Kind.serviceList.fields := List.Sublist.refl _
      rw [Json.ofMembers, ofJsonWithin, knownMembers?_head id named]
      simp only [Option.bind_eq_bind, Option.bind_some, optional?_uniqueId, required?_type,
        knownMembers?_own id named]
      rw [Json.field?_eq _ rfl,
        Json.list?_map (ofJsonWithin_listJson services fits servicesDeep)]
      rfl
  | splitJoin id poolSize separator timeout service, levels,
      ⟨sizeFits, timeFits, nestedFits⟩, deep => by
      rw [toJson_splitJoin] at deep ⊢
      obtain ⟨below, rfl, deepBelow⟩ := exists_level deep
      have nestedDeep : ∀ d ∈ service, d.toJson.depth ≤ below := by
        rintro d rfl
        exact deepBelow ("service", d.toJson) (by simp [splitJoinMembers, Json.optional])
      have named := names_splitJoinMembers poolSize separator timeout service
      have nested := ofJsonWithin_nestedJson service nestedFits nestedDeep
      rw [Json.ofMembers, ofJsonWithin, knownMembers?_head id named]
      simp only [Option.bind_eq_bind, Option.bind_some, optional?_uniqueId, required?_type,
        knownMembers?_own id named]
      obtain ⟨sizeFound, separatorFound, timeFound, nestedFound⟩ :=
        lookup_splitJoinMembers poolSize separator timeout service
      rw [Json.field?_eq _ sizeFound, Json.nat64?_ofNat sizeFits,
        Json.optional?_eq rfl separatorFound fun _ _ => rfl,
        Json.optional?_eq rfl timeFound fun ms given => Json.nat64?_ofNat (timeFits ms given),
        Json.optional?_eq (ofJsonWithin_null below) nestedFound nested]
      rfl

theorem ofJsonWithin_listJson : ∀ (services : List Definition) {levels : Nat}, AllFit services →
    (∀ d ∈ services, d.toJson.depth ≤ levels) →
      ∀ d ∈ services, ofJsonWithin levels d.toJson = some d
  | [], _, _, _ => List.forall_mem_nil _
  | d :: rest, _, ⟨fits, restFit⟩, deep => by
      obtain ⟨dDeep, restDeep⟩ := List.forall_mem_cons.mp deep
      exact List.forall_mem_cons.mpr
        ⟨ofJsonWithin_toJson d fits dDeep, ofJsonWithin_listJson rest restFit restDeep⟩

theorem ofJsonWithin_nestedJson : ∀ (service : Option Definition) {levels : Nat},
    NestedFits service → (∀ d ∈ service, d.toJson.depth ≤ levels) →
      ∀ d ∈ service, ofJsonWithin levels d.toJson = some d
  | none, _, _, _ => nofun
  | some d, _, fits, deep => by
      rintro _ ⟨⟩
      exact ofJsonWithin_toJson d fits (deep d rfl)

end

/-- A definition is read back where it stands, when what stands around it leaves levels enough. -/
theorem ofJson?_toJson {d : Definition} (fits : d.Fits) {level : Nat}
    (deep : level + d.toJson.depth ≤ nestingLimit) : ofJson? level d.toJson = some d := by
  have sound := Json.isSound_of_legible (fun _ finite => finite)
    (legible_toJson (fun _ => Numeral.isFinite_ofNat) d fits)
  rw [ofJson?, sound, Bool.true_and, if_pos (decide_eq_true deep)]
  exact ofJsonWithin_toJson d fits (by omega)

end Definition

end IntegrationHost.Service
