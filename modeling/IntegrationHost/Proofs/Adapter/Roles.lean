import IntegrationHost.Adapter.Definition
import IntegrationHost.Proofs.Json.Correspondence
import IntegrationHost.Proofs.Service.Configuration

/-!
# What values of a configuration are read as

What a value in a configuration is read as depends on where it stands: an adapter, a channel, a
service, the metadata of one, or something that is only text, a number, or passed over. A record is
read as the same when its fields are, however it is written: as an object in any order, with members
that it does not know, or as an array.
-/

namespace IntegrationHost

open Service

/-- What a value in a configuration is read as. -/
inductive Role where
  | adapter
  | channel
  | workflow
  | service
  | list (item : Role)
  | metadata
  /-- A text, a number or a flag; also everything that is passed over. -/
  | other
  deriving DecidableEq

namespace Role

/-- The kind of service that members say. -/
def kind? (members : List (Literal × Json)) : Option Kind :=
  (members.lookup (some "type")).bind Kind.ofJson?

/-- The names that an object knows. -/
def names (members : List (Literal × Json)) : Role → List String
  | adapter => ["uniqueId", "channels"]
  | channel => ["uniqueId", "autoStart", "workflows"]
  | workflow => ["uniqueId", "services"]
  | service => ["uniqueId", "type"] ++ (kind? members).elim [] Kind.fields
  | _ => []

/-- What a field of a service of a kind is read as. -/
def ofField : Kind → Literal → Role
  | .addMetadata, some "metadata" => metadata
  | .serviceList, some "services" => list service
  | .splitJoin, some "service" => service
  | _, _ => other

/-- What a member of an object is read as. -/
def field (members : List (Literal × Json)) : Role → Literal → Role
  | adapter, some "channels" => list channel
  | channel, some "workflows" => list workflow
  | workflow, some "services" => list service
  | service, key => (kind? members).elim other fun kind => ofField kind key
  | _, _ => other

/-- What an item of an array is read as. Adapters, channels and workflows may be written as the
arrays of their fields. -/
def item (index : Nat) : Role → Role
  | list role => role
  | role => (role.names [])[index]?.elim other fun name => role.field [] (some name)

/-- Both values are read as the same, when they stand inside `level` arrays and objects. -/
def Same : Role → Nat → Json → Json → Prop
  | adapter, level => fun json json' =>
    level = 0 → Json.ReadsAs AdapterDefinition.ofJson? json json'
  | channel, level => Json.ReadsAs (ChannelDefinition.ofJson? level)
  | workflow, level => Json.ReadsAs (WorkflowDefinition.ofJson? level)
  | service, level => fun json json' =>
    (json = .null → json' = .null) ∧
      (∀ levels, Json.ReadsAs (Definition.ofJsonWithin levels) json json') ∧
      Json.ReadsAs (Definition.ofJson? level) json json'
  | list role, level => Json.EachItem (role.Same (level + 1))
  | metadata, _ => Json.ReadsAs Json.dictionary?
  | other, _ => Json.Plainly

theorem same_refl : ∀ (role : Role) (level : Nat) (json : Json), role.Same level json json
  | adapter, _, json => fun _ => .refl _ json
  | channel, _, json => .refl _ json
  | workflow, _, json => .refl _ json
  | service, _, json => ⟨id, fun _ => .refl _ json, .refl _ json⟩
  | list role, level, json => .refl (role.same_refl (level + 1)) json
  | metadata, _, json => .refl _ json
  | other, _, _ => fun _ => rfl

end Role

/-! ## Records read alike -/

section

variable {members others : List (Literal × Json)} {level : Nat} {json other : Json}

theorem Role.ofField_head (kind : Kind) :
    ∀ name ∈ ["uniqueId", "type"], ofField kind (some name) = Role.other := by
  cases kind <;> decide

theorem Service.Kind.flat_ofJson? : Json.Flat ofJson? :=
  ⟨rfl, fun _ => rfl, fun _ => rfl⟩

theorem AdapterDefinition.readsAs_ofJson?
    (carries : Json.Carries (fun name => (Role.adapter.field members (some name)).Same 1)
      ["uniqueId", "channels"] json other) : Json.ReadsAs ofJson? json other := by
  intro d found
  obtain ⟨fields, record, found⟩ := Option.bind_eq_some_iff.mp found
  obtain ⟨id, readId, found⟩ := Option.bind_eq_some_iff.mp found
  obtain ⟨channels, readChannels, given⟩ := Option.bind_eq_some_iff.mp found
  obtain ⟨fields', record', corresponds⟩ := carries fields record
  have keepsChannel : Json.Keeps (Role.channel.Same 2) (ChannelDefinition.ofJson? 2) :=
    fun _ _ same => same
  have id' := corresponds.optional?_flat "uniqueId" rfl Json.flat_string readId
  have channels' := corresponds.field? "channels" keepsChannel.list? readChannels
  simp only [ofJson?, record', id', channels', Option.bind_eq_bind, Option.bind_some]
  exact given

theorem ChannelDefinition.readsAs_ofJson?
    (carries : Json.Carries (fun name => (Role.channel.field members (some name)).Same (level + 1))
      ["uniqueId", "autoStart", "workflows"] json other) :
    Json.ReadsAs (ofJson? level) json other := by
  intro d found
  obtain ⟨fields, record, found⟩ := Option.bind_eq_some_iff.mp found
  obtain ⟨id, readId, found⟩ := Option.bind_eq_some_iff.mp found
  obtain ⟨autoStart, readStart, found⟩ := Option.bind_eq_some_iff.mp found
  obtain ⟨workflows, readWorkflows, given⟩ := Option.bind_eq_some_iff.mp found
  obtain ⟨fields', record', corresponds⟩ := carries fields record
  have keepsWorkflow : Json.Keeps (Role.workflow.Same (level + 2))
      (WorkflowDefinition.ofJson? (level + 2)) := fun _ _ same => same
  have id' := corresponds.optional?_flat "uniqueId" rfl Json.flat_string readId
  have autoStart' := corresponds.field? "autoStart" Json.flat_bool.keeps readStart
  have workflows' := corresponds.field? "workflows" keepsWorkflow.list? readWorkflows
  simp only [ofJson?, record', id', autoStart', workflows', Option.bind_eq_bind, Option.bind_some]
  exact given

theorem WorkflowDefinition.readsAs_ofJson?
    (carries : Json.Carries
      (fun name => (Role.workflow.field members (some name)).Same (level + 1))
      ["uniqueId", "services"] json other) : Json.ReadsAs (ofJson? level) json other := by
  intro d found
  obtain ⟨fields, record, found⟩ := Option.bind_eq_some_iff.mp found
  obtain ⟨id, readId, found⟩ := Option.bind_eq_some_iff.mp found
  obtain ⟨services, readServices, given⟩ := Option.bind_eq_some_iff.mp found
  obtain ⟨fields', record', corresponds⟩ := carries fields record
  have keepsService : Json.Keeps (Role.service.Same (level + 2))
      (Definition.ofJson? (level + 2)) := fun _ _ same => same.2.2
  have id' := corresponds.optional?_flat "uniqueId" rfl Json.flat_string readId
  have services' := corresponds.field? "services" keepsService.list? readServices
  simp only [ofJson?, record', id', services', Option.bind_eq_bind, Option.bind_some]
  exact given

theorem Role.names_service {kind : Kind} (isKind : Role.kind? members = some kind) :
    Role.service.names members = ["uniqueId", "type"] ++ kind.fields := by
  rw [Role.names, isKind]
  rfl

theorem Role.field_service {kind : Kind} (isKind : Role.kind? members = some kind)
    (key : Literal) : Role.service.field members key = ofField kind key := by
  rw [Role.field, isKind]
  rfl

/-- The kind that is read from the members of a service is the one that they say. -/
theorem Role.kind?_of_head {head : List (String × Json)} {kind : Kind}
    (readHead : Json.knownMembers? ["uniqueId", "type"] members = some head)
    (readKind : Json.required? Kind.ofJson? "type" head = some kind) :
    Role.kind? members = some kind := by
  obtain ⟨-, rfl, -⟩ := Json.knownMembers?_eq_some_iff.mp readHead
  rwa [Json.required?, Json.lookup_known (by decide)] at readKind

namespace Service.Definition

/-- The definition of a kind, from the fields that only this kind has. -/
def ofFields? (levels : Nat) (id : Option String) (fields : List (String × Json)) :
    Kind → Option Definition
  | .nullService => return simple id .nothing
  | .addMetadata => do
    return simple id (.addMetadata (← Json.field? Json.dictionary? .empty "metadata" fields))
  | .replaceText => do
    return simple id
      (.replaceText (← Json.field? Json.string? "" "search" fields)
        (← Json.field? Json.string? "" "replacement" fields))
  | .logMessage => do
    return simple id (.logMessage (← Json.field? Json.string? "" "prefix" fields))
  | .alwaysFail => do
    return simple id (.alwaysFail (← Json.field? Json.string? "" "message" fields))
  | .serviceList => do
    return list id (← Json.field? (Json.list? (ofJsonWithin levels)) [] "services" fields)
  | .splitJoin => do
    return splitJoin id (← Json.field? Json.nat64? 0 "poolSize" fields)
      (← Json.optional? Json.string? "separator" fields)
      (← Json.optional? Json.nat64? "shutdownTimeoutMs" fields)
      (← Json.optional? (ofJsonWithin levels) "service" fields)

/-- What all services have is read first, then what only services of the kind have. -/
theorem ofJsonWithin_object (levels : Nat) (members : List (Literal × Json)) :
    ofJsonWithin (levels + 1) (.object members) = (do
      let head ← Json.knownMembers? ["uniqueId", "type"] members
      let id ← Json.optional? Json.string? "uniqueId" head
      let kind ← Json.required? Kind.ofJson? "type" head
      let fields ← Json.knownMembers? kind.fields members
      ofFields? levels id fields kind) := by
  rw [ofJsonWithin]
  rfl

theorem ofFields?_correspond {kind : Kind} {fields fields' : List (String × Json)}
    (corresponds : Json.Correspond (fun name => (Role.ofField kind (some name)).Same level)
      fields fields') {levels : Nat} {id : Option String} {d : Definition}
    (found : ofFields? levels id fields kind = some d) :
    ofFields? levels id fields' kind = some d := by
  cases kind with
  | nullService => exact found
  | addMetadata =>
      obtain ⟨metadata, read, given⟩ := Option.bind_eq_some_iff.mp found
      have read' := corresponds.field? "metadata" (fun _ _ same => same) read
      rw [ofFields?, read']
      exact given
  | replaceText =>
      obtain ⟨search, readSearch, found⟩ := Option.bind_eq_some_iff.mp found
      obtain ⟨replacement, read, given⟩ := Option.bind_eq_some_iff.mp found
      have search' := corresponds.field? "search" Json.flat_string.keeps readSearch
      have read' := corresponds.field? "replacement" Json.flat_string.keeps read
      rw [ofFields?, search', read']
      exact given
  | logMessage =>
      obtain ⟨lead, read, given⟩ := Option.bind_eq_some_iff.mp found
      have read' := corresponds.field? "prefix" Json.flat_string.keeps read
      rw [ofFields?, read']
      exact given
  | alwaysFail =>
      obtain ⟨message, read, given⟩ := Option.bind_eq_some_iff.mp found
      have read' := corresponds.field? "message" Json.flat_string.keeps read
      rw [ofFields?, read']
      exact given
  | serviceList =>
      obtain ⟨services, read, given⟩ := Option.bind_eq_some_iff.mp found
      have keepsService : Json.Keeps (Role.service.Same (level + 1)) (ofJsonWithin levels) :=
        fun _ _ same => same.2.1 levels
      have read' := corresponds.field? "services" keepsService.list? read
      rw [ofFields?, read']
      exact given
  | splitJoin =>
      obtain ⟨poolSize, readSize, found⟩ := Option.bind_eq_some_iff.mp found
      obtain ⟨separator, readSeparator, found⟩ := Option.bind_eq_some_iff.mp found
      obtain ⟨timeout, readTimeout, found⟩ := Option.bind_eq_some_iff.mp found
      obtain ⟨service, readService, given⟩ := Option.bind_eq_some_iff.mp found
      have size' := corresponds.field? "poolSize" Json.flat_nat64.keeps readSize
      have separator' := corresponds.optional?_flat "separator" rfl Json.flat_string readSeparator
      have timeout' :=
        corresponds.optional?_flat "shutdownTimeoutMs" rfl Json.flat_nat64 readTimeout
      have service' := corresponds.optional? "service" (fun _ _ same => same.2.1 levels)
        (ofJsonWithin_null levels) (fun _ same => same.1 rfl) readService
      rw [ofFields?, size', separator', timeout', service']
      exact given

theorem ofJsonWithin_array (levels : Nat) (items : List Json) :
    ofJsonWithin levels (.array items) = none := by
  cases levels <;> rfl

theorem ofJson?_eq_some_iff {d : Definition} :
    ofJson? level json = some d ↔
      json.isSound = true ∧ level + json.depth ≤ nestingLimit ∧
        ofJsonWithin nestingLimit json = some d := by
  rw [ofJson?, Option.ite_none_right_eq_some, Bool.and_eq_true, decide_eq_true_iff, and_assoc]

theorem readsAs_ofJsonWithin
    (carries : ∀ names, names ⊆ Role.service.names members →
      Json.Carries (fun name => (Role.service.field members (some name)).Same (level + 1)) names
        (.object members) (.object others)) (levels : Nat) :
    Json.ReadsAs (ofJsonWithin levels) (.object members) (.object others) := by
  intro d found
  cases levels with
  | zero => cases found
  | succ levels =>
      rw [ofJsonWithin_object] at found ⊢
      obtain ⟨head, readHead, found⟩ := Option.bind_eq_some_iff.mp found
      obtain ⟨id, readId, found⟩ := Option.bind_eq_some_iff.mp found
      obtain ⟨kind, readKind, found⟩ := Option.bind_eq_some_iff.mp found
      obtain ⟨fields, readFields, found⟩ := Option.bind_eq_some_iff.mp found
      -- The kind is found first, and decides what the fields are read as.
      have isKind := Role.kind?_of_head readHead readKind
      simp only [Role.names_service isKind, Role.field_service isKind] at carries
      obtain ⟨head', readHead', heads⟩ := carries _ (List.subset_append_left _ _) head readHead
      obtain ⟨fields', readFields', corresponds⟩ :=
        carries _ (List.subset_append_right _ _) fields readFields
      have plain : ∀ name ∈ ["uniqueId", "type"],
          (Role.ofField kind (some name)).Same (level + 1) = Json.Plainly :=
        fun name member => by rw [Role.ofField_head kind name member, Role.Same]
      have id' := heads.optional?_flat "uniqueId" (plain _ (by decide)) Json.flat_string readId
      have kind' : Json.required? Kind.ofJson? "type" head' = some kind := by
        refine heads.required? "type" ?_ readKind
        rw [plain _ (by decide)]
        exact Kind.flat_ofJson?.keeps
      rw [Json.record?] at readHead' readFields'
      rw [readHead', Option.bind_eq_bind, Option.bind_some, id', Option.bind_eq_bind,
        Option.bind_some, kind', Option.bind_eq_bind, Option.bind_some, readFields']
      exact ofFields?_correspond corresponds found

end Service.Definition

end

/-! ## Values read alike -/

namespace Role

/-- Objects are read alike by every role if they are in the ways that parts read them. -/
theorem same_object {level : Nat} {members others : List (Literal × Json)} (role : Role)
    (sound : (Json.object members).isSound = true → (Json.object others).isSound = true)
    (shallow : level + (Json.object members).depth ≤ Definition.nestingLimit →
      level + (Json.object others).depth ≤ Definition.nestingLimit)
    (carries : ∀ names, names ⊆ role.names members →
      Json.Carries (fun name => (role.field members (some name)).Same (level + 1)) names
        (.object members) (.object others))
    (entries : role = metadata →
      Json.ReadsAs Json.dictionary? (.object members) (.object others)) :
    role.Same level (.object members) (.object others) := by
  cases role with
  | adapter =>
      rintro rfl
      exact AdapterDefinition.readsAs_ofJson? (carries _ (List.Subset.refl _))
  | channel => exact ChannelDefinition.readsAs_ofJson? (carries _ (List.Subset.refl _))
  | workflow => exact WorkflowDefinition.readsAs_ofJson? (carries _ (List.Subset.refl _))
  | service =>
      have within := Definition.readsAs_ofJsonWithin carries
      refine ⟨nofun, within, fun d found => ?_⟩
      obtain ⟨isSound, isShallow, read⟩ := Definition.ofJson?_eq_some_iff.mp found
      exact Definition.ofJson?_eq_some_iff.mpr ⟨sound isSound, shallow isShallow, within _ d read⟩
  | list role => exact nofun
  | metadata => exact entries rfl
  | other => exact nofun

/-- An array that lists the fields of a record corresponds to one with an item changed. -/
theorem carries_array {level : Nat} {before after : List Json} {json json' : Json} {role : Role}
    {names : List String}
    (isField : role.item before.length =
      names[before.length]?.elim other fun name => role.field [] (some name))
    (same : (role.item before.length).Same (level + 1) json json') :
    Json.Carries (fun name => (role.field [] (some name)).Same (level + 1)) names
      (.array (before ++ json :: after)) (.array (before ++ json' :: after)) := by
  refine Json.Carries.replaceItem (fun name => same_refl _ _) before after fun name found => ?_
  rw [isField, found] at same
  exact same

/-- Arrays with one item changed are read alike if the item is. -/
theorem same_array {level : Nat} {before after : List Json} {json json' : Json} (role : Role)
    (same : (role.item before.length).Same (level + 1) json json') :
    role.Same level (.array (before ++ json :: after)) (.array (before ++ json' :: after)) := by
  cases role with
  | adapter =>
      rintro rfl
      exact AdapterDefinition.readsAs_ofJson? (carries_array rfl same)
  | channel => exact ChannelDefinition.readsAs_ofJson? (carries_array rfl same)
  | workflow => exact WorkflowDefinition.readsAs_ofJson? (carries_array rfl same)
  | service =>
      have unread : ∀ levels d, Definition.ofJsonWithin levels (.array (before ++ json :: after)) ≠
          some d := fun levels d => by rw [Definition.ofJsonWithin_array]; exact nofun
      refine ⟨nofun, fun levels d found => absurd found (unread levels d), fun d found => ?_⟩
      exact absurd (Definition.ofJson?_eq_some_iff.mp found).2.2 (unread _ d)
  | list role => exact Json.EachItem.replace (role.same_refl (level + 1)) before after same
  | metadata => exact nofun
  | other => exact nofun

end Role

end IntegrationHost
