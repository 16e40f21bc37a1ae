import IntegrationHost.Config.Marshaller
import IntegrationHost.Proofs.Adapter.Reading
import IntegrationHost.Proofs.Adapter.Roles
import IntegrationHost.Proofs.Json.Spelling
import Mathlib.Logic.Relation

/-!
# Configurations written in another order

Members of an object may change places, wherever the object stands, and members that the object does
not know may be added to it, except to metadata. Step by step the definition that is read stays the
same.
-/

namespace IntegrationHost

open Service

namespace Role

/-- A value is changed at one place: the members of an object are put in another order, or a member
is added that the object does not know. What is added is made of null, flags, texts, numbers of 64
bits, arrays and objects, and is no deeper than it may be. It is added in front, and may be moved
from there. -/
inductive Step : Role → Nat → Json → Json → Prop where
  /-- In metadata the last value of a key that repeats would stay. -/
  | permute {role : Role} {level : Nat} {members others : List (Literal × Json)}
      (perm : members.Perm others) (distinct : role = .metadata → (members.map Prod.fst).Nodup) :
      Step role level (.object members) (.object others)
  | insert {role : Role} {level : Nat} {members : List (Literal × Json)} {name : String}
      {value : Json} (notMetadata : role ≠ .metadata) (unknown : name ∉ role.names members)
      (legible : value.Legible Numeral.Fits64)
      (shallow : level + 1 + value.depth ≤ Definition.nestingLimit) :
      Step role level (.object members) (.object ((some name, value) :: members))
  | member {role : Role} {level : Nat} {key : Literal} {value other : Json}
      (before after : List (Literal × Json))
      (step : Step (role.field (before ++ (key, value) :: after) key) (level + 1) value other) :
      Step role level (.object (before ++ (key, value) :: after))
        (.object (before ++ (key, other) :: after))
  | item {role : Role} {level : Nat} {value other : Json} (before after : List Json)
      (step : Step (role.item before.length) (level + 1) value other) :
      Step role level (.array (before ++ value :: after)) (.array (before ++ other :: after))

namespace Step

variable {role : Role} {level : Nat} {json json' : Json}

/-- A step keeps what arrays and objects have exactly when all that stands in them has it. -/
theorem hereditary (P : Nat → Json → Prop) (own : Nat → Prop) (keyed : Literal → Prop)
    (object : ∀ level members, P level (.object members) ↔
      own level ∧ ∀ m ∈ members, keyed m.1 ∧ P (level + 1) m.2)
    (array : ∀ level items, P level (.array items) ↔
      own level ∧ ∀ item ∈ items, P (level + 1) item)
    (text : ∀ name, keyed (some name))
    (added : ∀ level value, value.Legible Numeral.Fits64 →
      level + value.depth ≤ Definition.nestingLimit → P level value)
    (step : Step role level json json') (holds : P level json) : P level json' := by
  induction step with
  | permute perm _ =>
      rw [object] at holds ⊢
      exact ⟨holds.1, fun m member => holds.2 m (perm.mem_iff.mpr member)⟩
  | insert _ _ legible shallow =>
      rw [object] at holds ⊢
      exact ⟨holds.1, List.forall_mem_cons.mpr ⟨⟨text _, added _ _ legible shallow⟩, holds.2⟩⟩
  | member before after _ ih =>
      rw [object, List.forall_mem_append, List.forall_mem_cons] at holds ⊢
      exact ⟨holds.1, holds.2.1, ⟨holds.2.2.1.1, ih holds.2.2.1.2⟩, holds.2.2.2⟩
  | item before after _ ih =>
      rw [array, List.forall_mem_append, List.forall_mem_cons] at holds ⊢
      exact ⟨holds.1, holds.2.1, ih holds.2.2.1, holds.2.2.2⟩

theorem isSound (step : Step role level json json') (sound : json.isSound = true) :
    json'.isSound = true := by
  refine step.hereditary (fun _ json => json.isSound = true) (fun _ => True)
    (fun key => key.isSome = true) ?_ ?_ (fun _ => rfl) ?_ sound
  · intro _ members
    rw [true_and]
    exact Json.soundMembers_iff
  · intro _ items
    rw [true_and]
    exact Json.soundItems_iff
  · exact fun _ _ legible _ =>
      Json.isSound_of_legible (fun _ => Numeral.isFinite_of_fits64) legible

theorem depth_le (step : Step role level json json')
    (shallow : level + json.depth ≤ Definition.nestingLimit) :
    level + json'.depth ≤ Definition.nestingLimit := by
  refine step.hereditary (fun level json => level + json.depth ≤ Definition.nestingLimit)
    (fun level => level + 1 ≤ Definition.nestingLimit) (fun _ => True) ?_ ?_ (fun _ => trivial)
    (fun _ _ _ isShallow => isShallow) shallow
  · intro level members
    simp only [true_and]
    exact Json.object_depth_le_iff
  · exact fun level items => Json.array_depth_le_iff

/-- What can be spelled can be spelled after a step. -/
theorem numbers (step : Step role level json json') (written : json.Numbers Numeral.Written) :
    json'.Numbers Numeral.Written := by
  refine step.hereditary (fun _ json => json.Numbers Numeral.Written) (fun _ => True)
    (fun _ => True) ?_ ?_ (fun _ => trivial) ?_ written
  · intro _ members
    simp only [true_and]
    exact Json.numbers_object
  · intro _ items
    rw [true_and]
    exact Json.numbers_array
  · exact fun _ _ legible _ n member =>
      Numeral.written_of_fits64 (Json.numbers_of_legible legible n member)

/-- What is read stays the same in one step. -/
theorem same (step : Step role level json json') : role.Same level json json' := by
  induction step with
  | @permute role level members others perm distinct =>
      have step : Step role level _ _ := .permute perm distinct
      refine role.same_object step.isSound step.depth_le (fun names _ => ?_) fun isMetadata => ?_
      · -- The values are the same; where they stand does not matter to a record.
        exact .permute (fun name => same_refl _ _) perm
      · exact Json.dictionary?_permute perm (distinct isMetadata)
  | @insert role level members name value notMetadata unknown legible shallow =>
      have step : Step role level _ _ := .insert notMetadata unknown legible shallow
      refine role.same_object step.isSound step.depth_le (fun names known => ?_)
        fun isMetadata => ?_
      · exact .insert (fun name => same_refl _ _) (unknown ∘ @known name) value members
      · exact absurd isMetadata notMetadata
  | @member role level key value other before after inner ih =>
      have step : Step role level _ _ := .member before after inner
      refine role.same_object step.isSound step.depth_le (fun names _ => ?_) fun isMetadata => ?_
      · refine .replace (fun name => same_refl _ _) before after fun name isName => ?_
        rw [← isName]
        exact ih
      · subst isMetadata
        exact Json.dictionary?_replace before after key (Json.flat_string.keeps value other ih)
  | item before after _ ih => exact same_array _ ih

end Step

end Role

/-- A configuration is changed step by step. -/
def Rearranged : Json → Json → Prop :=
  Relation.ReflTransGen (Role.adapter.Step 0)

namespace Rearranged

variable {json json' : Json}

/-- The definition that is read stays the same. -/
theorem readsAs (rearranged : Rearranged json json') :
    Json.ReadsAs AdapterDefinition.ofJson? json json' := by
  induction rearranged with
  | refl => exact .refl _ json
  | tail _ step ih => exact fun d found => step.same rfl d (ih d found)

theorem numbers (rearranged : Rearranged json json') (written : json.Numbers Numeral.Written) :
    json'.Numbers Numeral.Written := by
  induction rearranged with
  | refl => exact written
  | tail _ step ih => exact step.numbers ih

end Rearranged

namespace Config.Marshaller

/-! ## A service in a list -/

/-- An object of one member, which is an array of one item. -/
def single (name : String) (item : Json) : Json :=
  .object [(some name, .array [item])]

theorem step_single {role : Role} {level : Nat} {name : String} {value other : Json}
    (step : ((role.field [(some name, .array [value])] (some name)).item 0).Step (level + 2)
      value other) : role.Step level (single name value) (single name other) :=
  .member [] [] (.item [] [] step)

/-- A list of one service. -/
def serviceList (members : List (Literal × Json)) : Json :=
  .object [(some "type", .ofString "service-list"), (some "services", .array [.object members])]

/-- A configuration whose only service is a list of one service. -/
def listOf (members : List (Literal × Json)) : Json :=
  single "channels" (single "workflows" (single "services" (serviceList members)))

/-- A step at the service in the list is a step of the configuration. -/
theorem step_listOf {members others : List (Literal × Json)}
    (step : Role.service.Step 8 (.object members) (.object others)) :
    Role.adapter.Step 0 (listOf members) (listOf others) := by
  have item : (Role.list .service).Step 7 (.array [.object members]) (.array [.object others]) :=
    .item [] [] step
  have list : Role.service.Step 6 (serviceList members) (serviceList others) :=
    .member [(some "type", .ofString "service-list")] [] item
  exact step_single (step_single (step_single list))

theorem read?_listOf {members : List (Literal × Json)}
    (legible : (Json.object members).Legible Numeral.Written) :
    Json.read? (listOf members).pretty = some (listOf members) := by
  apply Json.read?_pretty
  simpa [listOf, single, serviceList, Json.Legible, Json.LegibleMembers, Json.LegibleItems,
    Json.ofString] using legible

/-! ## Texts -/

/-- A text that is read as a definition may be rearranged: there are texts in which members have
changed places and members that their objects do not know are added, and each of them is read as
the same definition. -/
theorem json_unmarshal_rearranged {text : String} {value other : Json} {d : AdapterDefinition}
    (spelled : Json.read? text = some value) (rearranged : Rearranged value other)
    (read : json.unmarshal text = .ok d) :
    (∃ rewritten, Json.read? rewritten = some other) ∧
      ∀ rewritten, Json.read? rewritten = some other → json.unmarshal rewritten = .ok d := by
  obtain ⟨_, isValue, found⟩ := json_unmarshal_eq_ok_iff.mp read
  cases spelled.symm.trans isValue
  have same := rearranged.readsAs d found
  exact ⟨Json.exists_text (rearranged.numbers (Json.numbers_of_read? spelled)),
    fun rewritten spells => json_unmarshal_eq_ok_iff.mpr ⟨other, spells, same⟩⟩

/-- The kind of a service in a list is moved to the front, and the service is given a member that
it does not know. -/
theorem json_unmarshal_rearranged_listed :
    let kind : Literal × Json := (some "type", .ofString "replace-text")
    let search : Literal × Json := (some "search", .ofString "a")
    let note : Literal × Json := (some "note", .array [.null, .ofInt (-1)])
    let d : AdapterDefinition := ⟨none, [⟨none, true, [⟨none,
      [.list none [.simple none (.replaceText "a" "")]]⟩]⟩]⟩
    json.unmarshal (listOf [search, kind]).pretty = .ok d ∧
      json.unmarshal (listOf [kind, note, search]).pretty = .ok d := by
  intro kind search note d
  have spelled : Json.read? (listOf [search, kind]).pretty = some (listOf [search, kind]) :=
    read?_listOf ⟨rfl, rfl, rfl, rfl, trivial⟩
  have written : (Json.array [.null, .ofInt (-1)]).Legible Numeral.Written :=
    ⟨trivial, nofun, trivial⟩
  have spells :
      Json.read? (listOf [kind, note, search]).pretty = some (listOf [kind, note, search]) :=
    read?_listOf ⟨rfl, rfl, rfl, written, rfl, rfl, trivial⟩
  have unknown : "note" ∉ Role.service.names [search, kind] := by decide
  have fits : note.2.Legible Numeral.Fits64 := ⟨trivial, ⟨rfl, rfl, by decide⟩, trivial⟩
  have added : Role.service.Step 8 (.object [search, kind]) (.object [note, search, kind]) :=
    .insert nofun unknown fits (by decide)
  have moved : Role.service.Step 8 (.object [note, search, kind]) (.object [kind, note, search]) :=
    .permute (List.perm_append_singleton kind [note, search]) nofun
  have rearranged : Rearranged (listOf [search, kind]) (listOf [kind, note, search]) :=
    .tail (.single (step_listOf added)) (step_listOf moved)
  have read : json.unmarshal (listOf [search, kind]).pretty = .ok d :=
    json_unmarshal_eq_ok_iff.mpr ⟨_, spelled, by decide +kernel⟩
  exact ⟨read, (json_unmarshal_rearranged spelled rearranged read).2 _ spells⟩

end Config.Marshaller

end IntegrationHost
