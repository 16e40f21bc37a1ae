import IntegrationHost.Adapter.Definition
import IntegrationHost.Proofs.Lists
import IntegrationHost.Proofs.Violation
import Mathlib.Data.List.Nodup

/-!
# Elements of a configuration

Adapters, channels, workflows and services as elements of one tree: what parts an element has, where
the parts of its parts stand, and which rules an element can break by itself.
-/

namespace IntegrationHost

/-- An element of a configuration. -/
inductive Element where
  | adapter (d : AdapterDefinition)
  | channel (d : ChannelDefinition)
  | workflow (d : WorkflowDefinition)
  | service (d : Service.Definition)

namespace Element

/-- How a part is reached from the element it is part of. -/
inductive Step where
  | channel (index : Nat)
  | workflow (index : Nat)
  | service (index : Nat)
  | nested
  deriving DecidableEq

namespace Step

/-- The place of a part among the parts of the same element. -/
def index : Step → Nat
  | channel index => index
  | workflow index => index
  | service index => index
  | nested => 0

/-- The field in which the part stands. -/
def segment : Step → String
  | channel index => itemPath "channels" index
  | workflow index => itemPath "workflows" index
  | service index => itemPath "services" index
  | nested => "service"

/-- The path of what is reached by some steps. -/
def place (root : String) (position : List Step) : String :=
  position.foldl (fun path step => childPath path step.segment) root

theorem place_cons (root : String) (step : Step) (position : List Step) :
    place root (step :: position) = place (childPath root step.segment) position :=
  rfl

theorem segment_plain (step : Step) : step.segment ≠ "" ∧ '.' ∉ step.segment.toList := by
  cases step with
  | channel index => exact itemPath_plain (by decide) index
  | workflow index => exact itemPath_plain (by decide) index
  | service index => exact itemPath_plain (by decide) index
  | nested => decide

theorem segment_injective : Function.Injective segment := by
  intro step other same
  cases step <;> cases other
  case channel.channel => rw [itemPath_inj _ same]
  case workflow.workflow => rw [itemPath_inj _ same]
  case service.service => rw [itemPath_inj _ same]
  case nested.nested => rfl
  all_goals
    exfalso
    have letters := congrArg String.toList same
    simp [segment, itemPath] at letters

/-- Fields of elements are told apart by their paths. -/
theorem place_inj {root field other : String} {position position' : List Step}
    (plain : field ≠ "" ∧ '.' ∉ field.toList) (otherPlain : other ≠ "" ∧ '.' ∉ other.toList)
    (same : childPath (place root position) field = childPath (place root position') other) :
    position = position' ∧ field = other := by
  have path : ∀ (position : List Step) (field : String), childPath (place root position) field =
      (position.map segment ++ [field]).foldl childPath root := by
    intro position field
    rw [List.foldl_append, List.foldl_map]
    rfl
  have allPlain : ∀ (position : List Step) {field : String}, field ≠ "" ∧ '.' ∉ field.toList →
      ∀ name ∈ position.map segment ++ [field], name ≠ "" ∧ '.' ∉ name.toList := by
    intro position field plain
    rw [List.forall_mem_append, List.forall_mem_map, List.forall_mem_singleton]
    exact ⟨fun step _ => step.segment_plain, plain⟩
  rw [path, path] at same
  have names := foldl_childPath_inj root (by simp) (by simp) (allPlain position plain)
    (allPlain position' otherPlain) same
  obtain ⟨segments, fields⟩ := List.append_inj' names rfl
  exact ⟨List.map_injective_iff.mpr segment_injective segments, List.singleton_inj.mp fields⟩

end Step

/-! ## Parts -/

/-- The parts of an element, in document order. -/
def parts : Element → List (Step × Element)
  | adapter d => d.channels.mapIdx fun index d => (.channel index, channel d)
  | channel d => d.workflows.mapIdx fun index d => (.workflow index, workflow d)
  | workflow d => d.services.mapIdx fun index d => (.service index, service d)
  | service (.simple _ _) => []
  | service (.list _ services) => services.mapIdx fun index d => (.service index, service d)
  | service (.splitJoin _ _ _ _ nested) => nested.toList.map fun d => (.nested, service d)

/-- What stands at a position in an element. -/
inductive Holds : Element → List Step → Element → Prop where
  | self (e : Element) : Holds e [] e
  | part {e part target : Element} {step : Step} {position : List Step}
      (member : (step, part) ∈ e.parts) (inside : Holds part position target) :
      Holds e (step :: position) target

/-- The id of an element that has to have one. -/
def requiredId : Element → Option (Option String)
  | adapter d => some d.uniqueId
  | channel d => some d.uniqueId
  | workflow d => some d.uniqueId
  | service _ => none

/-- The ids of the parts that have to have ids. -/
def partIds (e : Element) : List String :=
  e.parts.filterMap fun part => part.2.requiredId.join

/-- The field in which the parts of an element stand. -/
def partsField : Element → String
  | adapter _ => "channels"
  | channel _ => "workflows"
  | _ => "services"

/-- The violations of an element at a path. -/
def violations (path : String) : Element → List Violation
  | adapter d => d.violations path
  | channel d => d.violations path
  | workflow d => d.violations path
  | service d => d.violations path

/-! ## Rules -/

/-- A rule that an element can break. -/
inductive Fault where
  | missingId
  | blankId
  | repeatedId (id : String)
  | blankKey
  | emptySearch
  | noWorkers
  | emptySeparator
  | noNested
  deriving DecidableEq

namespace Fault

/-- The field that is wrong. -/
def field (e : Element) : Fault → String
  | missingId => "uniqueId"
  | blankId => "uniqueId"
  | repeatedId _ => e.partsField
  | blankKey => "metadata"
  | emptySearch => "search"
  | noWorkers => "poolSize"
  | emptySeparator => "separator"
  | noNested => "service"

/-- What is wrong with it. -/
def message : Fault → String
  | missingId => "may not be null"
  | blankId => "may not be blank"
  | repeatedId id => "duplicate uniqueId " ++ id
  | blankKey => "keys may not be blank"
  | emptySearch => "may not be empty"
  | noWorkers => "must be greater than or equal to 1"
  | emptySeparator => "may not be empty"
  | noNested => "may not be null"

/-- When the rule is looked at among the rules for the same element. -/
def rank : Fault → Nat
  | missingId => 0
  | blankId => 0
  | repeatedId _ => 1
  | blankKey => 0
  | emptySearch => 0
  | noWorkers => 0
  | emptySeparator => 1
  | noNested => 2

/-- The violation that a fault of the element at a path makes. -/
def violation (e : Element) (path : String) (fault : Fault) : Violation :=
  ⟨childPath path (fault.field e), fault.message⟩

/-- A message about a repeated id is about that id and no other fault. -/
theorem message_repeatedId {id : String} {fault : Fault}
    (same : (repeatedId id).message = fault.message) : repeatedId id = fault := by
  have begins : (repeatedId id).message = "duplicate uniqueId " ++ id := rfl
  have letter : fault.message.toList.head? = some 'd' := by
    rw [← same, begins, String.toList_append]
    rfl
  cases fault with
  | repeatedId other =>
      have ids : "duplicate uniqueId " ++ id = "duplicate uniqueId " ++ other := same
      rw [(String.append_right_inj _).mp ids]
  | _ => exact absurd letter (by decide)

/-- A fault is told by the field and by what is wrong with it. -/
theorem eq_of_field_of_message {e : Element} {fault other : Fault}
    (sameField : fault.field e = other.field e) (sameMessage : fault.message = other.message) :
    fault = other := by
  cases fault
  case repeatedId => exact message_repeatedId sameMessage
  all_goals
    cases other
    case repeatedId => exact (message_repeatedId sameMessage.symm).symm
  case missingId.missingId | blankId.blankId | blankKey.blankKey | emptySearch.emptySearch |
      noWorkers.noWorkers | emptySeparator.emptySeparator | noNested.noNested => rfl
  -- Two pairs of faults are worded alike; they are about different fields.
  case missingId.noNested => exact absurd sameField (by decide : "uniqueId" ≠ "service")
  case noNested.missingId => exact absurd sameField (by decide : "service" ≠ "uniqueId")
  case emptySearch.emptySeparator => exact absurd sameField (by decide : "search" ≠ "separator")
  case emptySeparator.emptySearch => exact absurd sameField (by decide : "separator" ≠ "search")
  all_goals exact absurd sameMessage (by decide)

theorem field_plain (e : Element) (fault : Fault) :
    fault.field e ≠ "" ∧ '.' ∉ (fault.field e).toList := by
  have fields : ∀ name ∈ ["uniqueId", "channels", "workflows", "services", "metadata", "search",
      "poolSize", "separator", "service"], name ≠ "" ∧ '.' ∉ name.toList := by decide
  apply fields
  cases fault with
  | repeatedId id => cases e <;> simp [field, Element.partsField]
  | _ => simp [field]

end Fault

/-- Which rules an element breaks. -/
inductive Breaks : Element → Fault → Prop where
  | missingId {e : Element} (missing : e.requiredId = some none) : Breaks e .missingId
  | blankId {e : Element} {id : String} (given : e.requiredId = some (some id))
      (blank : Text.isBlank id = true) : Breaks e .blankId
  | repeatedId {e : Element} {id : String} (twice : 2 ≤ e.partIds.count id) :
      Breaks e (.repeatedId id)
  | blankKey {id : Option String} {metadata : Dictionary} {key : String}
      (member : key ∈ metadata.keys) (blank : Text.isBlank key = true) :
      Breaks (service (.simple id (.addMetadata metadata))) .blankKey
  | emptySearch {id : Option String} {replacement : String} :
      Breaks (service (.simple id (.replaceText "" replacement))) .emptySearch
  | noWorkers {id separator timeout nested} :
      Breaks (service (.splitJoin id 0 separator timeout nested)) .noWorkers
  | emptySeparator {id poolSize timeout nested} :
      Breaks (service (.splitJoin id poolSize (some "") timeout nested)) .emptySeparator
  | noNested {id poolSize separator timeout} :
      Breaks (service (.splitJoin id poolSize separator timeout none)) .noNested

/-- The faults of an element in the order in which they are looked for; of repeated ids, the one
that comes for the second time before the other does. -/
inductive Sooner (e : Element) : Fault → Fault → Prop where
  | rule {fault other : Fault} (less : fault.rank < other.rank) : Sooner e fault other
  | id {id other : String} (before : Violation.TwiceBefore e.partIds id other) :
      Sooner e (.repeatedId id) (.repeatedId other)

theorem sooner_irrefl (e : Element) (fault : Fault) : ¬ e.Sooner fault fault := by
  rintro (less | before)
  · exact Nat.lt_irrefl _ less
  · exact Violation.twiceBefore_irrefl _ _ before

/-! ## Parts -/

/-- Parts are smaller than what they are part of. -/
theorem sizeOf_part_lt {e : Element} {p : Step × Element} (member : p ∈ e.parts) :
    sizeOf p.2 < sizeOf e := by
  match e with
  | adapter ⟨_, channels⟩ =>
      obtain ⟨index, d, inside, rfl⟩ := Lists.exists_of_mem_mapIdx member
      have smaller : sizeOf d < sizeOf channels := List.sizeOf_lt_of_mem inside
      simp only [adapter.sizeOf_spec, channel.sizeOf_spec, AdapterDefinition.mk.sizeOf_spec]
      omega
  | channel ⟨_, _, workflows⟩ =>
      obtain ⟨index, d, inside, rfl⟩ := Lists.exists_of_mem_mapIdx member
      have smaller : sizeOf d < sizeOf workflows := List.sizeOf_lt_of_mem inside
      simp only [workflow.sizeOf_spec, channel.sizeOf_spec, ChannelDefinition.mk.sizeOf_spec]
      omega
  | workflow ⟨_, services⟩ =>
      obtain ⟨index, d, inside, rfl⟩ := Lists.exists_of_mem_mapIdx member
      have smaller : sizeOf d < sizeOf services := List.sizeOf_lt_of_mem inside
      simp only [workflow.sizeOf_spec, service.sizeOf_spec, WorkflowDefinition.mk.sizeOf_spec]
      omega
  | service (.simple _ _) => cases member
  | service (.list _ services) =>
      obtain ⟨index, d, inside, rfl⟩ := Lists.exists_of_mem_mapIdx member
      have smaller := List.sizeOf_lt_of_mem inside
      simp only [service.sizeOf_spec, Service.Definition.list.sizeOf_spec]
      omega
  | service (.splitJoin _ _ _ _ nested) =>
      obtain ⟨d, inside, rfl⟩ := List.mem_map.mp member
      obtain rfl := Option.mem_toList.mp inside
      simp only [service.sizeOf_spec, Service.Definition.splitJoin.sizeOf_spec,
        Option.some.sizeOf_spec]
      omega

/-- The parts of an element are numbered in document order. -/
theorem parts_ordered (e : Element) : e.parts.Pairwise fun p q => p.1.index < q.1.index := by
  match e with
  | adapter d => exact Lists.pairwise_mapIdx (fun _ _ => rfl) _
  | channel d => exact Lists.pairwise_mapIdx (fun _ _ => rfl) _
  | workflow d => exact Lists.pairwise_mapIdx (fun _ _ => rfl) _
  | service (.simple _ _) => exact .nil
  | service (.list _ services) => exact Lists.pairwise_mapIdx (fun _ _ => rfl) _
  | service (.splitJoin _ _ _ _ none) => exact .nil
  | service (.splitJoin _ _ _ _ (some d)) => exact List.pairwise_singleton _ _

/-- No two parts are reached by the same step. -/
theorem steps_nodup (e : Element) : (e.parts.map Prod.fst).Nodup := by
  rw [List.Nodup, List.pairwise_map]
  exact e.parts_ordered.imp fun less same => Nat.ne_of_lt less (congrArg Step.index same)

/-- One element stands at a position at most. -/
theorem Holds.unique {e target other : Element} {position : List Step}
    (holds : e.Holds position target) (otherHolds : e.Holds position other) : target = other := by
  induction holds with
  | self => cases otherHolds; rfl
  | part member _ ih =>
      cases otherHolds with
      | part otherMember inside =>
          have same := List.inj_on_of_nodup_map (steps_nodup _) member otherMember rfl
          obtain rfl := (Prod.mk.inj same).2
          exact ih inside

end Element

end IntegrationHost
