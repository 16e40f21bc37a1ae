import IntegrationHost.Proofs.Service.Coherence
import IntegrationHost.Proofs.Service.Projection

/-!
# Recorded services

A recorded service takes down the calls of its hooks. A tracked service is a live service in which
every service that is no list is recorded, at every depth; without the records it does what the live
service does. What each leaf of a tracked service holds can be read off its record: it was
initialised once more than closed, unless it is closed.
-/

namespace IntegrationHost.Service

open Lifecycle

variable {ω L C : Type}

/-! ## New members -/

/-- New members stay new when new components are made into new ones. -/
theorem fresh_members_map {D : Type} {fresh : C → Prop} {freshly : D → Prop} {members : Members C}
    (isNew : members.Fresh fresh) {f : C → D} (keeps : ∀ c, fresh c → freshly (f c)) :
    Members.Fresh freshly (members.map (Managed.map f)) := by
  intro m isMember
  obtain ⟨old, isOld, rfl⟩ := List.mem_map.mp isMember
  exact ⟨(isNew old isOld).1, keeps _ (isNew old isOld).2⟩

/-! ## Records -/

/-- A call of a hook. -/
structure Call where
  event : Event
  succeeded : Bool
  deriving DecidableEq, Repr

namespace Call

/-- How often a service was initialised with success. -/
def inits (calls : List Call) : Nat :=
  calls.countP fun call => call.event == .init && call.succeeded

/-- How often a service was closed, with success or not. -/
def closes (calls : List Call) : Nat :=
  calls.countP fun call => call.event == .close

/-- In a state the calls of a service are in balance when it was initialised once more than closed,
or as often when the state is closed. -/
def Balanced (state : State) (calls : List Call) : Prop :=
  inits calls = closes calls + if state = .closed then 0 else 1

/-- The calls stay in balance when an expected event is called and has its outcome. -/
theorem Balanced.append {state : State} {calls : List Call} (balanced : Balanced state calls)
    {event : Event} (expected : state.expects event = true) (succeeded : Bool) :
    Balanced (event.outcome state succeeded) (calls ++ [⟨event, succeeded⟩]) := by
  unfold Balanced inits closes at balanced ⊢
  rw [List.countP_append, List.countP_append, balanced]
  -- Only a closed service is initialised and only one that is not closed is closed.
  cases state <;> cases event <;> cases succeeded <;>
    simp [State.expects, Event.outcome, Event.canFail, Event.target] at expected ⊢

end Call

/-! ## Leaves -/

/-- A service that is no list, as it stands in a tree: its state and the calls of its hooks. -/
structure Leaf where
  state : State
  calls : List Call

/-- The calls of a leaf are in balance, and it is closed when what it stands in is closed. -/
def Leaf.Settled (whole : State) (leaf : Leaf) : Prop :=
  Call.Balanced leaf.state leaf.calls ∧ (whole = .closed → leaf.state = .closed)

/-- Of components that fit their states the leaves are settled. -/
def Tells (P : State → C → Prop) (leaves : State → C → List Leaf) : Prop :=
  ∀ state component, P state component → ∀ leaf ∈ leaves state component, leaf.Settled state

/-- The leaves of all members, in order. -/
def memberLeaves (leaves : State → C → List Leaf) (members : Members C) : List Leaf :=
  members.flatMap fun m => leaves m.state m.component

/-- The leaves of coherent members are settled. -/
theorem Tells.members {P : State → C → Prop} {leaves : State → C → List Leaf}
    (tells : Tells P leaves) (pick : C → Bool) :
    Tells (Members.Coherent pick P) (fun _ members => memberLeaves leaves members) := by
  intro whole members coherent
  refine List.forall_mem_flatMap.mpr fun m isMember leaf isLeaf => ?_
  obtain ⟨suits, fits⟩ := coherent m isMember
  obtain ⟨balanced, closed⟩ := tells m.state m.component fits leaf isLeaf
  refine ⟨balanced, fun wholeClosed => closed ?_⟩
  rw [wholeClosed] at suits
  exact suits

/-- The leaves of a service that stands alone, or of the services of a list. -/
def Layer.leaves {S : Type} (single : State → S → List Leaf) (parts : State → C → List Leaf)
    (state : State) : Layer S C → List Leaf
  | .single s => single state s
  | .chain s => memberLeaves parts s.services

theorem Layer.tells_leaves {S : Type} {Q : State → S → Prop} {P : State → C → Prop}
    {single : State → S → List Leaf} {parts : State → C → List Leaf} (alone : Tells Q single)
    (tells : Tells P parts) :
    Tells (Layer.Coherent Q P) (Layer.leaves single parts) := by
  intro state service coherent
  cases service with
  | single s => exact alone state s coherent
  | chain s => exact tells.members _ state s.services coherent

/-! ## Recorded services -/

/-- A service with the calls of its hooks. -/
structure Recorded (C : Type) where
  service : C
  calls : List Call

namespace Recorded

/-- A service of which no call was taken down yet. -/
def new (service : C) : Recorded C := ⟨service, []⟩

/-- What a recorded service does: what the service does, and its hooks are taken down. -/
def behaviour (b : Behaviour ω C) : Behaviour ω (Recorded C) where
  hooks := ⟨fun event r world =>
    let ran := b.hooks.run event r.service world
    ran.map fun service => ⟨service, r.calls ++ [⟨event, ran.succeeded⟩]⟩⟩
  uniqueId r := b.uniqueId r.service
  process r message world :=
    (b.process r.service message world).map fun left => (⟨left.1, r.calls⟩, left.2)
  isValid r := b.isValid r.service

/-- Without the record a service does what it did. -/
theorem behaviour_projection (b : Behaviour ω C) :
    Behaviour.Projection service (behaviour b) b where
  hooks _ _ _ := rfl
  process _ _ _ := rfl

/-- The one leaf that a recorded service is. -/
def leaves (state : State) (r : Recorded C) : List Leaf :=
  [⟨state, r.calls⟩]

/-- The calls of a service are in balance. -/
def Settled (state : State) (r : Recorded C) : Prop :=
  Call.Balanced state r.calls

/-- Whatever comes of the hooks of a service, its calls stay in balance. -/
theorem behaviour_keeps (b : Behaviour ω C) : (behaviour b).Keeps Settled where
  hooks _ _ _ _ expected settled := settled.append expected _
  process _ _ _ _ settled := settled

theorem tells_leaves : Tells (Settled (C := C)) leaves :=
  fun _ _ settled => List.forall_mem_singleton.mpr ⟨settled, id⟩

end Recorded

/-! ## Tracked services -/

/-- The live services of a level, with a record for each service in them that is no list. -/
def Tracked (ω L : Type) : Nat → Type
  | 0 => Recorded L
  | level + 1 => Layer (Recorded (Single ω L (Live ω L level))) (Tracked ω L level)

namespace Tracked

/-- What the tracked services of a level do. -/
def behaviour (leaf : Behaviour ω L) : (level : Nat) → Behaviour ω (Tracked ω L level)
  | 0 => Recorded.behaviour leaf
  | level + 1 =>
    Layer.behaviour (Recorded.behaviour (Single.behaviour leaf (Live.behaviour leaf level)))
      (behaviour leaf level)

/-- Begin to track a service. -/
def new : (level : Nat) → Live ω L level → Tracked ω L level
  | 0 => Recorded.new
  | level + 1 => Layer.map Recorded.new (new level)

/-- A service without its records. -/
def forget : (level : Nat) → Tracked ω L level → Live ω L level
  | 0 => Recorded.service
  | level + 1 => Layer.map Recorded.service (forget level)

/-- Without its records a tracked service does what the live service does. -/
theorem behaviour_projection (leaf : Behaviour ω L) (level : Nat) :
    Behaviour.Projection (forget level) (behaviour leaf level) (Live.behaviour leaf level) := by
  induction level with
  | zero => exact Recorded.behaviour_projection leaf
  | succ level ih => exact Layer.behaviour_projection ih (Recorded.behaviour_projection _)

/-- Beginning to track a service changes nothing but the records. -/
theorem forget_new (level : Nat) :
    Function.LeftInverse (forget level) (new (ω := ω) (L := L) level) := by
  induction level with
  | zero => exact fun _ => rfl
  | succ level ih => exact Layer.map_leftInverse (fun _ => rfl) ih

/-- The services of all lists go along with them, and the calls of all other services are in
balance. -/
def Settled : (level : Nat) → State → Tracked ω L level → Prop
  | 0, state, r => Recorded.Settled state r
  | level + 1, state, service => Layer.Coherent Recorded.Settled (Settled level) state service

theorem behaviour_keeps (leaf : Behaviour ω L) (level : Nat) :
    (behaviour leaf level).Keeps (Settled level) := by
  induction level with
  | zero => exact Recorded.behaviour_keeps leaf
  | succ level ih => exact Layer.behaviour_keeps (Recorded.behaviour_keeps _) ih

/-- A new service is settled when it begins to be tracked. -/
theorem settled_new {level : Nat} {service : Live ω L level} (isNew : Live.Fresh level service) :
    Settled level .closed (new level service) := by
  induction level with
  | zero => rfl
  | succ level ih =>
      cases service with
      | single s => rfl
      | chain s =>
          have settled : Members.Fresh (Settled level .closed)
              (s.services.map (Managed.map (new level))) :=
            fresh_members_map isNew fun _ => ih
          exact settled.coherent (fun _ => id) _

/-- The leaves of a tracked service: those services in it that are no lists, in order. -/
def leaves : (level : Nat) → State → Tracked ω L level → List Leaf
  | 0, state, r => Recorded.leaves state r
  | level + 1, state, service => Layer.leaves Recorded.leaves (leaves level) state service

theorem tells_leaves (level : Nat) :
    Tells (Settled level) (leaves (ω := ω) (L := L) level) := by
  induction level with
  | zero => exact Recorded.tells_leaves
  | succ level ih => exact Layer.tells_leaves Recorded.tells_leaves ih

end Tracked

end IntegrationHost.Service
