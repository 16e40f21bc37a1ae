import IntegrationHost.Proofs.Lifecycle.Coherence
import IntegrationHost.Service.Live

/-!
# Coherence of services

The services of a list go along with the list, those of a list inside it go along with that one, and
so on to every depth. Neither events nor messages change this. It is said level by level: a layer
keeps coherent what the services below it keep coherent.
-/

namespace IntegrationHost

open Lifecycle

variable {ω C : Type}

namespace Service

/-- What services do keeps a fit of services and their states: the events of requests, and
messages in every state. -/
structure Behaviour.Keeps (P : State → C → Prop) (b : Behaviour ω C) : Prop where
  hooks : b.hooks.Keeps State.expects P
  process : ∀ state service message world, P state service →
    P state (b.process service message world).value.1

variable {b : Behaviour ω C} {P : State → C → Prop} {state : State}

/-- Running services over a message changes no state, and each service fits on in its own way. -/
theorem processAll_conform {T : Type} {fit : T → State → C → Prop} {tags : List T}
    (keeps : ∀ t, b.Keeps (fit t)) {members : Members C}
    (conform : members.Conform (fun _ => true) fit tags state) (message : Message) (world : ω) :
    Members.Conform (fun _ => true) fit tags state
      (processAll b members message world).value.1 := by
  unfold Members.Conform at conform
  induction conform generalizing message world with
  | nil => exact .nil
  | @cons t m tags rest first others ih =>
      have processed := (keeps t).process m.state m.component message world first.2
      simp only [processAll]
      cases (b.process m.component message world).verdict with
      | ok _ => exact .cons ⟨first.1, processed⟩ (ih _ _)
      | error fault => exact .cons ⟨first.1, processed⟩ others

theorem processAll_inStep (keeps : b.Keeps P) {members : Members C}
    (inStep : members.InStep P state) (message : Message) (world : ω) :
    (processAll b members message world).value.1.InStep P state := by
  have conform : members.Conform (fun _ => true) (fun _ => P) members state :=
    List.forall₂_same.mpr inStep
  exact (processAll_conform (fun _ => keeps) conform message world).coherent

/-! ## Lists -/

namespace Chain

/-- The services of a list go along with it. -/
def Coherent (P : State → C → Prop) (state : State) (chain : Chain C) : Prop :=
  chain.services.InStep P state

theorem behaviour_keeps (keeps : b.Keeps P) : (behaviour b).Keeps (Coherent P) where
  hooks := (Members.hooks_keeps_inStep keeps.hooks).expected.ofPart fun _ _ => rfl
  process state chain message world coherent := by
    have inStep : chain.services.InStep P state := coherent
    exact processAll_inStep keeps inStep message world

end Chain

/-! ## Layers -/

namespace Layer

variable {S : Type} {Q : State → S → Prop}

/-- A service that stands alone fits its state, or the services of a list go along with it. -/
def Coherent (Q : State → S → Prop) (P : State → C → Prop) (state : State) : Layer S C → Prop
  | .single s => Q state s
  | .chain s => s.Coherent P state

/-- A layer keeps coherent what is kept by the services that stand alone and by those of lists. -/
theorem behaviour_keeps {single : Behaviour ω S} (alone : single.Keeps Q) (parts : b.Keeps P) :
    (behaviour single b).Keeps (Coherent Q P) where
  hooks state event service world expected coherent := by
    cases service with
    | single s => exact alone.hooks state event s world expected coherent
    | chain s => exact (Chain.behaviour_keeps parts).hooks state event s world expected coherent
  process state service message world coherent := by
    cases service with
    | single s => exact alone.process state s message world coherent
    | chain s => exact (Chain.behaviour_keeps parts).process state s message world coherent

/-- A new service: the services of a list are new. -/
def Fresh (fresh : C → Prop) : Layer S C → Prop
  | .single _ => True
  | .chain s => s.services.Fresh fresh

end Layer

/-! ## Live services -/

namespace Live

variable {L : Type}

/-- In all lists of a live service, at every depth, the services go along with the list. -/
def Coherent : (level : Nat) → State → Live ω L level → Prop
  | 0, _, _ => True
  | level + 1, state, service =>
      Layer.Coherent (fun _ _ => True) (Coherent level) state service

/-- A new live service: in all its lists, at every depth, the services are closed. -/
def Fresh : (level : Nat) → Live ω L level → Prop
  | 0, _ => True
  | level + 1, service => Layer.Fresh (Fresh level) service

theorem behaviour_keeps (leaf : Behaviour ω L) (level : Nat) :
    (behaviour leaf level).Keeps (Coherent level) := by
  induction level with
  | zero => exact ⟨fun _ _ _ _ _ _ => trivial, fun _ _ _ _ _ => trivial⟩
  | succ level ih =>
      exact Layer.behaviour_keeps ⟨fun _ _ _ _ _ _ => trivial, fun _ _ _ _ _ => trivial⟩ ih

/-- New services are coherent while they are closed. -/
theorem Fresh.coherent {level : Nat} {service : Live ω L level} (new : Fresh level service) :
    Coherent level .closed service := by
  induction level with
  | zero => trivial
  | succ level ih =>
      rcases service with s | s
      · trivial
      · exact Members.Fresh.coherent new (fun _ => ih) _

end Live

/-- Services made from definitions are new. -/
theorem Definition.instantiate_fresh [Journal ω] (level : Nat) (d : Definition)
    (rank_le : d.rank ≤ level) :
    Live.Fresh level (d.instantiate (ω := ω) level rank_le) := by
  induction level generalizing d with
  | zero => trivial
  | succ level ih =>
      cases d with
      | simple id task => trivial
      | splitJoin id poolSize separator timeout service => trivial
      | list id services =>
          unfold instantiate
          simp only [Live.Fresh, Layer.Fresh, Chain.new, List.map_map]
          exact Members.fresh_map fun s isService => ih s.1 _

end Service

end IntegrationHost
