import IntegrationHost.Proofs.Adapter.Projection
import IntegrationHost.Proofs.Service.Recorded

/-!
# The balance of calls

However an adapter is driven and whichever hooks fail, no service in it is initialised twice without
being closed in between, and none is left initialised: a service was successfully initialised once
more than closed as long as it is not closed itself, and as often as soon as it is. Closing the
adapter closes all of them.
-/

namespace IntegrationHost

open Lifecycle Service

variable {ω C D : Type} {P : State → C → Prop} {parts : State → C → List Leaf}

/-! ## Leaves -/

/-- The leaves of a workflow, given those of services. -/
def Workflow.leaves (parts : State → C → List Leaf) (w : Workflow C) : List Leaf :=
  memberLeaves parts w.services

theorem Workflow.tells_leaves (tells : Tells P parts) :
    Tells (Workflow.Coherent P) fun _ w => w.leaves parts :=
  fun state w coherent => tells.members _ state w.services coherent

/-- The leaves of a channel, given those of services. -/
def Channel.leaves (parts : State → C → List Leaf) (c : Channel C) : List Leaf :=
  memberLeaves (fun _ w => w.leaves parts) c.workflows

theorem Channel.tells_leaves (tells : Tells P parts) :
    Tells (Channel.Coherent P) fun _ c => c.leaves parts :=
  fun state c coherent => (Workflow.tells_leaves tells).members _ state c.workflows coherent

namespace Adapter

/-- The leaves of an adapter, given those of services. -/
def leaves (parts : State → C → List Leaf) (a : Adapter C) : List Leaf :=
  memberLeaves (fun _ c => c.leaves parts) a.channels

theorem tells_leaves (tells : Tells P parts) :
    Tells (Coherent P) fun _ a => a.leaves parts :=
  fun state a coherent => (Channel.tells_leaves tells).members _ state a.channels coherent

/-! ## Balance -/

/-- New adapters stay new when new services are made into new ones. -/
theorem fresh_map {fresh : C → Prop} {freshly : D → Prop} {a : Adapter C} (isNew : a.Fresh fresh)
    {f : C → D} (keeps : ∀ c, fresh c → freshly (f c)) :
    (a.map f).Fresh freshly := by
  refine fresh_members_map isNew fun channel channelNew => ?_
  refine fresh_members_map channelNew fun workflow workflowNew => ?_
  exact fresh_members_map workflowNew keeps

/-- Whatever a new adapter is asked to do, with the hooks of its leaves taken down: without the
records it does what it does anyway; every leaf was initialised with success once more than closed,
or as often when it is closed; and after a request to close the adapter all leaves are closed. -/
theorem actAll_balances_calls {L : Type} (leaf : Behaviour ω L) (level : Nat) (name : String)
    {a : Adapter (Live ω L level)} (new : a.Fresh (Live.Fresh level)) (deeds : List Deed)
    (world : ω) :
    let tracked := Tracked.behaviour leaf level
    let left := actAll tracked deeds (.new name (a.map (Tracked.new level))) world
    let closed := (left.1.request (hooks tracked) .close left.2).value
    actAll (Live.behaviour leaf level) deeds (.new name a) world =
        (left.1.map (map (Tracked.forget level)), left.2) ∧
      (∀ service ∈ left.1.component.leaves (Tracked.leaves level),
        Call.inits service.calls =
          Call.closes service.calls + if service.state = .closed then 0 else 1) ∧
      ∀ service ∈ closed.component.leaves (Tracked.leaves level),
        service.state = .closed ∧ Call.inits service.calls = Call.closes service.calls := by
  intro tracked left closed
  have keeps := Tracked.behaviour_keeps leaf level
  have tells := Adapter.tells_leaves (Tracked.tells_leaves (ω := ω) (L := L) level)
  have start : (Managed.new name (a.map (Tracked.new level))).Fits
      (Coherent (Tracked.Settled level)) :=
    (fresh_map new fun _ => Tracked.settled_new).coherent fun _ => id
  have settled : left.1.Fits (Coherent (Tracked.Settled level)) :=
    actAll_coherent keeps deeds start world
  refine ⟨?_, ?_, ?_⟩
  · have erased := actAll_map (Tracked.behaviour_projection leaf level) deeds
      (.new name (a.map (Tracked.new level))) world
    have restored := map_leftInverse (Tracked.forget_new level) a
    simp only [Managed.map, Managed.withComponent, Managed.new, restored] at erased
    exact erased
  · intro service isLeaf
    exact (tells _ _ settled service isLeaf).1
  · have closedState : closed.state = .closed :=
      Managed.request_close_state (hooks tracked) left.2
    have stillSettled : closed.Fits (Coherent (Tracked.Settled level)) :=
      settled.request (hooks_keeps keeps).expected .close left.2
    intro service isLeaf
    obtain ⟨balanced, closes⟩ := tells _ _ stillSettled service isLeaf
    have isClosed := closes closedState
    refine ⟨isClosed, ?_⟩
    unfold Call.Balanced at balanced
    rw [isClosed] at balanced
    exact balanced

/-- The attempt to start two channels fails after all their services were initialised and one was
started; closing the adapter then leaves none of them open. -/
theorem actAll_balances_calls_twoChannels :
    let tracked := Tracked.behaviour everyEighth 1
    let left :=
      actAll tracked [.obey (.request .start)]
        (.new "adapter" (twoChannels.map (Tracked.new 1))) 0
    let closed := (left.1.request (hooks tracked) .close left.2).value
    twoChannels.Fresh (Live.Fresh 1) ∧
      (left.1.component.leaves (Tracked.leaves 1)).map Leaf.state =
        [.stopped, .initialised, .initialised, .initialised, .initialised, .initialised] ∧
      ∀ service ∈ closed.component.leaves (Tracked.leaves 1),
        service.state = .closed ∧ Call.inits service.calls = Call.closes service.calls :=
  ⟨twoChannels_fresh, by decide,
    (actAll_balances_calls everyEighth 1 "adapter" twoChannels_fresh [.obey (.request .start)]
      0).2.2⟩

end Adapter

end IntegrationHost
