import IntegrationHost.Proofs.Lifecycle.Trail

/-!
# Walks

Which single moves are legal, along which states a component walks to a distant one, and which
events a request takes, are three tables over one graph. A walk calls the hooks along a shortest way
in that graph, in order, up to the first `init` or `start` that fails, and it succeeds just when it
ends where it was to lead. A request that is for one state and no other is the walk there.
-/

namespace IntegrationHost.Lifecycle

open Service (Call Recorded)

variable {ω C : Type}

/-! ## Ways from state to state -/

namespace State

/-- The states that lead from one state to another by legal moves, the first of them left out. -/
inductive Way : State → List State → State → Prop
  | here (state : State) : Way state [] state
  | move {origin next target : State} {rest : List State}
      (legal : origin.canMoveTo next = true) (onward : Way next rest target) :
      Way origin (next :: rest) target

/-- A way to which there is no shorter one. -/
structure ShortestWay (origin : State) (states : List State) (target : State) : Prop where
  leads : Way origin states target
  length_le : ∀ others, Way origin others target → states.length ≤ others.length

variable {origin next target : State} {states : List State}

/-- The table of paths holds ways. -/
theorem way_pathTo (origin target : State) : Way origin (origin.pathTo target) target := by
  cases origin <;> cases target <;>
    repeat first
      | exact .here _
      | apply Way.move rfl

/-- One move brings a component closer to its target by one state at the most. -/
theorem length_pathTo_le_succ (legal : origin.canMoveTo next = true) (target : State) :
    (origin.pathTo target).length ≤ (next.pathTo target).length + 1 := by
  revert legal
  cases origin <;> cases next <;> cases target <;> decide

/-- No way is shorter than the one in the table. -/
theorem Way.length_pathTo_le (way : Way origin states target) :
    (origin.pathTo target).length ≤ states.length := by
  induction way with
  | here state => cases state <;> exact Nat.le_refl 0
  | @move origin next target rest legal onward ih =>
      calc
        (origin.pathTo target).length ≤ (next.pathTo target).length + 1 :=
          length_pathTo_le_succ legal target
        _ ≤ rest.length + 1 := Nat.succ_le_succ ih

theorem shortestWay_pathTo (origin target : State) :
    ShortestWay origin (origin.pathTo target) target :=
  ⟨way_pathTo origin target, fun _ other => other.length_pathTo_le⟩

/-- The first states of a way are a way to the last of them. -/
theorem Way.passed {passed ahead : List State} (way : Way origin (passed ++ ahead) target) :
    Way origin passed (passed.getLastD origin) := by
  induction passed generalizing origin with
  | nil => exact .here origin
  | cons next rest ih =>
      cases way with
      | move legal onward =>
          rw [List.getLastD_cons]
          exact .move legal (ih onward)

/-- A way ends at its target. -/
theorem Way.getLastD_eq (way : Way origin states target) : states.getLastD origin = target := by
  induction way with
  | here state => rfl
  | move legal onward ih => rwa [List.getLastD_cons]

/-- A shortest way does not come to its target before its end. -/
theorem ShortestWay.getLastD_ne {passed ahead : List State}
    (shortest : ShortestWay origin (passed ++ next :: ahead) target) :
    passed.getLastD origin ≠ target := by
  intro arrived
  have sooner := shortest.leads.passed
  rw [arrived] at sooner
  have shorter := shortest.length_le passed sooner
  rw [List.length_append, List.length_cons] at shorter
  omega

/-- Events that lead through states lead to the last of them. -/
theorem after_map_event (origin : State) (states : List State) :
    origin.after (states.map event) = states.getLastD origin := by
  induction states generalizing origin with
  | nil => rfl
  | cons next rest ih =>
      rw [List.map_cons, after, target_event, ih, List.getLastD_cons]

end State

/-! ## What a walk comes to -/

/-- What comes of walking along states: the verdict, the calls of hooks, and the state in the end.
Either all states were reached, or the event for one of them could fail and did, and the component
has stayed in the state before it. Of the calls before that, none of an event that can fail has
failed. -/
inductive State.Walked (origin : State) (way : List State) :
    Except Error Unit → List Call → State → Prop
  | arrived {calls : List Call} (made : Call.Made (way.map event) calls) :
      Walked origin way (.ok ()) calls (way.getLastD origin)
  | brokeOff {error : Error} {passed ahead : List State} {next : State} {calls : List Call}
      (split : way = passed ++ next :: ahead) (made : Call.Made (passed.map event) calls)
      (mayFail : next.event.canFail = true) :
      Walked origin way (.error error) (calls ++ [⟨next.event, false⟩]) (passed.getLastD origin)

/-- A walk along a shortest way succeeds just when it ends at the target. -/
theorem State.Walked.ok_iff {origin target last : State} {way : List State} {calls : List Call}
    {verdict : Except Error Unit} (walked : State.Walked origin way verdict calls last)
    (shortest : State.ShortestWay origin way target) : verdict = .ok () ↔ last = target := by
  cases walked with
  | arrived made => exact iff_of_true rfl shortest.leads.getLastD_eq
  | brokeOff split made mayFail =>
      subst split
      exact iff_of_false nofun shortest.getLastD_ne

/-- The state that a request is for, if no other will do: a request to start or to close always has
one, and so have the requests that take a single event from the state that they are made in. -/
def Event.Aims : Event → State → Prop
  | start, _ => True
  | close, _ => True
  | init, state => state = .closed
  | stop, state => state = .started

/-- A request that is for one state takes the events that lead there. -/
theorem Event.Aims.requested_eq {event : Event} {state : State} (aims : event.Aims state) :
    event.requested state = (state.pathTo event.target).map State.event := by
  cases event <;> cases state <;> first | rfl | cases aims

namespace Managed

/-- A request that is for one state is the walk there. -/
theorem request_eq_moveTo {m : Managed C} {event : Event} (aims : event.Aims m.state)
    (hooks : Hooks ω C) (world : ω) :
    m.request hooks event world = m.moveTo hooks event.target world := by
  rw [request, moveTo, aims.requested_eq]

/-- What a component without calls has come to when it was to walk through states by legal events.
-/
theorem walked_fireAll {hooks : Hooks ω C} {m : Managed (Recorded C)} {world : ω}
    {way : List State} (new : m.component.calls = [])
    (takes : m.state.Takes State.accepts (way.map State.event)) :
    let walked := m.fireAll hooks.recorded (way.map State.event) world
    State.Walked m.state way walked.verdict walked.value.component.calls walked.value.state := by
  intro walked
  cases verdict : walked.verdict with
  | ok _ =>
      have took := fireAll_took verdict
      obtain ⟨calls, calls_eq, made⟩ := took.called
      rw [new, List.nil_append] at calls_eq
      rw [took.state_eq, State.after_map_event, calls_eq]
      exact .arrived made
  | error error =>
      have broke := fireAll_brokeOff takes verdict
      obtain ⟨before, event, after, calls, split, mayFail, state_eq, made, calls_eq⟩ := broke.broken
      obtain ⟨passed, others, way_eq, rfl, others_eq⟩ := List.map_eq_append_iff.mp split
      obtain ⟨next, ahead, rfl, rfl, _⟩ := List.map_eq_cons_iff.mp others_eq
      rw [new, List.nil_append] at calls_eq
      rw [state_eq, State.after_map_event, calls_eq]
      exact .brokeOff way_eq made mayFail

/-- A component walks to a state from any other, whatever its hooks come to each time. Taking down
their calls changes nothing else. It calls the hooks along a shortest way there, in order, up to the
first `init` or `start` that fails, and is then in the state that it had come to; it succeeds just
when it ends at its target. A request to start or to close is the walk to that state: with the same
verdict, calls and state in the end; and so is a request to initialise a component that is closed,
and one to stop a component that is started. -/
theorem moveTo_walks (hooks : Hooks ω C) (m : Managed C) (target : State) (world : ω) :
    let fresh := m.withComponent (Recorded.new m.component)
    let walked := fresh.moveTo hooks.recorded target world
    m.moveTo hooks target world = walked.map (Managed.map Recorded.service) ∧
    (∃ way, State.ShortestWay m.state way target ∧
      State.Walked m.state way walked.verdict walked.value.component.calls walked.value.state) ∧
    (walked.verdict = .ok () ↔ walked.value.state = target) ∧
    ∀ event : Event, event.Aims m.state →
      fresh.request hooks.recorded event world =
        fresh.moveTo hooks.recorded event.target world := by
  intro fresh walked
  have takes := m.state.takes_pathTo target
  have shortest := m.state.shortestWay_pathTo target
  have came : State.Walked m.state (m.state.pathTo target) walked.verdict
      walked.value.component.calls walked.value.state :=
    walked_fireAll (m := fresh) rfl takes
  refine ⟨?_, ⟨_, shortest, came⟩, came.ok_iff shortest, ?_⟩
  · exact perform_map hooks.recorded_projection (.moveTo target) fresh world
  · intro event aims
    exact request_eq_moveTo (m := fresh) aims hooks.recorded world

end Managed

end IntegrationHost.Lifecycle
