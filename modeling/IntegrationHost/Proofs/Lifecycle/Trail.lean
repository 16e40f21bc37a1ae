import IntegrationHost.Proofs.Lifecycle.Discipline

/-!
# The trail of a component

What a component with a record of its hook calls has gone through between two moments: events that
it has taken, with one call for each, or events of which one has failed. A request that succeeds has
all its events taken. One that fails has broken off at an event that can fail: the call for that is
the last one, and the component is where the events before have led it.
-/

namespace IntegrationHost

open Lifecycle

/-! ## Calls for events -/

namespace Service.Call

/-- There is one call for each event, in order, and those that can fail have not. -/
structure Made (events : List Event) (calls : List Call) : Prop where
  events_eq : calls.map Call.event = events
  succeeded : ∀ call ∈ calls, call.event.canFail = true → call.succeeded = true

variable {events others : List Event} {calls otherCalls : List Call}

theorem Made.append (made : Made events calls) (otherMade : Made others otherCalls) :
    Made (events ++ others) (calls ++ otherCalls) := by
  constructor
  · rw [List.map_append, made.events_eq, otherMade.events_eq]
  · exact List.forall_mem_append.mpr ⟨made.succeeded, otherMade.succeeded⟩

/-- A component was initialised as often as it was to be. -/
theorem Made.inits_eq (made : Made events calls) : inits calls = events.count .init := by
  rw [← made.events_eq, List.count, List.countP_map]
  apply List.countP_congr
  intro call isCall
  have succeeded := made.succeeded call isCall
  cases call with
  | mk event outcome => cases event <;> simp_all [Event.canFail]

/-- A component was closed as often as it was to be. -/
theorem Made.closes_eq (made : Made events calls) : closes calls = events.count .close := by
  rw [← made.events_eq, List.count, List.countP_map]
  rfl

end Service.Call

namespace Lifecycle

open Service (Call Recorded)

variable {ω C : Type}

theorem State.after_append (state : State) (first second : List Event) :
    state.after (first ++ second) = (state.after first).after second := by
  induction first generalizing state with
  | nil => rfl
  | cons event rest ih => exact ih event.target

/-- A hook that can fail has not when its event has moved the component. -/
theorem Event.succeeded_of_outcome {state : State} {event : Event} {succeeded : Bool}
    (legal : state.accepts event = true) (mayFail : event.canFail = true)
    (moved : event.outcome state succeeded = event.target) : succeeded = true := by
  cases state <;> cases event <;> cases succeeded <;>
    simp_all [State.accepts, State.canMoveTo, Event.target, Event.canFail, Event.outcome]

namespace Managed

/-! ## Events that were taken -/

/-- The component has taken the events; where there are none it is what it was. -/
structure Took (events : List Event) (m left : Managed (Recorded C)) : Prop where
  name_eq : left.name = m.name
  state_eq : left.state = m.state.after events
  called : ∃ calls, left.component.calls = m.component.calls ++ calls ∧ Call.Made events calls
  untouched : events = [] → left = m

/-- One of the events, which can fail, has failed after the component took those before. -/
structure BrokeOff (events : List Event) (m left : Managed (Recorded C)) : Prop where
  name_eq : left.name = m.name
  broken : ∃ before event after calls, events = before ++ event :: after ∧
    event.canFail = true ∧ left.state = m.state.after before ∧ Call.Made before calls ∧
    left.component.calls = m.component.calls ++ calls ++ [⟨event, false⟩]

variable {hooks : Hooks ω C} {m middle left : Managed (Recorded C)} {world : ω}
  {first second : List Event}

theorem Took.refl (m : Managed (Recorded C)) : m.Took [] m :=
  ⟨rfl, rfl, ⟨[], (List.append_nil _).symm, rfl, List.forall_mem_nil _⟩, fun _ => rfl⟩

theorem Took.trans (took : m.Took first middle) (next : middle.Took second left) :
    m.Took (first ++ second) left := by
  obtain ⟨calls, calls_eq, made⟩ := took.called
  obtain ⟨others, others_eq, othersMade⟩ := next.called
  constructor
  · rw [next.name_eq, took.name_eq]
  · rw [next.state_eq, took.state_eq, State.after_append]
  · exact ⟨calls ++ others, by rw [others_eq, calls_eq, List.append_assoc], made.append othersMade⟩
  · intro nothing
    obtain ⟨noFirst, noSecond⟩ := List.append_eq_nil_iff.mp nothing
    rw [next.untouched noSecond, took.untouched noFirst]

theorem Took.brokeOff (took : m.Took first middle) (broke : middle.BrokeOff second left) :
    m.BrokeOff (first ++ second) left := by
  obtain ⟨calls, calls_eq, made⟩ := took.called
  obtain ⟨before, event, after, others, rfl, mayFail, state_eq, othersMade, others_eq⟩ :=
    broke.broken
  refine ⟨broke.name_eq.trans took.name_eq, first ++ before, event, after, calls ++ others, ?_,
    mayFail, ?_, made.append othersMade, ?_⟩
  · rw [List.append_assoc]
  · rw [state_eq, took.state_eq, State.after_append]
  · rw [others_eq, calls_eq, List.append_assoc m.component.calls]

theorem BrokeOff.append (broke : m.BrokeOff first left) (second : List Event) :
    m.BrokeOff (first ++ second) left := by
  obtain ⟨before, event, after, calls, rfl, rest⟩ := broke.broken
  refine ⟨broke.name_eq, before, event, after ++ second, calls, ?_, rest⟩
  rw [List.append_assoc, List.cons_append]

/-- Where there are no events none breaks off. -/
theorem BrokeOff.ne_nil (broke : m.BrokeOff first left) : first ≠ [] := by
  obtain ⟨before, event, after, _, split, _⟩ := broke.broken
  rw [split]
  exact List.append_ne_nil_of_right_ne_nil before (List.cons_ne_nil event after)

/-- A single event that has broken off has left the component where it was, with the call of a hook
that failed. -/
theorem BrokeOff.single {event : Event} (broke : m.BrokeOff [event] left) :
    left.state = m.state ∧ left.component.calls = m.component.calls ++ [⟨event, false⟩] := by
  obtain ⟨before, failed, after, calls, split, _, state_eq, made, calls_eq⟩ := broke.broken
  cases before with
  | nil =>
      cases split
      have noCalls : calls = [] := List.map_eq_nil_iff.mp made.events_eq
      rw [noCalls, List.append_nil] at calls_eq
      exact ⟨state_eq, calls_eq⟩
  | cons first rest =>
      rw [List.cons_append, List.cons.injEq] at split
      cases rest <;> cases split.2

/-- A single event that was taken and could fail has called its hook with success. -/
theorem Took.single {event : Event} (took : m.Took [event] left) (mayFail : event.canFail = true) :
    left.component.calls = m.component.calls ++ [⟨event, true⟩] := by
  obtain ⟨calls, calls_eq, made⟩ := took.called
  obtain ⟨call, rfl, rfl⟩ := List.map_eq_singleton_iff.mp made.events_eq
  have succeeded := made.succeeded call (List.mem_singleton_self call) mayFail
  rw [calls_eq, ← succeeded]

/-- A component was closed as often more as the events say. -/
theorem Took.closes_eq {events : List Event} (took : m.Took events left) :
    Call.closes left.component.calls = Call.closes m.component.calls + events.count .close := by
  obtain ⟨calls, calls_eq, made⟩ := took.called
  rw [← made.closes_eq, calls_eq, Call.closes, List.countP_append]
  rfl

/-! ## What events leave behind -/

/-- A legal event that has succeeded is taken. -/
theorem fire_took {event : Event}
    (succeeded : (m.fire hooks.recorded event world).verdict = .ok ()) :
    m.Took [event] (m.fire hooks.recorded event world).value := by
  rcases fire_cases hooks.recorded event m world with
    ⟨_, fired⟩ | ⟨_, _, _, _, fired⟩ | ⟨legal, outcome, fired⟩
  · rw [fired] at succeeded
    cases succeeded
  · rw [fired] at succeeded
    cases succeeded
  · rw [fired]
    refine ⟨rfl, rfl, ⟨_, rfl, rfl, ?_⟩, nofun⟩
    intro call isCall mayFail
    cases List.mem_singleton.mp isCall
    exact Event.succeeded_of_outcome legal mayFail outcome

/-- A legal event that has failed has broken off at once. -/
theorem fire_brokeOff {event : Event} {error : Error} (legal : m.state.accepts event = true)
    (failed : (m.fire hooks.recorded event world).verdict = .error error) :
    m.BrokeOff [event] (m.fire hooks.recorded event world).value := by
  rcases fire_cases hooks.recorded event m world with
    ⟨illegal, _⟩ | ⟨_, mayFail, reason, refused, fired⟩ | ⟨_, _, fired⟩
  · cases legal.symm.trans illegal
  · rw [fired]
    refine ⟨rfl, [], event, [], [], rfl, mayFail, rfl, ⟨rfl, List.forall_mem_nil _⟩, ?_⟩
    have notSucceeded : (hooks.run event m.component.service world).succeeded = false := by
      simp only [Hooks.recorded, Attempt.map] at refused
      simp only [Attempt.succeeded, refused]
    simp only [Attempt.refused, Hooks.recorded, Attempt.map, notSucceeded, List.append_nil]
  · rw [fired] at failed
    cases failed

/-- Events that have all succeeded are taken. -/
theorem fireAll_took {events : List Event}
    (succeeded : (m.fireAll hooks.recorded events world).verdict = .ok ()) :
    m.Took events (m.fireAll hooks.recorded events world).value := by
  induction events generalizing m world with
  | nil => exact .refl m
  | cons event rest ih =>
      cases fired : (m.fire hooks.recorded event world).verdict with
      | ok _ =>
          rw [fireAll_cons_of_ok fired] at succeeded ⊢
          exact (fire_took fired).trans (ih succeeded)
      | error error =>
          simp only [fireAll, Attempt.andThen, fired] at succeeded
          cases succeeded

/-- Legal events of which one has failed have broken off. -/
theorem fireAll_brokeOff {events : List Event} {error : Error}
    (takes : m.state.Takes State.accepts events)
    (failed : (m.fireAll hooks.recorded events world).verdict = .error error) :
    m.BrokeOff events (m.fireAll hooks.recorded events world).value := by
  induction events generalizing m world with
  | nil => cases failed
  | cons event rest ih =>
      cases fired : (m.fire hooks.recorded event world).verdict with
      | ok _ =>
          rw [fireAll_cons_of_ok fired] at failed ⊢
          apply (fire_took fired).brokeOff (ih _ failed)
          rw [fire_state fired]
          exact takes.2
      | error reason =>
          simp only [fireAll, Attempt.andThen, fired]
          exact (fire_brokeOff takes.1 fired).append rest

/-- A request that has succeeded had all its events taken. -/
theorem request_took {event : Event}
    (succeeded : (m.request hooks.recorded event world).verdict = .ok ()) :
    m.Took (event.requested m.state) (m.request hooks.recorded event world).value :=
  fireAll_took succeeded

/-- A request that has failed has broken off. -/
theorem request_brokeOff {event : Event} {error : Error}
    (failed : (m.request hooks.recorded event world).verdict = .error error) :
    m.BrokeOff (event.requested m.state) (m.request hooks.recorded event world).value :=
  fireAll_brokeOff (State.takes_of_takes_expects (m.state.takes_requested event)) failed

/-- A request whose events cannot fail has them all taken. -/
theorem request_taken {event : Event} (safe : ∀ e ∈ event.requested m.state, e.canFail = false)
    (world : ω) :
    (m.request hooks.recorded event world).verdict = .ok () ∧
      m.Took (event.requested m.state) (m.request hooks.recorded event world).value := by
  cases verdict : (m.request hooks.recorded event world).verdict with
  | ok _ => exact ⟨rfl, request_took verdict⟩
  | error error =>
      obtain ⟨before, failed, after, _, split, mayFail, _⟩ := (request_brokeOff verdict).broken
      have isSafe := safe failed (by rw [split]; simp)
      cases mayFail.symm.trans isSafe

end Managed

end Lifecycle

end IntegrationHost
