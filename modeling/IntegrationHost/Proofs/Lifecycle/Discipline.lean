import IntegrationHost.Proofs.Lifecycle.Obedience
import IntegrationHost.Proofs.Service.Recorded

/-!
# The discipline of managed components

A component with a record of its hook calls shows what the commands do to it. Whatever its hooks
come to, each of them is called only where its event is legal, and the state is always the one that
the record leads to. Only a single event is ever refused as illegal, and then nothing has happened;
requests and walks take nothing but legal events, and succeed only where they were to lead.
-/

namespace IntegrationHost

open Lifecycle

/-! ## What a record says -/

namespace Service.Call

/-- The state after a call. -/
def next : State → Call → State
  | _, ⟨.init, true⟩ => .initialised
  | _, ⟨.start, true⟩ => .started
  | _, ⟨.stop, _⟩ => .stopped
  | _, ⟨.close, _⟩ => .closed
  | state, ⟨.init, false⟩ => state
  | state, ⟨.start, false⟩ => state

/-- The state to which calls lead a component that was closed. -/
def replay (calls : List Call) : State := calls.foldl next .closed

/-- Each call was made in a state in which its event is legal. -/
def Lawful (calls : List Call) : Prop :=
  ∀ before call after, calls = before ++ call :: after →
    (replay before).canMoveTo call.event.target = true

theorem next_eq (state : State) (event : Event) (succeeded : Bool) :
    next state ⟨event, succeeded⟩ = event.outcome state succeeded := by
  cases event <;> cases succeeded <;> rfl

theorem replay_append (calls : List Call) (call : Call) :
    replay (calls ++ [call]) = next (replay calls) call :=
  List.foldl_concat ..

theorem lawful_nil : Lawful [] := by
  intro before call after split
  cases before <;> cases split

theorem Lawful.append {calls : List Call} (lawful : Lawful calls) {call : Call}
    (legal : (replay calls).canMoveTo call.event.target = true) : Lawful (calls ++ [call]) := by
  intro before other after split
  rcases List.eq_nil_or_concat after with rfl | ⟨between, last, rfl⟩
  · obtain ⟨rfl, same⟩ := List.append_inj' split rfl
    cases same
    exact legal
  · rw [List.concat_eq_append, ← List.cons_append, ← List.append_assoc] at split
    exact lawful before other between (List.append_inj' split rfl).1

end Service.Call

namespace Lifecycle

open Service (Call Recorded)

variable {ω C : Type}

/-- What a component does of which each call of a hook is taken down. -/
def Hooks.recorded (hooks : Hooks ω C) : Hooks ω (Recorded C) :=
  ⟨fun event r world =>
    let ran := hooks.run event r.service world
    ran.map fun component => ⟨component, r.calls ++ [⟨event, ran.succeeded⟩]⟩⟩

/-- Without the record a component does what it did. -/
theorem Hooks.recorded_projection (hooks : Hooks ω C) :
    Hooks.Projection Recorded.service hooks.recorded hooks :=
  fun _ _ _ => rfl

/-- The calls were lawful, and they lead to the state. -/
def Recorded.Accounts (state : State) (r : Recorded C) : Prop :=
  Call.Lawful r.calls ∧ state = Call.replay r.calls

/-- At legal events a record goes on to account for the state, whatever comes of the hooks. -/
theorem Hooks.recorded_keeps (hooks : Hooks ω C) :
    hooks.recorded.Keeps State.accepts Recorded.Accounts := by
  rintro _ event r world legal ⟨lawful, rfl⟩
  refine ⟨lawful.append legal, ?_⟩
  simp only [recorded, Attempt.map, Call.replay_append, Call.next_eq]
  rfl

/-! ## Events that are taken -/

namespace State

theorem takes_of_takes_expects {state : State} {events : List Event}
    (takes : state.Takes expects events) : state.Takes accepts events := by
  induction events generalizing state with
  | nil => trivial
  | cons event rest ih => exact ⟨accepts_of_expects takes.1, ih takes.2⟩

/-- A walk takes legal events only. -/
theorem takes_pathTo (state target : State) :
    state.Takes accepts ((state.pathTo target).map event) := by
  cases state <;> cases target <;> simp [pathTo, event, Takes, accepts, canMoveTo, Event.target]

/-- A walk leads to its target. -/
theorem after_pathTo (state target : State) :
    state.after ((state.pathTo target).map event) = target := by
  cases state <;> cases target <;> rfl

end State

/-- The state that a request or a walk is to lead to, if it is one state only. -/
def Command.goal? : Command → Option State
  | .moveTo target => some target
  | .request .start => some .started
  | .request .close => some .closed
  | _ => none

namespace Managed

variable {hooks : Hooks ω C} {m : Managed C} {world : ω}

/-- An event that is refused as illegal has not happened. -/
theorem fire_of_invalid {event other : Event} {component : String} {origin : State}
    (refused : (m.fire hooks event world).verdict =
      .error (.invalidTransition component origin other)) :
    other = event ∧ (m.fire hooks event world).value = m ∧
      (m.fire hooks event world).world = world := by
  rcases fire_cases hooks event m world with ⟨_, fired⟩ | ⟨_, _, _, _, fired⟩ | ⟨_, _, fired⟩
  · rw [fired] at refused ⊢
    cases refused
    exact ⟨rfl, rfl, rfl⟩
  · rw [fired] at refused
    cases event <;> cases refused
  · rw [fired] at refused
    cases refused

/-- An event that is legal is not refused as illegal. -/
theorem fire_ne_invalid {event other : Event} (legal : m.state.accepts event = true)
    (component : String) (origin : State) :
    (m.fire hooks event world).verdict ≠ .error (.invalidTransition component origin other) := by
  intro refused
  rcases fire_cases hooks event m world with ⟨illegal, _⟩ | ⟨_, _, _, _, fired⟩ | ⟨_, _, fired⟩
  · cases legal.symm.trans illegal
  · rw [fired] at refused
    cases event <;> cases refused
  · rw [fired] at refused
    cases refused

/-- Neither are events that are legal one after the other. -/
theorem fireAll_ne_invalid {events : List Event} (takes : m.state.Takes State.accepts events)
    (component : String) (origin : State) (other : Event) :
    (m.fireAll hooks events world).verdict ≠
      .error (.invalidTransition component origin other) := by
  induction events generalizing m world with
  | nil => exact nofun
  | cons event rest ih =>
      cases fired : (m.fire hooks event world).verdict with
      | ok _ =>
          rw [fireAll_cons_of_ok fired]
          apply ih
          rw [fire_state fired]
          exact takes.2
      | error error =>
          simp only [fireAll, Attempt.andThen, fired]
          rw [← fired]
          exact fire_ne_invalid takes.1 component origin

/-- Legal events that cannot fail succeed. -/
theorem fireAll_ok {events : List Event} (takes : m.state.Takes State.accepts events)
    (cannotFail : ∀ event ∈ events, event.canFail = false) :
    (m.fireAll hooks events world).verdict = .ok () := by
  induction events generalizing m world with
  | nil => rfl
  | cons event rest ih =>
      obtain ⟨first, others⟩ := List.forall_mem_cons.mp cannotFail
      have fired : (m.fire hooks event world).verdict = .ok () :=
        fire_verdict takes.1 first world
      rw [fireAll_cons_of_ok fired]
      refine ih ?_ others
      rw [fire_state fired]
      exact takes.2

/-- Where events have all succeeded the component is where they lead. -/
theorem fireAll_state {events : List Event}
    (succeeded : (m.fireAll hooks events world).verdict = .ok ()) :
    (m.fireAll hooks events world).value.state = m.state.after events := by
  induction events generalizing m world with
  | nil => rfl
  | cons event rest ih =>
      cases fired : (m.fire hooks event world).verdict with
      | ok _ =>
          rw [fireAll_cons_of_ok fired] at succeeded ⊢
          rw [ih succeeded, fire_state fired]
          rfl
      | error error =>
          simp only [fireAll, Attempt.andThen, fired] at succeeded
          cases succeeded

/-! ## Commands -/

/-- Of all commands only a single event is refused as illegal, and then it has not happened. -/
theorem perform_of_invalid {command : Command} {component : String} {origin : State}
    {event : Event}
    (refused : (m.perform hooks command world).verdict =
      .error (.invalidTransition component origin event)) :
    command = .fire event ∧ (m.perform hooks command world).value = m ∧
      (m.perform hooks command world).world = world := by
  cases command with
  | fire other =>
      obtain ⟨rfl, unchanged⟩ := fire_of_invalid refused
      exact ⟨rfl, unchanged⟩
  | request other =>
      have takes := State.takes_of_takes_expects (m.state.takes_requested other)
      exact absurd refused (fireAll_ne_invalid takes component origin event)
  | moveTo target =>
      exact absurd refused (fireAll_ne_invalid (m.state.takes_pathTo target) component origin event)

/-- Requests to stop and to close never fail. -/
theorem request_ok {event : Event} (cannotFail : event.canFail = false) :
    (m.request hooks event world).verdict = .ok () := by
  apply fireAll_ok (State.takes_of_takes_expects (m.state.takes_requested event))
  cases event <;> cases m.state <;> simp_all [Event.requested, Event.canFail]

/-- A request or a walk that has succeeded has led to its goal. -/
theorem perform_goal {command : Command} {goal : State} (aimed : command.goal? = some goal)
    (succeeded : (m.perform hooks command world).verdict = .ok ()) :
    (m.perform hooks command world).value.state = goal := by
  cases command with
  | fire event => cases aimed
  | moveTo target =>
      cases aimed
      exact (fireAll_state succeeded).trans (m.state.after_pathTo goal)
  | request event =>
      refine (fireAll_state succeeded).trans ?_
      cases event <;> cases aimed <;> cases m.state <;> rfl

/-- Carry out commands one after the other, whatever comes of each. -/
def performAll (hooks : Hooks ω C) : List Command → Managed C → ω → Managed C × ω
  | [], m, world => (m, world)
  | first :: rest, m, world =>
      let left := m.perform hooks first world
      performAll hooks rest left.value left.world

/-- What hooks keep at legal events is kept by all commands together. -/
theorem Fits.performAll {P : State → C → Prop} (keeps : hooks.Keeps State.accepts P)
    (fits : m.Fits P) (commands : List Command) (world : ω) :
    (m.performAll hooks commands world).1.Fits P := by
  induction commands generalizing m world with
  | nil => exact fits
  | cons first rest ih => exact ih (fits.perform keeps first world) _

theorem performAll_map {D : Type} {f : C → D} {coarse : Hooks ω D}
    (projection : Hooks.Projection f hooks coarse) (commands : List Command) (m : Managed C)
    (world : ω) :
    (m.map f).performAll coarse commands world =
      ((m.performAll hooks commands world).1.map f, (m.performAll hooks commands world).2) := by
  induction commands generalizing m world with
  | nil => rfl
  | cons first rest ih =>
      simp only [performAll, perform_map projection, Attempt.map]
      exact ih _ _

/-- A new component carries out commands, whatever its hooks come to each time. Taking down the
calls of its hooks changes nothing else. Each call was made where its event is legal, and the state
is the one that the calls lead to. Of whatever is commanded next, only a single event can be refused
as illegal, and then no hook was called and nothing has changed; requests to stop and to close
succeed; and where a command that aims at a state succeeds, it has led there. -/
theorem performAll_disciplined (hooks : Hooks ω C) (name : String) (component : C) (world : ω)
    (commands : List Command) :
    let left := (new name (Recorded.new component)).performAll hooks.recorded commands world
    let m := left.1
    (new name component).performAll hooks commands world = (m.map Recorded.service, left.2) ∧
    Call.Lawful m.component.calls ∧ m.state = Call.replay m.component.calls ∧
    ∀ command,
      let next := m.perform hooks.recorded command left.2
      (∀ component origin event,
        next.verdict = .error (.invalidTransition component origin event) →
          command = .fire event ∧ next.value = m ∧ next.world = left.2) ∧
      (command = .request .stop ∨ command = .request .close → next.verdict = .ok ()) ∧
      ∀ goal, command.goal? = some goal → next.verdict = .ok () → next.value.state = goal := by
  intro left m
  have isNew : (new name (Recorded.new component)).Fits Recorded.Accounts :=
    ⟨Call.lawful_nil, rfl⟩
  obtain ⟨lawful, replayed⟩ := isNew.performAll hooks.recorded_keeps commands world
  have erased := performAll_map hooks.recorded_projection commands
    (new name (Recorded.new component)) world
  refine ⟨erased, lawful, replayed, ?_⟩
  intro command next
  refine ⟨?_, ?_, ?_⟩
  · intro component origin event refused
    exact perform_of_invalid refused
  · rintro (rfl | rfl)
    · exact request_ok rfl
    · exact request_ok rfl
  · intro goal aimed succeeded
    exact perform_goal aimed succeeded

end Managed

end Lifecycle

end IntegrationHost
