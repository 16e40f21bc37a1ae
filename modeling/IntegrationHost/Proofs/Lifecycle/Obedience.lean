import IntegrationHost.Proofs.Lifecycle.Coherence

/-!
# Components that obey

A component obeys when its hooks succeed at every event that it may be sent and leave it fit for the
state that the event leads to. Requests to such a component succeed as well, and it is known where
they bring it.
-/

namespace IntegrationHost.Lifecycle

variable {ω C : Type}

namespace State

/-- The state after events that all succeed. -/
def after : State → List Event → State
  | state, [] => state
  | _, event :: rest => after event.target rest

/-- Events that may be sent one after the other. -/
def Takes (sent : State → Event → Bool) : State → List Event → Prop
  | _, [] => True
  | state, event :: rest => sent state event = true ∧ Takes sent event.target rest

/-- A request sends only what is expected. -/
theorem takes_requested (state : State) (event : Event) :
    state.Takes expects (event.requested state) := by
  cases state <;> cases event <;> simp [Event.requested, Takes, expects, Event.target]

end State

/-- The hooks succeed at the events that may be sent, and leave components fit for where these lead.
-/
def Hooks.Obeys (sent : State → Event → Bool) (P : State → C → Prop) (hooks : Hooks ω C) : Prop :=
  ∀ state event component world, sent state event = true → P state component →
    (hooks.run event component world).verdict = .ok () ∧
      P event.target (hooks.run event component world).value

variable {hooks : Hooks ω C} {sent : State → Event → Bool} {P : State → C → Prop}

/-- The outcome of a hook that has succeeded is the target of its event. -/
theorem Event.outcome_ok {ran : Attempt Error ω C} (ok : ran.verdict = .ok ()) (event : Event)
    (state : State) : event.outcome state ran.succeeded = event.target := by
  simp [Event.outcome, Attempt.succeeded, ok]

/-- Hooks that keep a fit and succeed obey. -/
theorem Hooks.Keeps.obeys (keeps : hooks.Keeps sent P)
    (succeed : ∀ state event component world, sent state event = true → P state component →
      (hooks.run event component world).verdict = .ok ()) :
    hooks.Obeys sent P := by
  intro state event component world isSent fits
  have ok := succeed state event component world isSent fits
  have kept := keeps state event component world isSent fits
  rw [Event.outcome_ok ok] at kept
  exact ⟨ok, kept⟩

/-- Hooks that obey at all legal events obey at those of requests. -/
theorem Hooks.Obeys.expected (obeys : hooks.Obeys State.accepts P) :
    hooks.Obeys State.expects P := by
  intro state event component world expected
  exact obeys state event component world (State.accepts_of_expects expected)

/-- Hooks that obey keep components fit. -/
theorem Hooks.Obeys.keeps (obeys : hooks.Obeys sent P) : hooks.Keeps sent P := by
  intro state event component world isSent fits
  obtain ⟨succeeded, fitsTarget⟩ := obeys state event component world isSent fits
  rw [Event.outcome_ok succeeded]
  exact fitsTarget

namespace Managed

variable {m : Managed C}

/-- An event that may be sent succeeds. -/
theorem fire_obeys (obeys : hooks.Obeys sent P) {event : Event} (fits : m.Fits P)
    (accepted : m.state.accepts event = true) (isSent : sent m.state event = true) (world : ω) :
    (m.fire hooks event world).verdict = .ok () ∧
      (m.fire hooks event world).value.state = event.target ∧
      (m.fire hooks event world).value.Fits P := by
  obtain ⟨succeeded, fitsTarget⟩ := obeys m.state event m.component world isSent fits
  rcases fire_cases hooks event m world with
    ⟨illegal, _⟩ | ⟨_, _, reason, failed, _⟩ | ⟨_, _, fired⟩
  · cases accepted.symm.trans illegal
  · cases succeeded.symm.trans failed
  · rw [fired]
    exact ⟨rfl, rfl, fitsTarget⟩

/-- Requests succeed. -/
theorem request_obeys (obeys : hooks.Obeys State.expects P) (fits : m.Fits P) (event : Event)
    (world : ω) :
    (m.request hooks event world).verdict = .ok () ∧
      (m.request hooks event world).value.state = m.state.after (event.requested m.state) ∧
      (m.request hooks event world).value.Fits P := by
  have takes := m.state.takes_requested event
  unfold request
  generalize event.requested m.state = events at takes ⊢
  induction events generalizing m world with
  | nil => exact ⟨rfl, rfl, fits⟩
  | cons first rest ih =>
      obtain ⟨isSent, restTakes⟩ := takes
      obtain ⟨succeeded, state_eq, stillFits⟩ :=
        fire_obeys obeys fits (State.accepts_of_expects isSent) isSent world
      rw [fireAll_cons_of_ok succeeded]
      rw [← state_eq] at restTakes
      have next := ih stillFits (m.fire hooks first world).world restTakes
      rw [state_eq] at next
      exact next

end Managed

/-! ## Members that obey -/

namespace Members

variable {members : Members C}

theorem initFrom_ok
    (ok : ∀ m ∈ members, ∀ event world, (m.request hooks event world).verdict = .ok ())
    (before : Members C) (world : ω) : (initFrom hooks before members world).verdict = .ok () := by
  induction members generalizing before world with
  | nil => rfl
  | cons first rest ih =>
      obtain ⟨firstOk, restOk⟩ := List.forall_mem_cons.mp ok
      simp only [initFrom, firstOk]
      exact ih restOk _ _

theorem startFrom_ok (accept : Managed C → Bool)
    (ok : ∀ m ∈ members, ∀ event world, (m.request hooks event world).verdict = .ok ())
    (before : List (Visited C)) (world : ω) :
    (startFrom hooks accept before members world).verdict = .ok () := by
  induction members generalizing before world with
  | nil => rfl
  | cons first rest ih =>
      obtain ⟨firstOk, restOk⟩ := List.forall_mem_cons.mp ok
      unfold startFrom
      split
      · simp only [firstOk]
        exact ih restOk _ _
      · exact ih restOk _ _

/-- Members that obey their requests go along with their parent, which succeeds. -/
theorem hooks_obey_conform {T : Type} {P : T → State → C → Prop} {tags : List T} {pick : C → Bool}
    (obeys : ∀ t ∈ tags, hooks.Obeys State.expects (P t)) {whole : State}
    (conform : Conform pick P tags whole members) (accept : Managed C → Bool) (event : Event)
    (world : ω) :
    ((Members.hooks hooks accept).run event members world).verdict = .ok () := by
  have ok : ∀ m ∈ members, ∀ event world, (m.request hooks event world).verdict = .ok () := by
    unfold Conform at conform
    induction conform with
    | nil => exact List.forall_mem_nil _
    | cons first _ ih =>
        obtain ⟨firstObeys, restObey⟩ := List.forall_mem_cons.mp obeys
        refine List.forall_mem_cons.mpr ⟨?_, ih restObey⟩
        intro event world
        exact (Managed.request_obeys firstObeys first.2 event world).1
  cases event with
  | init => exact initFrom_ok ok [] world
  | start => exact startFrom_ok accept ok [] world
  | stop => rfl
  | close => rfl

end Members

end IntegrationHost.Lifecycle
