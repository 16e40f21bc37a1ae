import IntegrationHost.Lifecycle.Managed

/-!
# What requests do

A component fits its state when some property of the two holds. Hooks that keep such a fit for the
events they may be sent keep it through requests and through whole commands. Requests send fewer
events than are legal: they never initialise a component that is stopped.
-/

namespace IntegrationHost.Lifecycle

variable {ω C : Type}

/-! ## Events and states -/

/-- The state after an event whose hook has run. -/
def Event.outcome (event : Event) (origin : State) (succeeded : Bool) : State :=
  if event.canFail && !succeeded then origin else event.target

namespace State

/-- The events that are legal in a state. -/
def accepts (state : State) (event : Event) : Bool :=
  state.canMoveTo event.target

/-- The events that requests send to a component in a state. -/
def expects : State → Event → Bool
  | closed, .init => true
  | initialised, .start => true
  | stopped, .start => true
  | started, .stop => true
  | initialised, .close => true
  | stopped, .close => true
  | _, _ => false

/-- The only legal event that no request sends is the `init` of a stopped component. -/
theorem accepts_iff {state : State} {event : Event} :
    state.accepts event = true ↔
      state.expects event = true ∨ state = .stopped ∧ event = .init := by
  cases state <;> cases event <;> decide

theorem accepts_of_expects {state : State} {event : Event}
    (expected : state.expects event = true) :
    state.accepts event = true :=
  accepts_iff.mpr (Or.inl expected)

/-- Of events sent one after the other, each that is legal in its turn is one of those `sent`. -/
def Permits (sent : State → Event → Bool) : State → List Event → Prop
  | _, [] => True
  | state, event :: rest =>
      (state.accepts event = true → sent state event = true) ∧ Permits sent event.target rest

/-- A request sends what is expected. -/
theorem permits_requested (state : State) (event : Event) :
    state.Permits expects (event.requested state) := by
  cases state <;> cases event <;> simp [Event.requested, Permits, expects, Event.target]

/-- Where all legal events may be sent, any events may be sent one after the other. -/
theorem permits_accepts (state : State) (events : List Event) :
    state.Permits accepts events := by
  induction events generalizing state with
  | nil => trivial
  | cons event rest ih => exact ⟨id, ih event.target⟩

end State

/-! ## Hooks that keep a fit -/

/-- Whatever comes of the hooks for the events that may be sent, components fit their states
afterwards if they did before. -/
def Hooks.Keeps (sent : State → Event → Bool) (P : State → C → Prop) (hooks : Hooks ω C) : Prop :=
  ∀ state event component world, sent state event = true → P state component →
    P (event.outcome state (hooks.run event component world).succeeded)
      (hooks.run event component world).value

/-- The same of components and surroundings together. -/
def Hooks.Maintains (sent : State → Event → Bool) (Q : State → C → ω → Prop) (hooks : Hooks ω C) :
    Prop :=
  ∀ state event component world, sent state event = true → Q state component world →
    Q (event.outcome state (hooks.run event component world).succeeded)
      (hooks.run event component world).value (hooks.run event component world).world

/-- No hook changes what `f` reads off a component. -/
def Hooks.Fixes {α : Type} (f : C → α) (hooks : Hooks ω C) : Prop :=
  ∀ event component world, f (hooks.run event component world).value = f component

namespace Hooks

variable {hooks : Hooks ω C} {P : State → C → Prop} {sent : State → Event → Bool}

/-- Hooks that answer to all legal events answer to those of requests. -/
theorem Keeps.expected (keeps : hooks.Keeps State.accepts P) :
    hooks.Keeps State.expects P := by
  intro state event component world expected
  exact keeps state event component world (State.accepts_of_expects expected)

/-- A fit that leaves the surroundings out. -/
theorem Keeps.maintains (keeps : hooks.Keeps sent P) :
    hooks.Maintains sent (fun state component _ => P state component) :=
  keeps

/-- What no hook changes is a fit that all hooks keep. -/
theorem Fixes.keeps {α : Type} {f : C → α} (fixes : hooks.Fixes f) (a : α) :
    hooks.Keeps sent (fun _ component => f component = a) := by
  intro _ event component world _ same
  exact (fixes event component world).trans same

/-- A whole that passes its events on to one part fixes what the part fixes. -/
theorem Fixes.ofPart {D α : Type} {f : C → α} {part : D → C} {put : C → D → D}
    (fixes : hooks.Fixes f) (part_put : ∀ c d, part (put c d) = c) :
    (Hooks.ofPart part put hooks).Fixes (fun whole => f (part whole)) := by
  intro event whole world
  simp only [Hooks.ofPart, Attempt.map, part_put]
  exact fixes event (part whole) world

/-- A whole that passes its events on to one part keeps what the part keeps. -/
theorem Keeps.ofPart {D : Type} {part : D → C} {put : C → D → D} (keeps : hooks.Keeps sent P)
    (part_put : ∀ c d, part (put c d) = c) :
    (Hooks.ofPart part put hooks).Keeps sent (fun state whole => P state (part whole)) := by
  intro state event whole world isSent fits
  have kept := keeps state event (part whole) world isSent fits
  simp only [Hooks.ofPart, Attempt.map, part_put]
  exact kept

end Hooks

namespace Managed

variable {hooks : Hooks ω C} {P : State → C → Prop} {Q : State → C → ω → Prop}

/-- The component fits the state. -/
def Fits (P : State → C → Prop) (m : Managed C) : Prop :=
  P m.state m.component

/-- The component fits the state and the surroundings. -/
def FitsIn (Q : State → C → ω → Prop) (m : Managed C) (world : ω) : Prop :=
  Q m.state m.component world

theorem Fits.of_state {m : Managed C} {state : State} (fits : m.Fits P)
    (state_eq : m.state = state) : P state m.component := by
  rw [← state_eq]
  exact fits

/-! ## One event -/

section

variable (hooks : Hooks ω C) (event : Event) (m : Managed C) (world : ω)

/-- All that an event can do: it is illegal and nothing happens, or its hook fails and the component
stays where it is, or the component moves. -/
theorem fire_cases :
    (m.state.accepts event = false ∧
        m.fire hooks event world =
          .refused (.invalidTransition m.name m.state event) m world) ∨
      (m.state.accepts event = true ∧ event.canFail = true ∧
        ∃ reason, (hooks.run event m.component world).verdict = .error reason ∧
          m.fire hooks event world =
            .refused (m.failure event reason)
              { m with component := (hooks.run event m.component world).value }
              (hooks.run event m.component world).world) ∨
      (m.state.accepts event = true ∧
        event.outcome m.state (hooks.run event m.component world).succeeded = event.target ∧
        m.fire hooks event world =
          .done
            { m with
              state := event.target
              component := (hooks.run event m.component world).value }
            (hooks.run event m.component world).world) := by
  unfold fire State.accepts
  generalize hooks.run event m.component world = ran
  by_cases legal : m.state.canMoveTo event.target = true
  · rw [if_pos legal]
    cases mayFail : event.canFail with
    | false => exact Or.inr (Or.inr ⟨legal, by simp [Event.outcome, mayFail], rfl⟩)
    | true =>
        rcases ran with ⟨reason | _, value, left⟩
        · exact Or.inr (Or.inl ⟨legal, rfl, reason, rfl, rfl⟩)
        · exact Or.inr (Or.inr ⟨legal, by simp [Event.outcome, Attempt.succeeded], rfl⟩)
  · rw [if_neg legal]
    exact Or.inl ⟨eq_false_of_ne_true legal, rfl⟩

end

/-- After a legal event the component is where the outcome of its hook brings it. -/
theorem fire_value {event : Event} {m : Managed C} (accepted : m.state.accepts event = true)
    (world : ω) :
    (m.fire hooks event world).value =
      ⟨m.name, event.outcome m.state (hooks.run event m.component world).succeeded,
        (hooks.run event m.component world).value⟩ := by
  rcases fire_cases hooks event m world with
    ⟨illegal, _⟩ | ⟨_, mayFail, reason, failed, fired⟩ | ⟨_, moved, fired⟩
  · cases accepted.symm.trans illegal
  · rw [fired]
    simp [Attempt.refused, Event.outcome, Attempt.succeeded, mayFail, failed]
  · rw [fired, moved]
    rfl

/-- After a legal event the surroundings are what its hook has left. -/
theorem fire_world {event : Event} {m : Managed C} (accepted : m.state.accepts event = true)
    (world : ω) :
    (m.fire hooks event world).world = (hooks.run event m.component world).world := by
  rcases fire_cases hooks event m world with ⟨illegal, _⟩ | ⟨_, _, _, _, fired⟩ | ⟨_, _, fired⟩
  · cases accepted.symm.trans illegal
  · rw [fired]
    rfl
  · rw [fired]
    rfl

/-- An event that the hooks answer to keeps the fit, and so does one that is illegal. -/
theorem FitsIn.fire {sent : State → Event → Bool} (maintains : hooks.Maintains sent Q)
    {event : Event} {m : Managed C} {world : ω} (fits : m.FitsIn Q world)
    (isSent : m.state.accepts event = true → sent m.state event = true) :
    (m.fire hooks event world).value.FitsIn Q (m.fire hooks event world).world := by
  by_cases accepted : m.state.accepts event = true
  · rw [fire_value accepted, fire_world accepted]
    exact maintains m.state event m.component world (isSent accepted) fits
  · rcases fire_cases hooks event m world with ⟨_, fired⟩ | ⟨legal, _⟩ | ⟨legal, _⟩
    · rw [fired]
      exact fits
    · exact absurd legal accepted
    · exact absurd legal accepted

/-- Where an event has succeeded the component is in the target state. -/
theorem fire_state {event : Event} {m : Managed C} {world : ω}
    (succeeded : (m.fire hooks event world).verdict = .ok ()) :
    (m.fire hooks event world).value.state = event.target := by
  rcases fire_cases hooks event m world with ⟨_, fired⟩ | ⟨_, _, _, _, fired⟩ | ⟨_, _, fired⟩
  · rw [fired] at succeeded
    cases succeeded
  · rw [fired] at succeeded
    cases succeeded
  · rw [fired]
    rfl

/-- Where an event has failed the component is in the state that it was in. -/
theorem fire_state_of_error {event : Event} {m : Managed C} {world : ω} {error : Error}
    (failed : (m.fire hooks event world).verdict = .error error) :
    (m.fire hooks event world).value.state = m.state := by
  rcases fire_cases hooks event m world with ⟨_, fired⟩ | ⟨_, _, _, _, fired⟩ | ⟨_, _, fired⟩
  · rw [fired]
    rfl
  · rw [fired]
    rfl
  · rw [fired] at failed
    cases failed

/-- Stopping and closing never fail where they are legal. -/
theorem fire_verdict {event : Event} {m : Managed C} (accepted : m.state.accepts event = true)
    (cannotFail : event.canFail = false) (world : ω) :
    (m.fire hooks event world).verdict = .ok () := by
  rcases fire_cases hooks event m world with ⟨illegal, _⟩ | ⟨_, mayFail, _⟩ | ⟨_, _, fired⟩
  · cases accepted.symm.trans illegal
  · cases cannotFail.symm.trans mayFail
  · rw [fired]
    rfl

/-! ## Several events -/

theorem fireAll_singleton (hooks : Hooks ω C) (event : Event) (m : Managed C) (world : ω) :
    m.fireAll hooks [event] world = m.fire hooks event world := by
  simp only [fireAll, Attempt.andThen]
  rcases m.fire hooks event world with ⟨_ | _, value, left⟩ <;> rfl

/-- A component that has carried out an event goes on with the others. -/
theorem fireAll_cons_of_ok {event : Event} {rest : List Event} {m : Managed C} {world : ω}
    (succeeded : (m.fire hooks event world).verdict = .ok ()) :
    m.fireAll hooks (event :: rest) world =
      (m.fire hooks event world).value.fireAll hooks rest (m.fire hooks event world).world := by
  simp only [fireAll, Attempt.andThen, succeeded]

/-- Where events break off one of them was refused, and what it left is what there is. -/
theorem fireAll_of_error {events : List Event} {m : Managed C} {world : ω} {error : Error}
    (failed : (m.fireAll hooks events world).verdict = .error error) :
    ∃ (event : Event) (origin : Managed C) (before : ω),
      m.fireAll hooks events world = origin.fire hooks event before := by
  induction events generalizing m world with
  | nil => cases failed
  | cons event rest ih =>
      cases fired : (m.fire hooks event world).verdict with
      | ok _ =>
          rw [fireAll_cons_of_ok fired] at failed ⊢
          exact ih failed
      | error reason =>
          refine ⟨event, m, world, ?_⟩
          simp only [fireAll, Attempt.andThen, fired]

/-- Where a command was refused it was refused by one of its events. -/
theorem perform_of_error {command : Command} {m : Managed C} {world : ω} {error : Error}
    (failed : (m.perform hooks command world).verdict = .error error) :
    ∃ (event : Event) (origin : Managed C) (before : ω),
      m.perform hooks command world = origin.fire hooks event before := by
  cases command with
  | fire event => exact ⟨event, m, world, rfl⟩
  | request event => exact fireAll_of_error failed
  | moveTo target => exact fireAll_of_error failed

/-- Events that the hooks answer to keep the fit, wherever they break off. -/
theorem FitsIn.fireAll {sent : State → Event → Bool} (maintains : hooks.Maintains sent Q)
    {events : List Event} {m : Managed C} {world : ω} (fits : m.FitsIn Q world)
    (permits : m.state.Permits sent events) :
    (m.fireAll hooks events world).value.FitsIn Q (m.fireAll hooks events world).world := by
  induction events generalizing m world with
  | nil => exact fits
  | cons event rest ih =>
      have kept := fits.fire maintains permits.1
      cases fired : (m.fire hooks event world).verdict with
      | ok _ =>
          rw [fireAll_cons_of_ok fired]
          refine ih kept ?_
          rw [fire_state fired]
          exact permits.2
      | error error =>
          simp only [Managed.fireAll, Attempt.andThen, fired]
          exact kept

/-- Hooks that answer to the expected events keep the fit through requests. -/
theorem FitsIn.request (maintains : hooks.Maintains State.expects Q) {m : Managed C} {world : ω}
    (fits : m.FitsIn Q world) (event : Event) :
    (m.request hooks event world).value.FitsIn Q (m.request hooks event world).world :=
  fits.fireAll maintains (m.state.permits_requested event)

/-- Hooks that answer to all legal events keep the fit through every command. -/
theorem FitsIn.perform (maintains : hooks.Maintains State.accepts Q) {m : Managed C} {world : ω}
    (fits : m.FitsIn Q world) (command : Command) :
    (m.perform hooks command world).value.FitsIn Q (m.perform hooks command world).world := by
  cases command with
  | fire event => exact fits.fire maintains id
  | request event => exact fits.fireAll maintains (m.state.permits_accepts _)
  | moveTo target => exact fits.fireAll maintains (m.state.permits_accepts _)

/-! ## Fits without surroundings -/

theorem Fits.request (keeps : hooks.Keeps State.expects P) {m : Managed C} (fits : m.Fits P)
    (event : Event) (world : ω) :
    (m.request hooks event world).value.Fits P := by
  have fitsIn : m.FitsIn (fun state component _ => P state component) world := fits
  exact fitsIn.request keeps.maintains event

theorem Fits.perform (keeps : hooks.Keeps State.accepts P) {m : Managed C} (fits : m.Fits P)
    (command : Command) (world : ω) :
    (m.perform hooks command world).value.Fits P := by
  have fitsIn : m.FitsIn (fun state component _ => P state component) world := fits
  exact fitsIn.perform keeps.maintains command

/-- What no hook changes, no request changes. -/
theorem request_fixes {α : Type} {f : C → α} (fixes : hooks.Fixes f) (event : Event)
    (m : Managed C) (world : ω) :
    f (m.request hooks event world).value.component = f m.component :=
  Fits.request (P := fun _ component => f component = f m.component) (fixes.keeps _) rfl event world

/-! ## Single requests -/

section

variable (hooks : Hooks ω C) {m : Managed C} (world : ω)

/-- A request for what has already happened does nothing. -/
theorem request_of_nothing {event : Event} (nothing : event.requested m.state = []) :
    m.request hooks event world = .done m world := by
  rw [request, nothing]
  rfl

/-- A request for what can happen at once is the event itself. -/
theorem request_of_single {event : Event} (single : event.requested m.state = [event]) :
    m.request hooks event world = m.fire hooks event world := by
  rw [request, single, fireAll_singleton]

/-- After a request to stop only a component that was started is somewhere else. -/
theorem request_stop_state :
    (m.request hooks .stop world).value.state =
      if m.state = .started then .stopped else m.state := by
  cases origin : m.state with
  | started =>
      rw [request_of_single hooks world (by rw [origin]; rfl)]
      exact fire_state (fire_verdict (by rw [origin]; rfl) rfl world)
  | _ =>
      rw [request_of_nothing hooks world (by rw [origin]; rfl)]
      exact origin

/-- After a request to close every component is closed. -/
theorem request_close_state : (m.request hooks .close world).value.state = .closed := by
  cases origin : m.state with
  | closed =>
      rw [request_of_nothing hooks world (by rw [origin]; rfl)]
      exact origin
  | started =>
      have stopped : (m.fire hooks .stop world).verdict = .ok () :=
        fire_verdict (by rw [origin]; rfl) rfl world
      rw [request, origin, Event.requested, fireAll_cons_of_ok stopped, fireAll_singleton]
      exact fire_state (fire_verdict (by rw [fire_state stopped]; rfl) rfl _)
  | _ =>
      rw [request_of_single hooks world (by rw [origin]; rfl)]
      exact fire_state (fire_verdict (by rw [origin]; rfl) rfl world)

end

end Managed

end IntegrationHost.Lifecycle
