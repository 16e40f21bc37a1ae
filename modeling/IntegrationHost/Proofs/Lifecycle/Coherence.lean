import IntegrationHost.Lifecycle.Members
import IntegrationHost.Proofs.Lifecycle.Requests
import Mathlib.Data.List.Forall2

/-!
# Coherence of members

The states of members go with the state of their parent: they are closed when it is closed, hold
their resources when it does, and those that it picks work when it works. The hooks of a parent
keep its members coherent also when a member fails midway and the others are rolled back. Members
get requests only; the parent may get any legal event, and so a stopped parent may be initialised.
-/

namespace IntegrationHost.Lifecycle

variable {ω C : Type}

/-! ## States that go together -/

namespace State

/-- A component that holds its resources and does not work. -/
def AtRest (state : State) : Prop :=
  state = .initialised ∨ state = .stopped

/-- The states of a part that go with the state of its whole. A part that is not picked never
works. -/
def Suits (whole : State) (picked : Bool) (part : State) : Prop :=
  match whole with
  | .closed => part = .closed
  | .initialised | .stopped => part.AtRest
  | .started => if picked then part = .started else part.AtRest

/-- A component at rest needs no `init`. -/
theorem AtRest.requested_init {state : State} (atRest : state.AtRest) :
    Event.init.requested state = [] := by
  rcases atRest with rfl | rfl <;> rfl

/-- A component at rest can be started at once. -/
theorem AtRest.requested_start {state : State} (atRest : state.AtRest) :
    Event.start.requested state = [.start] := by
  rcases atRest with rfl | rfl <;> rfl

theorem AtRest.ne_closed {state : State} (atRest : state.AtRest) : state ≠ .closed := by
  rcases atRest with rfl | rfl <;> decide

variable {whole part : State} {picked : Bool}

theorem suits_iff_atRest (rest : whole.AtRest) : whole.Suits picked part ↔ part.AtRest := by
  rcases rest with rfl | rfl <;> exact Iff.rfl

/-- A part that is not picked is never started. -/
theorem Suits.ne_started (suits : whole.Suits false part) : part ≠ .started := by
  intro started
  subst started
  cases whole <;> simp [Suits, AtRest] at suits

/-- A part is at work only while its whole is. -/
theorem Suits.whole_started (suits : whole.Suits picked .started) : whole = .started := by
  cases whole <;> simp [Suits, AtRest] at suits ⊢

/-- A part is closed only as long as its whole is. -/
theorem Suits.ne_closed (suits : whole.Suits picked part) (notClosed : whole ≠ .closed) :
    part ≠ .closed := by
  intro closed
  subst closed
  cases whole <;> cases picked <;> simp [Suits, AtRest] at suits notClosed

/-- A part that has stopped, if it was at work, is at rest when its whole has been at work. -/
theorem Suits.atRest_stopped (suits : State.started.Suits picked part) :
    (if part = .started then .stopped else part).AtRest := by
  cases picked with
  | false =>
      rw [if_neg suits.ne_started]
      exact suits
  | true =>
      have started : part = .started := suits
      rw [if_pos started]
      exact Or.inr rfl

end State

/-- A member suits the state of its parent, and its component fits its own. -/
def Managed.Suits (pick : C → Bool) (P : State → C → Prop) (whole : State) (m : Managed C) : Prop :=
  whole.Suits (pick m.component) m.state ∧ m.Fits P

/-- A picked member of a parent at work is at work. -/
theorem Managed.Suits.started {pick : C → Bool} {P : State → C → Prop} {m : Managed C}
    (suits : m.Suits pick P .started) (picked : pick m.component = true) :
    m.state = .started ∧ P .started m.component := by
  obtain ⟨suits, fits⟩ := suits
  rw [picked] at suits
  have started : m.state = .started := suits
  exact ⟨started, fits.of_state started⟩

/-- All members suit the state of their parent, and their components fit their own. -/
def Members.Coherent (pick : C → Bool) (P : State → C → Prop) (whole : State)
    (members : Members C) : Prop :=
  ∀ m ∈ members, m.Suits pick P whole

/-! ## A request to one member -/

section

variable {hooks : Hooks ω C} {pick : C → Bool} {P : State → C → Prop}

namespace Managed.Suits

variable {m : Managed C} {whole : State}

variable (keeps : hooks.Keeps State.expects P) (fixes : hooks.Fixes pick)

include keeps in
/-- Whatever parent the member suited, a closed one suits it after a request to close. -/
theorem request_close (suits : m.Suits pick P whole) (world : ω) :
    (m.request hooks .close world).value.Suits pick P .closed :=
  ⟨request_close_state hooks world, suits.2.request keeps .close world⟩

include keeps in
/-- A member of a parent at work suits one at rest after a request to stop. -/
theorem request_stop (suits : m.Suits pick P .started) {rest : State} (atRest : rest.AtRest)
    (world : ω) :
    (m.request hooks .stop world).value.Suits pick P rest := by
  refine ⟨(State.suits_iff_atRest atRest).mpr ?_, suits.2.request keeps .stop world⟩
  rw [request_stop_state]
  exact suits.1.atRest_stopped

/-- A member of a stopped parent has nothing to initialise. -/
theorem request_init_of_stopped (suits : m.Suits pick P .stopped) (world : ω) :
    m.request hooks .init world = .done m world := by
  have atRest : m.state.AtRest := suits.1
  exact request_of_nothing hooks world atRest.requested_init

include keeps in
/-- After a request to initialise a member suits an initialised parent, or it suits its parent as
before when the request has failed. -/
theorem request_init (suits : m.Suits pick P whole) (origin : whole = .closed ∨ whole = .stopped)
    (world : ω) :
    (m.request hooks .init world).value.Suits pick P
      (Event.init.outcome whole (m.request hooks .init world).succeeded) := by
  have fits := suits.2.request keeps .init world
  rcases origin with rfl | rfl
  · have closed : m.state = .closed := suits.1
    rw [request_of_single hooks world (by rw [closed]; rfl)] at fits ⊢
    cases fired : (m.fire hooks .init world).verdict with
    | ok _ =>
        refine ⟨?_, fits⟩
        rw [fire_state fired]
        simp [Event.outcome, Attempt.succeeded, fired, Event.target, State.Suits, State.AtRest]
    | error error =>
        refine ⟨?_, fits⟩
        rw [fire_state_of_error fired, closed]
        simp [Event.outcome, Attempt.succeeded, fired, Event.canFail, State.Suits]
  · rw [suits.request_init_of_stopped]
    exact suits

include keeps fixes in
/-- After a request to start a picked member suits a parent at work, or it suits its parent as
before when the request has failed. -/
theorem request_start (suits : m.Suits pick P whole) (atRest : whole.AtRest)
    (picked : pick m.component = true) (world : ω) :
    (m.request hooks .start world).value.Suits pick P
      (Event.start.outcome whole (m.request hooks .start world).succeeded) := by
  have fits := suits.2.request keeps .start world
  have stillPicked := m.request_fixes fixes .start world
  have partAtRest : m.state.AtRest := (State.suits_iff_atRest atRest).mp suits.1
  rw [picked] at stillPicked
  rw [request_of_single hooks world partAtRest.requested_start] at fits stillPicked ⊢
  refine ⟨?_, fits⟩
  rw [stillPicked]
  cases fired : (m.fire hooks .start world).verdict with
  | ok _ =>
      rw [fire_state fired]
      simp [Event.outcome, Attempt.succeeded, fired, Event.target, State.Suits]
  | error error =>
      rw [fire_state_of_error fired]
      simp only [Event.outcome, Attempt.succeeded, fired]
      exact (State.suits_iff_atRest atRest).mpr partAtRest

end Managed.Suits

/-! ## Requests to all members -/

namespace Members

variable {T : Type} {tags : List T}

/-- What a request makes of each member, requests in order make of all. -/
theorem requestEach_forall₂ {event : Event} {Q R : T → Managed C → Prop}
    (turns : ∀ t m world, Q t m → R t (m.request hooks event world).value) {members : Members C}
    (all : List.Forall₂ Q tags members) (world : ω) :
    List.Forall₂ R tags (requestEach hooks event members world).1 := by
  induction all generalizing world with
  | nil => exact .nil
  | cons first _ ih => exact .cons (turns _ _ world first) (ih _)

/-- What a request makes of each member, requests from the back make of all. -/
theorem requestBackwards_forall₂ {event : Event} {Q R : T → Managed C → Prop}
    (turns : ∀ t m world, Q t m → R t (m.request hooks event world).value) {members : Members C}
    (all : List.Forall₂ Q tags members) (world : ω) :
    List.Forall₂ R tags (requestBackwards hooks event members world).1 := by
  induction all generalizing world with
  | nil => exact .nil
  | cons first _ ih => exact .cons (turns _ _ _ first) (ih world)

/-! ## Members that have each a fit of its own -/

/-- Members with a tag each, which suit the state of their parent and whose components fit their own
in the way of their tags. -/
def Conform (pick : C → Bool) (P : T → State → C → Prop) (tags : List T) (whole : State)
    (members : Members C) : Prop :=
  List.Forall₂ (fun t m => m.Suits pick (P t) whole) tags members

variable {P : T → State → C → Prop} {members : Members C} {whole : State}

/-! ### Initialising with rollback -/

/-- The members suit an initialised parent when all were initialised, and their parent as it was
when one has failed. -/
theorem initFrom_conform (keeps : ∀ t, hooks.Keeps State.expects (P t))
    (origin : whole = .closed ∨ whole = .stopped) {before : Members C} {tagsBefore : List T}
    (done : Conform pick P tagsBefore .initialised before)
    (toDo : Conform pick P tags whole members) (world : ω) :
    Conform pick P (tagsBefore ++ tags)
      (Event.init.outcome whole (initFrom hooks before members world).succeeded)
      (initFrom hooks before members world).value := by
  unfold Conform at toDo
  induction toDo generalizing before tagsBefore world with
  | nil =>
      rw [List.append_nil]
      exact done
  | @cons t first tags rest firstSuits restSuits ih =>
      have asked := firstSuits.request_init (keeps t) origin world
      cases verdict : (first.request hooks .init world).verdict with
      | ok _ =>
          simp only [Attempt.succeeded, verdict] at asked
          simp only [initFrom, verdict]
          rw [List.append_cons]
          exact ih (List.rel_append done (.cons asked .nil)) _
      | error error =>
          simp only [Attempt.succeeded, verdict] at asked
          simp only [initFrom, verdict]
          -- Only a closed member can fail, and so the parent is closed.
          rcases origin with rfl | rfl
          · have closed := requestEach_forall₂
              (fun t m now suits => Managed.Suits.request_close (keeps t) suits now) done
              (first.request hooks .init world).world
            exact List.rel_append closed (.cons asked restSuits)
          · rw [firstSuits.request_init_of_stopped] at verdict
            cases verdict

/-! ### Starting with rollback -/

/-- A member of a parent that is being started suits a parent at work, and one that was not started
by that still suits the parent as it was. -/
def Visited.Suits (pick : C → Bool) (P : State → C → Prop) (whole : State) (v : Visited C) : Prop :=
  v.member.Suits pick P .started ∧ (v.startedNow = false → v.member.Suits pick P whole)

/-- Members suit their parent as it was when those that were started are stopped again. -/
theorem undoStarts_conform (keeps : ∀ t, hooks.Keeps State.expects (P t)) (atRest : whole.AtRest)
    {before : List (Visited C)}
    (done : List.Forall₂ (fun t v => v.Suits pick (P t) whole) tags before) (world : ω) :
    Conform pick P tags whole (undoStarts hooks before world).1 := by
  induction done generalizing world with
  | nil => exact .nil
  | @cons t first _ _ firstDone _ ih =>
      obtain ⟨atWork, untouched⟩ := firstDone
      unfold undoStarts
      cases now : first.startedNow with
      | true => exact .cons (atWork.request_stop (keeps t) atRest world) (ih _)
      | false => exact .cons (untouched now) (ih _)

/-- The members suit a parent at work when all that are picked were started, and their parent as it
was when one has failed. -/
theorem startFrom_conform (keeps : ∀ t, hooks.Keeps State.expects (P t)) (fixes : hooks.Fixes pick)
    (atRest : whole.AtRest) {before : List (Visited C)} {tagsBefore : List T}
    (done : List.Forall₂ (fun t v => v.Suits pick (P t) whole) tagsBefore before)
    (toDo : Conform pick P tags whole members) (world : ω) :
    Conform pick P (tagsBefore ++ tags)
      (Event.start.outcome whole
        (startFrom hooks (fun m => pick m.component) before members world).succeeded)
      (startFrom hooks (fun m => pick m.component) before members world).value := by
  unfold Conform at toDo
  induction toDo generalizing before tagsBefore world with
  | nil =>
      rw [List.append_nil]
      exact List.forall₂_map_right_iff.mpr (done.imp fun _ _ suits => suits.1)
  | @cons t first tags rest firstSuits restSuits ih =>
      have firstAtRest := (State.suits_iff_atRest atRest).mp firstSuits.1
      by_cases picked : pick first.component = true
      · have asked := firstSuits.request_start (keeps t) fixes atRest picked world
        cases verdict : (first.request hooks .start world).verdict with
        | ok _ =>
            simp only [Attempt.succeeded, verdict] at asked
            simp only [startFrom, if_pos picked, verdict]
            rw [List.append_cons]
            refine ih (List.rel_append done (.cons ⟨asked, fun notNow => ?_⟩ .nil)) _
            -- A member at rest was not started before, so a rollback will stop it.
            rcases firstAtRest with state | state <;> simp [state] at notNow
        | error error =>
            simp only [Attempt.succeeded, verdict] at asked
            simp only [startFrom, if_pos picked, verdict]
            have undone := undoStarts_conform keeps atRest done
              (first.request hooks .start world).world
            exact List.rel_append undone (.cons asked restSuits)
      · simp only [startFrom, if_neg picked]
        rw [List.append_cons]
        refine ih (List.rel_append done (.cons ⟨⟨?_, firstSuits.2⟩, fun _ => firstSuits⟩ .nil)) _
        simp only [State.Suits, picked]
        exact firstAtRest

/-! ### The hooks of a parent -/

/-- The hooks of a parent answer to all legal events when those of its members answer to the events
of requests. -/
theorem hooks_keeps_conform (keeps : ∀ t, hooks.Keeps State.expects (P t))
    (fixes : hooks.Fixes pick) :
    (Members.hooks hooks fun m => pick m.component).Keeps State.accepts (Conform pick P tags) := by
  intro whole event members world accepted conform
  cases event with
  | init =>
      -- A stopped parent may be initialised too; its members then have nothing to do.
      have origin : whole = .closed ∨ whole = .stopped := by
        cases whole <;> simp [State.accepts, State.canMoveTo, Event.target] at accepted ⊢
      have none : Conform pick P [] .initialised [] := .nil
      exact initFrom_conform keeps origin none conform world
  | start =>
      have atRest : whole.AtRest := by
        unfold State.AtRest
        cases whole <;> simp [State.accepts, State.canMoveTo, Event.target] at accepted ⊢
      have none : List.Forall₂ (fun t v => Visited.Suits pick (P t) whole v) [] [] := .nil
      exact startFrom_conform keeps fixes atRest none conform world
  | stop =>
      have started : whole = .started := by
        cases whole <;> simp [State.accepts, State.canMoveTo, Event.target] at accepted ⊢
      subst started
      exact requestBackwards_forall₂
        (fun t m now suits => Managed.Suits.request_stop (keeps t) suits (Or.inr rfl) now) conform
        world
  | close =>
      exact requestBackwards_forall₂
        (fun t m now suits => Managed.Suits.request_close (keeps t) suits now) conform world

end Members

/-! ## Members that all have the same fit -/

namespace Members

theorem Conform.coherent {T : Type} {tags : List T} {whole : State} {members : Members C}
    (conform : Conform pick (fun _ => P) tags whole members) : members.Coherent pick P whole := by
  unfold Conform at conform
  induction conform with
  | nil => exact List.forall_mem_nil _
  | cons first _ ih => exact List.forall_mem_cons.mpr ⟨first, ih⟩

/-- The hooks of a parent whose members all have the same fit. -/
theorem hooks_keeps (keeps : hooks.Keeps State.expects P) (fixes : hooks.Fixes pick) :
    (Members.hooks hooks fun m => pick m.component).Keeps State.accepts (Coherent pick P) := by
  intro whole event members world accepted coherent
  have conform : Conform pick (fun _ => P) members whole members := List.forall₂_same.mpr coherent
  exact (hooks_keeps_conform (fun _ => keeps) fixes whole event members world accepted
    conform).coherent

/-! ## Parents that drive all their members -/

/-- All members go along with their parent, and their components fit their own states. -/
def InStep (P : State → C → Prop) (whole : State) (members : Members C) : Prop :=
  members.Coherent (fun _ => true) P whole

/-- The hooks of a parent that drives all its members. -/
theorem hooks_keeps_inStep (keeps : hooks.Keeps State.expects P) :
    (Members.hooks hooks fun _ => true).Keeps State.accepts (InStep P) :=
  hooks_keeps keeps fun _ _ _ => rfl

/-! ## New members -/

/-- New members: each is closed, with a new component. -/
def Fresh (fresh : C → Prop) (members : Members C) : Prop :=
  ∀ m ∈ members, m.state = .closed ∧ fresh m.component

/-- New members suit a closed parent. -/
theorem Fresh.coherent {fresh : C → Prop} {members : Members C} (new : members.Fresh fresh)
    (fits : ∀ c, fresh c → P .closed c) (pick : C → Bool) :
    members.Coherent pick P .closed := by
  intro m mem
  obtain ⟨closed, isNew⟩ := new m mem
  refine ⟨closed, ?_⟩
  unfold Managed.Fits
  rw [closed]
  exact fits m.component isNew

/-- Components that are newly managed are new members. -/
theorem fresh_map {D : Type} {fresh : C → Prop} {name : D → String} {make : D → C} {parts : List D}
    (isNew : ∀ d ∈ parts, fresh (make d)) :
    Fresh fresh (parts.map fun d => .new (name d) (make d)) := by
  intro m mem
  obtain ⟨d, isPart, rfl⟩ := List.mem_map.mp mem
  exact ⟨rfl, isNew d isPart⟩

end Members

end

end IntegrationHost.Lifecycle
