import IntegrationHost.Proofs.Lifecycle.Coherence
import IntegrationHost.Proofs.Lifecycle.Simulation
import IntegrationHost.Proofs.Pool.Projection
import IntegrationHost.Proofs.Pool.Upkeep
import IntegrationHost.Service.WorkerPool

/-!
# Tallied workers

The surroundings of workers may keep a tally of how often workers were initialised with success and
how often they were closed. Services are not aware of it, so workers do with a tally what they do
without one. A worker that is not closed stands for one initialisation that no closing has made up
for, and so the factory of workers keeps count of those that are alive.
-/

namespace IntegrationHost.Service

open Lifecycle

variable {ω C : Type}

/-- Surroundings in which the initialisations and closings of services are counted. -/
structure Tally (ω : Type) where
  world : ω
  /-- How often a service was initialised with success. -/
  inits : Nat
  /-- How often a service was closed, with success or not. -/
  closes : Nat

namespace Tally

/-- Nothing is counted yet. -/
def blank (world : ω) : Tally ω := ⟨world, 0, 0⟩

/-- Count the call of a hook, which has left the surroundings as they are now. -/
def note (t : Tally ω) : Event → Bool → ω → Tally ω
  | .init, true, world => ⟨world, t.inits + 1, t.closes⟩
  | .close, _, world => ⟨world, t.inits, t.closes + 1⟩
  | _, _, world => ⟨world, t.inits, t.closes⟩

@[simp]
theorem note_world (t : Tally ω) (event : Event) (succeeded : Bool) (world : ω) :
    (t.note event succeeded world).world = world := by
  cases event <;> cases succeeded <;> rfl

/-- So many services were initialised that were not closed since. -/
def Live (t : Tally ω) (count : Nat) : Prop :=
  t.inits = t.closes + count

end Tally

/-- What services do, with a tally of their initialisations and closings. -/
def Behaviour.tallied (b : Behaviour ω C) : Behaviour (Tally ω) C where
  hooks := ⟨fun event service t =>
    let ran := b.hooks.run event service t.world
    ⟨ran.verdict, ran.value, t.note event ran.succeeded ran.world⟩⟩
  uniqueId := b.uniqueId
  process service message t :=
    let done := b.process service message t.world
    ⟨done.verdict, done.value, { t with world := done.world }⟩
  isValid := b.isValid

/-- Making a service is not counted. -/
def Prototype.tallied (p : Prototype ω C) : Prototype (Tally ω) C where
  describe := p.describe
  create t :=
    let made := p.create t.world
    (made.1, { t with world := made.2 })

/-! ## Without the tally -/

/-- Hooks do with a tally what they do without. -/
theorem Behaviour.tallied_simulates (b : Behaviour ω C) :
    Hooks.Simulates Eq Tally.world b.tallied.hooks b.hooks := by
  rintro event component _ t rfl
  exact ⟨rfl, rfl, (Tally.note_world t event _ _).symm⟩

theorem eq_of_related_eq {m other : Managed C} (related : m.Related Eq other) : other = m := by
  rcases other with ⟨name, state, component⟩
  obtain ⟨rfl, rfl, component_eq⟩ := related
  cases component_eq
  rfl

/-- Workers answer to requests with a tally as they do without. -/
theorem request_tallied (b : Behaviour ω C) (event : Event) (worker : Worker C) (t : Tally ω) :
    worker.request b.hooks event t.world =
      (worker.request b.tallied.hooks event t).project id Tally.world :=
  (Managed.request_alike b.tallied_simulates ⟨rfl, rfl, rfl⟩ event t).eq
    fun _ _ related => eq_of_related_eq related

/-- Without the tally, the factory of tallied workers is the factory of the workers. -/
theorem workerFactory_projection (b : Behaviour ω C) (p : Prototype ω C) :
    Pool.Factory.Projection id Tally.world (workerFactory b.tallied p.tallied)
      (workerFactory b p) where
  make t := by
    simp only [workerFactory, Prototype.tallied]
    rcases p.create t.world with ⟨error | service, world⟩
    · rfl
    · have asked := request_tallied b .init (.new (b.uniqueId service) service) { t with world }
      dsimp only at asked ⊢
      rw [asked]
      dsimp only [Behaviour.tallied, Attempt.project]
      split <;> rfl
  validate _ _ := rfl
  activate worker t := by
    simp only [workerFactory, request_tallied b]
    rfl
  passivate worker t := by
    simp only [workerFactory, request_tallied b]
    rfl
  destroy worker t := by
    simp only [workerFactory, id, request_tallied b]
    rfl

/-! ## Workers that are alive -/

/-- A worker that is not closed. -/
def Worker.Open (worker : Worker C) : Prop :=
  worker.state ≠ .closed

/-- A component counts as alive beside `others`, unless it is closed. -/
def Tally.Counts (others : Int) (state : State) (_ : C) (t : Tally ω) : Prop :=
  (t.inits : Int) = t.closes + others + if state = .closed then 0 else 1

/-- The calls of hooks are counted as they change what is alive. -/
theorem Behaviour.tallied_maintains (b : Behaviour ω C) (others : Int) :
    b.tallied.hooks.Maintains State.expects (Tally.Counts others) := by
  intro state event component t expected counts
  change Tally.Counts others (event.outcome state (b.hooks.run event component t.world).succeeded)
    _ (t.note event (b.hooks.run event component t.world).succeeded _)
  generalize (b.hooks.run event component t.world).succeeded = succeeded
  unfold Tally.Counts at counts ⊢
  -- Only a closed component is initialised and only one that is not closed is closed.
  cases state <;> cases event <;> cases succeeded <;>
    simp_all [State.expects, Event.outcome, Event.canFail, Event.target, Tally.note] <;> omega

section

variable {b : Behaviour ω C} {p : Prototype ω C} {worker : Worker C} {t : Tally ω} {count : Nat}

/-- Requests change how many are alive as they open or close the worker. -/
theorem request_counts (others : Int) (counts : Tally.Counts others worker.state worker.component t)
    (event : Event) :
    (worker.request b.tallied.hooks event t).value.FitsIn (Tally.Counts others)
      (worker.request b.tallied.hooks event t).world :=
  Managed.FitsIn.request (b.tallied_maintains others) counts event

/-- A worker that stays open through a request counts as it did. -/
theorem request_live (isOpen : worker.Open) (live : t.Live count) {event : Event}
    (stillOpen : Worker.Open (worker.request b.tallied.hooks event t).value) :
    (worker.request b.tallied.hooks event t).world.Live count := by
  have counts : Tally.Counts (count - 1) worker.state worker.component t := by
    unfold Tally.Counts Tally.Live at *
    rw [if_neg isOpen]
    omega
  have after := request_counts (b := b) _ counts event
  unfold Managed.FitsIn Tally.Counts at after
  rw [if_neg stillOpen] at after
  unfold Tally.Live
  omega

/-- A request to start does not close a worker. -/
theorem request_start_open (hooks : Hooks ω C) (isOpen : worker.Open) (world : ω) :
    Worker.Open (worker.request hooks .start world).value := by
  by_cases started : worker.state = .started
  · rw [Managed.request_of_nothing hooks world (by rw [started]; rfl)]
    exact isOpen
  · have atRest : worker.state.AtRest := by
      unfold Worker.Open at isOpen
      unfold State.AtRest
      cases state : worker.state <;> simp_all
    rw [Managed.request_of_single hooks world atRest.requested_start]
    unfold Worker.Open
    cases fired : (worker.fire hooks .start world).verdict with
    | ok _ =>
        rw [Managed.fire_state fired]
        decide
    | error error =>
        rw [Managed.fire_state_of_error fired]
        exact isOpen

/-- Nor does a request to stop. -/
theorem request_stop_open (hooks : Hooks ω C) (isOpen : worker.Open) (world : ω) :
    Worker.Open (worker.request hooks .stop world).value := by
  unfold Worker.Open
  rw [Managed.request_stop_state]
  split
  · decide
  · exact isOpen

/-- A new service is alive when it was initialised, and not when that has failed. -/
theorem request_init_new (name : String) (service : C) (live : t.Live count) :
    let asked := (Managed.new name service).request b.tallied.hooks .init t
    (∀ error, asked.verdict = .error error → asked.world.Live count) ∧
      (asked.verdict = .ok () → Worker.Open asked.value ∧ asked.world.Live (count + 1)) := by
  intro asked
  have counts : Tally.Counts count State.closed service t := by
    unfold Tally.Counts Tally.Live at *
    rw [if_pos rfl]
    omega
  have isNew : (Managed.new name service).FitsIn (Tally.Counts count) t := counts
  have after : asked.value.FitsIn (Tally.Counts count) asked.world :=
    isNew.request (b.tallied_maintains count) .init
  have single : asked = (Managed.new name service).fire b.tallied.hooks .init t :=
    Managed.request_of_single _ t rfl
  unfold Managed.FitsIn Tally.Counts at after
  unfold Worker.Open Tally.Live
  constructor
  · intro error failed
    have state : asked.value.state = .closed := by
      rw [single] at failed ⊢
      exact Managed.fire_state_of_error failed
    rw [state, if_pos rfl] at after
    omega
  · intro succeeded
    have state : asked.value.state = .initialised := by
      rw [single] at succeeded ⊢
      exact Managed.fire_state succeeded
    rw [state, if_neg (by decide)] at after
    rw [state]
    exact ⟨by decide, by omega⟩

/-- A worker that is closed is alive no longer. -/
theorem request_close_live (isOpen : worker.Open) (live : t.Live (count + 1)) :
    (worker.request b.tallied.hooks .close t).world.Live count := by
  have counts : Tally.Counts count worker.state worker.component t := by
    unfold Tally.Counts Tally.Live at *
    rw [if_neg isOpen]
    omega
  have after := request_counts (b := b) _ counts .close
  unfold Managed.FitsIn Tally.Counts at after
  rw [Managed.request_close_state, if_pos rfl] at after
  unfold Tally.Live
  omega

end

/-- The factory of tallied workers keeps count of the workers that are alive, whatever the services
do. -/
theorem workerFactory_tends (b : Behaviour ω C) (p : Prototype ω C) :
    (workerFactory b.tallied p.tallied).Tends Worker.Open Worker.Open Tally.Live where
  make_ok := by
    intro t left count worker live made
    rcases created : p.create t.world with ⟨error | service, world⟩
    · simp only [workerFactory, Prototype.tallied, created] at made
      cases made
    · have asked := (request_init_new (b := b) (b.uniqueId service) service
        (t := { t with world }) live).2
      simp only [workerFactory, Prototype.tallied, created] at made
      split at made
      · next succeeded =>
          simp only [Prod.mk.injEq, Except.ok.injEq] at made
          obtain ⟨rfl, rfl⟩ := made
          exact asked succeeded
      · cases made
  make_error := by
    intro t left count error live made
    rcases created : p.create t.world with ⟨reason | service, world⟩
    · simp only [workerFactory, Prototype.tallied, created, Prod.mk.injEq] at made
      obtain ⟨_, rfl⟩ := made
      exact live
    · have asked := (request_init_new (b := b) (b.uniqueId service) service
        (t := { t with world }) live).1
      simp only [workerFactory, Prototype.tallied, created] at made
      split at made
      · cases made
      · next reason failed =>
          simp only [Prod.mk.injEq] at made
          obtain ⟨_, rfl⟩ := made
          exact asked reason failed
  validate _ _ _ live := live
  activate isOpen live := request_live isOpen live (request_start_open _ isOpen _)
  activate_ok isOpen _ := request_start_open _ isOpen _
  activate_either isOpen := Or.inl (request_start_open _ isOpen _)
  passivate either live :=
    request_live (either.elim id id) live (request_stop_open _ (either.elim id id) _)
  passivate_ok either _ := request_stop_open _ (either.elim id id) _
  passivate_either either := Or.inl (request_stop_open _ (either.elim id id) _)
  destroy either live := request_close_live (either.elim id id) live

end IntegrationHost.Service
