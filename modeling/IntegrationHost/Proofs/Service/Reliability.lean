import IntegrationHost.Proofs.Lifecycle.Obedience
import IntegrationHost.Proofs.Lists
import IntegrationHost.Proofs.Service.Stock

/-!
# Workers that can be relied on

Where workers can be made, obey their requests and answer each fragment in a known way, a started
split-join has all its workers, nobody waits for one, every fragment is handed to a worker once, and
the fragments come to the answers for them, in whichever order the steps are taken. Workers may turn
out unfit to be lent again and be replaced at any time.
-/

namespace IntegrationHost.Service

open Lifecycle

variable {ω C : Type}

/-- Services that fit their states can be made, obey requests, and answer messages while they are at
work. -/
structure Reliable (b : Behaviour ω C) (p : Prototype ω C) (Fit : State → C → Prop)
    (Answer : Message → Except Fault Message → Prop) : Prop where
  create : ∀ world, ∃ service left, p.create world = (.ok service, left) ∧ Fit .closed service
  hooks : b.hooks.Obeys State.expects Fit
  process : ∀ service message world, Fit .started service →
    Fit .started (b.process service message world).value.1 ∧
      Answer message
        ((b.process service message world).verdict.map fun _ =>
          (b.process service message world).value.2)

/-- A worker that lies idle. -/
def Worker.Resting (Fit : State → C → Prop) (worker : Worker C) : Prop :=
  worker.state.AtRest ∧ worker.Fits Fit

/-- A worker that is lent. -/
def Worker.Working (Fit : State → C → Prop) (worker : Worker C) : Prop :=
  worker.state = .started ∧ worker.Fits Fit

variable {b : Behaviour ω C} {p : Prototype ω C} {Fit : State → C → Prop}
  {Answer : Message → Except Fault Message → Prop}

namespace Reliable

variable (reliable : Reliable b p Fit Answer)

include reliable

/-- The factory of workers that can be relied on does not fail. -/
theorem serves : (workerFactory b p).Serves (Worker.Resting Fit) (Worker.Working Fit) where
  make := by
    intro world
    obtain ⟨service, left, created, fits⟩ := reliable.create world
    obtain ⟨succeeded, state_eq, initialised⟩ := Managed.request_obeys reliable.hooks
      (m := .new (b.uniqueId service) service) fits .init left
    simp only [workerFactory, created, succeeded]
    exact ⟨_, _, rfl, Or.inl state_eq, initialised⟩
  activate := by
    intro worker world resting
    obtain ⟨succeeded, state_eq, started⟩ :=
      Managed.request_obeys reliable.hooks resting.2 .start world
    rw [resting.1.requested_start] at state_eq
    simp only [workerFactory, Attempt.mapError, succeeded]
    exact ⟨rfl, state_eq, started⟩
  passivate := by
    intro worker world either
    have fits : worker.Fits Fit := either.elim And.right And.right
    obtain ⟨succeeded, _, stopped⟩ := Managed.request_obeys reliable.hooks fits .stop world
    have state_eq := Managed.request_stop_state b.hooks (m := worker) world
    simp only [workerFactory, Attempt.mapError, succeeded]
    refine ⟨rfl, ?_, stopped⟩
    rw [state_eq]
    rcases either with resting | working
    · rw [if_neg]
      · exact resting.1
      · rcases resting.1 with initialised | stopped
        · rw [initialised]
          decide
        · rw [stopped]
          decide
    · rw [if_pos working.1]
      exact Or.inr rfl

theorem employs : b.Employs (Worker.Working Fit) (fun _ _ => True) := by
  intro worker message world count working _
  obtain ⟨started, fits⟩ := working
  have workerFits : Fit .started worker.component := started ▸ fits
  refine ⟨⟨started, ?_⟩, trivial⟩
  unfold Managed.Fits Managed.withComponent
  dsimp only
  rw [started]
  exact (reliable.process worker.component message world workerFits).1

end Reliable

/-! ## Fragments on their way -/

namespace Errand

/-- The errand of a fragment, which has the answer for it once it is processed. -/
def For (Answer : Message → Except Fault Message → Prop) (fragment : Message) : Errand C → Prop
  | queued own => own = fragment
  | begun _ own => own = fragment
  | processed _ result => Answer fragment result
  | ended result => Answer fragment result

/-- The fragment that has still to be handed to a worker. -/
def due : Errand C → List Message
  | queued fragment => [fragment]
  | begun _ fragment => [fragment]
  | processed _ _ => []
  | ended _ => []

section

variable {pool : Pool (Worker C)} {config : Pool.Config} {lent : Nat} {world : ω}
  (reliable : Reliable b p Fit Answer) (errand : Errand C)
  (tended : pool.Tended (Worker.Resting Fit) (fun _ _ => True) config lent world)
  (room : errand.isQueued = true → lent < config.maxActive)

include reliable tended room

/-- A fragment that is taken up gets a worker. -/
theorem advance_queued {fragment : Message} (isQueued : errand = queued fragment) :
    ∃ worker, (errand.advance b (workerFactory b p) pool world).1 = begun worker fragment := by
  subst isQueued
  obtain ⟨worker, borrowed⟩ := reliable.serves.borrow_lent tended (room rfl)
  simp only [advance]
  generalize pool.borrow (workerFactory b p) world = loan at borrowed ⊢
  rcases loan with ⟨_, nowPool, left⟩
  cases borrowed
  exact ⟨worker, rfl⟩

/-- What is due is handed to a worker or stays due. -/
theorem advance_due :
    errand.handed ++ (errand.advance b (workerFactory b p) pool world).1.due = errand.due := by
  cases errand with
  | queued fragment =>
      obtain ⟨worker, begun⟩ := advance_queued reliable _ tended room rfl
      rw [begun]
      rfl
  | begun worker fragment => rfl
  | processed worker result => rfl
  | ended result => rfl

/-- A step leaves the errand with its fragment. -/
theorem advance_for {fragment : Message} (working : ∀ worker ∈ errand.workers, worker.Working Fit)
    (isFor : errand.For Answer fragment) :
    (errand.advance b (workerFactory b p) pool world).1.For Answer fragment := by
  cases errand with
  | queued own =>
      obtain ⟨worker, begun⟩ := advance_queued reliable _ tended room rfl
      rw [begun]
      exact isFor
  | begun worker own =>
      obtain ⟨started, fits⟩ := List.forall_mem_singleton.mp working
      have workerFits : Fit .started worker.component := started ▸ fits
      have same : own = fragment := isFor
      rw [← same]
      exact (reliable.process worker.component own world workerFits).2
  | processed worker result => exact isFor
  | ended result => exact isFor

end

end Errand

namespace Fanout

/-- Every fragment has its errand, those that were handed to workers and those that are due are the
fragments, and all workers are where they belong. -/
structure OnCourse (Fit : State → C → Prop) (Answer : Message → Except Fault Message → Prop)
    (config : Pool.Config) (fragments : List Message) (f : Fanout ω C) : Prop where
  tended : f.Tended (Worker.Resting Fit) (Worker.Working Fit) (fun _ _ => True) config
  answers : List.Forall₂ (Errand.For Answer) fragments f.errands
  handled : (f.handled ++ f.errands.flatMap Errand.due).Perm fragments

namespace OnCourse

variable {config : Pool.Config} {fragments : List Message} {f : Fanout ω C}

theorem ofStart {pool : Pool (Worker C)} {world : ω}
    (tended : pool.Tended (Worker.Resting Fit) (fun _ _ => True) config 0 world)
    (fragments : List Message) :
    (start fragments pool world).OnCourse Fit Answer config fragments := by
  constructor
  · exact .ofStart tended fragments
  · apply List.forall₂_map_right_iff.mpr
    exact List.forall₂_same.mpr fun _ _ => rfl
  · have due : (start fragments pool world).errands.flatMap Errand.due = fragments := by
      simp only [start, List.flatMap_map, Errand.due, List.flatMap_singleton']
    rw [due]
    exact .refl fragments

/-- No more fragments have workers than there may be workers. -/
theorem running_le (onCourse : f.OnCourse Fit Answer config fragments) :
    f.running ≤ config.maxActive := by
  have balanced := onCourse.tended.pool.balanced
  have allocated_eq := balanced.allocated_eq
  have allocated_le := balanced.allocated_le
  rw [balanced.active_eq] at allocated_eq
  omega

variable (reliable : Reliable b p Fit Answer)

include reliable

/-- As long as not all workers are lent nobody is refused or has to wait. -/
theorem borrow_lent (onCourse : f.OnCourse Fit Answer config fragments)
    (room : f.running < config.maxActive) :
    ∃ worker, (f.pool.borrow (workerFactory b p) f.world).1 = .lent worker :=
  reliable.serves.borrow_lent onCourse.tended.pool room

theorem advance {threads : Nat} (onCourse : f.OnCourse Fit Answer config fragments)
    (enough : threads ≤ config.maxActive) (index : Nat) :
    (f.advance b (workerFactory b p) threads index).OnCourse Fit Answer config fragments := by
  have tended : (f.advance b (workerFactory b p) threads index).Tended (Worker.Resting Fit)
      (Worker.Working Fit) (fun _ _ => True) config :=
    onCourse.tended.advance reliable.serves.tends reliable.employs index
  rcases f.advance_cases index with same | ⟨before, errand, after, errands_eq, free, step⟩
  · rw [same]
    exact onCourse
  · have working : ∀ worker ∈ errand.workers, worker.Working Fit := by
      intro worker member
      apply onCourse.tended.lent
      apply List.mem_flatMap.mpr
      exact ⟨errand, by rw [errands_eq]; simp, member⟩
    have room : errand.isQueued = true → f.running < config.maxActive := by
      intro isQueued
      exact Nat.lt_of_lt_of_le (free isQueued) enough
    have pool := onCourse.tended.pool
    have due := errand.advance_due reliable pool room
    have answers := onCourse.answers
    have handled := onCourse.handled
    rw [errands_eq] at answers handled
    rw [step] at tended ⊢
    refine ⟨tended, Lists.forall₂_replace_right answers ?_, ?_⟩
    · intro fragment
      exact errand.advance_for reliable pool room working
    · refine List.Perm.trans ?_ handled
      simp only [List.flatMap_append, List.flatMap_cons, ← due, List.append_assoc]
      apply List.Perm.append_left
      exact List.perm_append_comm_assoc _ _ _

theorem run {threads : Nat} (onCourse : f.OnCourse Fit Answer config fragments)
    (enough : threads ≤ config.maxActive) (order : List Nat) :
    (f.run b (workerFactory b p) threads order).OnCourse Fit Answer config fragments := by
  induction order generalizing f with
  | nil => exact onCourse
  | cons index rest ih => exact ih (onCourse.advance reliable enough index)

/-- In the end each fragment was handed to a worker once, and has its answer. -/
theorem complete {threads : Nat} (onCourse : f.OnCourse Fit Answer config fragments)
    (enough : threads ≤ config.maxActive) (positive : 0 < threads) (order : List Nat) :
    List.Forall₂ Answer fragments
        ((f.complete b (workerFactory b p) threads order).errands.map Errand.result) ∧
      (f.complete b (workerFactory b p) threads order).handled.Perm fragments := by
  have atEnd : (f.complete b (workerFactory b p) threads order).OnCourse Fit Answer config
      fragments := onCourse.run reliable enough _
  have isOver := complete_ended b (workerFactory b p) positive order f
  generalize f.complete b (workerFactory b p) threads order = left at atEnd isOver ⊢
  constructor
  · apply List.forall₂_map_right_iff.mpr
    have both := (List.forall₂_and_left _ _).mpr ⟨isOver, atEnd.answers.flip⟩
    refine both.flip.imp ?_
    rintro fragment _ ⟨⟨result, rfl⟩, isFor⟩
    exact isFor
  · have due : left.errands.flatMap Errand.due = [] := by
      apply List.flatMap_eq_nil_iff.mpr
      intro errand member
      obtain ⟨result, rfl⟩ := isOver errand member
      rfl
    have handled := atEnd.handled
    rw [due, List.append_nil] at handled
    exact handled

end OnCourse

end Fanout

/-! ## A split-join that has all its workers -/

/-- Filling up a pool comes to its end while there is room. -/
theorem WorkerPlan.fillFrom_ok {factory : Pool.Factory ω (Worker C)} {Idle Lent : Worker C → Prop}
    (serves : factory.Serves Idle Lent) {config : Pool.Config} {lent : Nat}
    (requested created missing : Nat) {pool : Pool (Worker C)} {world : ω}
    (tended : pool.Tended Idle (fun _ _ => True) config lent world)
    (room : pool.allocated + missing ≤ config.maxActive) :
    (fillFrom factory requested created missing pool world).verdict = .ok () := by
  induction missing generalizing created pool world with
  | zero => rfl
  | succ missing ih =>
      obtain ⟨succeeded, allocated_eq⟩ := serves.add_ok tended (by omega)
      simp only [fillFrom, succeeded]
      exact ih (created + 1) (tended.add serves.tends) (by omega)

namespace SplitJoin

/-- A split-join that was set up as `origin` and has its pool whenever it is not closed. -/
structure Staffed (Idle : Worker C → Prop) (origin : SplitJoin ω C) (state : State)
    (s : SplitJoin ω C) : Prop where
  housed : ∀ world, Housed Idle (fun _ _ => True) origin state s world
  pooled : state ≠ .closed → s.pool ≠ none

/-- Where nobody counts those alive the stock does not depend on the surroundings. -/
theorem Housed.anywhere {Idle : Worker C → Prop} {origin s : SplitJoin ω C} {state : State}
    {world : ω} (housed : Housed Idle (fun _ _ => True) origin state s world) (other : ω) :
    Housed Idle (fun _ _ => True) origin state s other := by
  obtain ⟨settings, stocked, closed⟩ := housed
  refine ⟨settings, ?_, closed⟩
  cases stocked with
  | empty noPool _ => exact .empty noPool trivial
  | manned pool executor manned =>
      obtain ⟨pool_eq, executor_eq, threads_eq, positive, tended⟩ := manned
      exact .manned pool executor ⟨pool_eq, executor_eq, threads_eq, positive,
        ⟨tended.opened, tended.balanced, tended.idle, trivial⟩⟩

/-- A split-join that is not closed is manned. -/
theorem Staffed.manned {Idle : Worker C → Prop} {origin s : SplitJoin ω C} {state : State}
    (staffed : Staffed Idle origin state s) (notClosed : state ≠ .closed) (world : ω) :
    ∃ pool executor, s.Manned Idle (fun _ _ => True) pool executor world := by
  cases (staffed.housed world).stocked with
  | empty noPool _ => exact absurd noPool (staffed.pooled notClosed)
  | manned pool executor manned => exact ⟨pool, executor, manned⟩

variable {origin s : SplitJoin ω C} {state : State}
  (reliable : Reliable b origin.prototype Fit Answer)

include reliable

/-- Building succeeds. -/
theorem takeUp_ok (settings : s.bare = origin) (positive : 0 < origin.poolSize) (world : ω) :
    (s.takeUp b world).verdict = .ok () ∧ (s.takeUp b world).value.pool ≠ none := by
  subst settings
  have filled : (s.bare.filled b (s.closePool b world)).verdict = .ok () := by
    have tended : s.bare.emptyPool.Tended (Worker.Resting Fit) (fun _ _ => True)
        (.fixed s.poolSize) 0 (s.closePool b world) :=
      .new (new_emptyPool (s := s.bare) positive) trivial
    exact WorkerPlan.fillFrom_ok reliable.serves _ 0 _ tended (Nat.le_of_eq (Nat.zero_add _))
  have released : s.release b world = (s.bare, s.closePool b world) := rfl
  have notEmpty : ¬ s.bare.poolSize = 0 := Nat.ne_of_gt positive
  simp only [takeUp, released, build_eq, if_neg notEmpty, filled]
  exact ⟨rfl, Option.some_ne_none _⟩

/-- A split-join whose workers can be relied on obeys at every legal event. -/
theorem hooks_obey (positive : 0 < origin.poolSize) :
    (hooks b).Obeys State.accepts (Staffed (Worker.Resting Fit) origin) := by
  intro state event s world accepted staffed
  have kept := hooks_maintain_housed (b := b) reliable.serves.tends state event s world accepted
    (staffed.housed world)
  have succeeded : ((hooks b).run event s world).verdict = .ok () ∧
      (event.target ≠ .closed → ((hooks b).run event s world).value.pool ≠ none) := by
    cases event with
    | init =>
        obtain ⟨succeeded, pooled⟩ :=
          takeUp_ok reliable (staffed.housed world).settings positive world
        exact ⟨succeeded, fun _ => pooled⟩
    | close => exact ⟨rfl, fun notClosed => absurd rfl notClosed⟩
    | start =>
        refine ⟨rfl, fun _ => staffed.pooled ?_⟩
        rintro rfl
        cases accepted
    | stop =>
        refine ⟨rfl, fun _ => staffed.pooled ?_⟩
        rintro rfl
        cases accepted
  rw [Event.outcome_ok succeeded.1] at kept
  exact ⟨succeeded.1, kept.anywhere, succeeded.2⟩

/-- Processing leaves a split-join with all its workers. -/
theorem processIn_staffed (staffed : Staffed (Worker.Resting Fit) origin state s)
    (order : List Nat) (message : Message) (world : ω) :
    Staffed (Worker.Resting Fit) origin state (s.processIn b order message world).value.1 := by
  have housed := processIn_housed reliable.serves.tends reliable.employs (staffed.housed world)
    order message
  refine ⟨housed.anywhere, ?_⟩
  intro notClosed
  obtain ⟨pool, executor, manned⟩ := staffed.manned notClosed world
  simp only [processIn, manned.pool_eq, manned.executor_eq, deliver]
  split <;> exact Option.some_ne_none _

/-- In whichever order the steps are taken, what is delivered are the answers to the fragments. -/
theorem processIn_answers (staffed : Staffed (Worker.Resting Fit) origin state s)
    {pool : Pool (Worker C)} {executor : Pool.Executor Unit} {world : ω}
    (manned : s.Manned (Worker.Resting Fit) (fun _ _ => True) pool executor world)
    (order : List Nat) (message : Message) :
    ∃ left results nowWorld,
      s.processIn b order message world =
        { s with pool := some left }.deliver executor message results nowWorld ∧
      List.Forall₂ Answer (fragments s.separator message) results := by
  have factory_eq : s.factory b = workerFactory b origin.prototype :=
    factory_of_bare (staffed.housed world).settings
  have onCourse : (Fanout.start (fragments s.separator message) pool world).OnCourse Fit Answer
      (.fixed s.poolSize) (fragments s.separator message) := .ofStart manned.tended _
  have answers := (onCourse.complete reliable (Nat.le_of_eq manned.threads_eq)
    (manned.threads_eq ▸ manned.positive) order).1
  rw [← factory_eq] at answers
  let ended := (Fanout.start (fragments s.separator message) pool world).complete b (s.factory b)
    executor.threads order
  refine ⟨ended.pool, ended.errands.map Errand.result, ended.world, ?_, answers⟩
  unfold processIn
  rw [manned.pool_eq, manned.executor_eq]

end SplitJoin

end IntegrationHost.Service
