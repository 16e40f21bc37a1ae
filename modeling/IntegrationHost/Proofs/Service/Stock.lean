import IntegrationHost.Proofs.Lifecycle.Life
import IntegrationHost.Proofs.Service.Crew
import IntegrationHost.Proofs.Service.Schedule

/-!
# The workers that a split-join holds

A split-join holds workers from `init` to `close`. Whichever of them fail at what, and in whichever
order they take their steps, all of them are back when a message is done, as many live as its pool
counts, and none lives where it has no pool. This is said of any factory that tends its workers,
with a count of the living that the surroundings keep.
-/

namespace IntegrationHost.Service

open Lifecycle

variable {ω C : Type}

/-- A worker that is lent stays so while it processes a message, and as many live. -/
def Behaviour.Employs (b : Behaviour ω C) (Lent : Worker C → Prop) (Live : ω → Nat → Prop) : Prop :=
  ∀ worker message world count, Lent worker → Live world count →
    Lent (worker.withComponent (b.process worker.component message world).value.1) ∧
      Live (b.process worker.component message world).world count

variable {b : Behaviour ω C} {factory : Pool.Factory ω (Worker C)} {Idle Lent : Worker C → Prop}
  {Live : ω → Nat → Prop} {config : Pool.Config}

/-! ## Fragments under way -/

/-- A step of a fragment borrows at most one worker and keeps the others as they are. -/
theorem Errand.advance_tended (tends : factory.Tends Idle Lent Live)
    (employs : b.Employs Lent Live) (errand : Errand C) {pool : Pool (Worker C)} {world : ω}
    {others : Nat} (tended : pool.Tended Idle Live config (others + errand.workers.length) world)
    (lent : ∀ worker ∈ errand.workers, Lent worker) :
    (errand.advance b factory pool world).2.1.Tended Idle Live config
        (others + (errand.advance b factory pool world).1.workers.length)
        (errand.advance b factory pool world).2.2 ∧
      ∀ worker ∈ (errand.advance b factory pool world).1.workers, Lent worker := by
  cases errand with
  | queued fragment =>
      have borrowed := tended.borrow tends
      simp only [advance]
      generalize pool.borrow factory world = loan at borrowed ⊢
      rcases loan with ⟨worker | error | _, pool, world⟩
      · exact ⟨borrowed.2, borrowed.1⟩
      · exact ⟨borrowed.2, List.forall_mem_nil _⟩
      · exact ⟨borrowed.2, List.forall_mem_nil _⟩
  | begun worker fragment =>
      have isLent := List.forall_mem_singleton.mp lent
      obtain ⟨stillLent, live⟩ := employs worker fragment world _ isLent tended.live
      exact ⟨⟨tended.opened, tended.balanced, tended.idle, live⟩,
        List.forall_mem_singleton.mpr stillLent⟩
  | processed worker result =>
      have isLent := List.forall_mem_singleton.mp lent
      exact ⟨tended.giveBack tends isLent, List.forall_mem_nil _⟩
  | ended result => exact ⟨tended, lent⟩

namespace Fanout

/-- The pool has lent exactly the workers that fragments have, and these are lent ones. -/
structure Tended (Idle Lent : Worker C → Prop) (Live : ω → Nat → Prop) (config : Pool.Config)
    (f : Fanout ω C) : Prop where
  pool : f.pool.Tended Idle Live config f.running f.world
  lent : ∀ worker ∈ f.borrowed, Lent worker

theorem Tended.ofStart {pool : Pool (Worker C)} {world : ω}
    (tended : pool.Tended Idle Live config 0 world) (fragments : List Message) :
    (start fragments pool world).Tended Idle Lent Live config := by
  have none : (start fragments pool world).borrowed = [] := by
    apply List.flatMap_eq_nil_iff.mpr
    intro errand member
    obtain ⟨fragment, _, rfl⟩ := List.mem_map.mp member
    rfl
  constructor
  · rw [running, none]
    exact tended
  · rw [none]
    exact List.forall_mem_nil _

variable {threads : Nat} {f : Fanout ω C} (tends : factory.Tends Idle Lent Live)
  (employs : b.Employs Lent Live)

include tends employs

theorem Tended.advance (tended : f.Tended Idle Lent Live config) (index : Nat) :
    (f.advance b factory threads index).Tended Idle Lent Live config := by
  rcases f.advance_cases index with same | ⟨before, errand, after, errands_eq, _, step⟩
  · rw [same]
    exact tended
  · have borrowed : f.borrowed =
        before.flatMap Errand.workers ++ (errand.workers ++ after.flatMap Errand.workers) := by
      rw [Fanout.borrowed, errands_eq, List.flatMap_append, List.flatMap_cons]
    have pool := tended.pool
    have lent := tended.lent
    rw [running, borrowed, List.length_append, List.length_append, Nat.add_left_comm,
      Nat.add_comm] at pool
    simp only [borrowed, List.forall_mem_append] at lent
    obtain ⟨lentBefore, lentHere, lentAfter⟩ := lent
    obtain ⟨nowPool, nowLent⟩ := errand.advance_tended tends employs pool lentHere
    rw [step]
    constructor
    · simp only [running, Fanout.borrowed, List.flatMap_append, List.flatMap_cons,
        List.length_append]
      rw [Nat.add_left_comm, Nat.add_comm]
      exact nowPool
    · simp only [Fanout.borrowed, List.flatMap_append, List.flatMap_cons, List.forall_mem_append]
      exact ⟨lentBefore, nowLent, lentAfter⟩

theorem Tended.run (tended : f.Tended Idle Lent Live config) (order : List Nat) :
    (f.run b factory threads order).Tended Idle Lent Live config := by
  induction order generalizing f with
  | nil => exact tended
  | cons index rest ih => exact ih (tended.advance tends employs index)

/-- In the end all workers are back. -/
theorem Tended.complete (positive : 0 < threads) (tended : f.Tended Idle Lent Live config)
    (order : List Nat) :
    (f.complete b factory threads order).pool.Tended Idle Live config 0
      (f.complete b factory threads order).world := by
  have atEnd : (f.complete b factory threads order).Tended Idle Lent Live config :=
    tended.run tends employs _
  have isOver := complete_ended b factory positive order f
  have none : (f.complete b factory threads order).running = 0 := by
    apply running_eq_zero
    intro errand member
    obtain ⟨result, rfl⟩ := isOver errand member
    rfl
  rw [← none]
  exact atEnd.pool

end Fanout

/-! ## Stock -/

/-- Filling up a pool tends it, whether it comes to its end or not. -/
theorem WorkerPlan.fillFrom_tended (tends : factory.Tends Idle Lent Live)
    (requested created missing : Nat) {pool : Pool (Worker C)} {world : ω} {lent : Nat}
    (tended : pool.Tended Idle Live config lent world) :
    (fillFrom factory requested created missing pool world).value.Tended Idle Live config lent
      (fillFrom factory requested created missing pool world).world :=
  fillFrom_keeps (P := fun pool world => pool.Tended Idle Live config lent world)
    (fun _ _ tended => tended.add tends) requested created missing tended

/-- No pool is filled up with workers that cannot be made. -/
theorem WorkerPlan.fillFrom_fails {world left : ω} {error : Pool.Error}
    (failed : factory.make world = (.error error, left)) (requested created : Nat) {missing : Nat}
    (some : 0 < missing) (pool : Pool (Worker C)) :
    ∃ reason, (fillFrom factory requested created missing pool world).verdict = .error reason := by
  obtain ⟨refusal, refused⟩ := pool.add_fails failed
  cases missing with
  | zero => exact absurd some (Nat.lt_irrefl 0)
  | succ missing =>
      simp only [fillFrom, refused]
      exact ⟨_, rfl⟩

namespace SplitJoin

/-- A split-join without threads and workers. -/
def bare (s : SplitJoin ω C) : SplitJoin ω C :=
  { s with pool := none, executor := none }

/-- A split-join with an open pool of its size, of which nothing is lent, and a thread for each
worker. -/
structure Manned (Idle : Worker C → Prop) (Live : ω → Nat → Prop) (s : SplitJoin ω C)
    (pool : Pool (Worker C)) (executor : Pool.Executor Unit) (world : ω) : Prop where
  pool_eq : s.pool = some pool
  executor_eq : s.executor = some executor
  threads_eq : executor.threads = s.poolSize
  positive : 0 < s.poolSize
  tended : pool.Tended Idle Live (.fixed s.poolSize) 0 world

/-- A split-join has no pool and nothing lives, or it is manned. -/
inductive Stocked (Idle : Worker C → Prop) (Live : ω → Nat → Prop) (s : SplitJoin ω C)
    (world : ω) : Prop where
  | empty (pool_eq : s.pool = none) (none : Live world 0)
  | manned (pool : Pool (Worker C)) (executor : Pool.Executor Unit)
      (manned : s.Manned Idle Live pool executor world)

/-- The stock of a split-join that was set up as `origin`. A closed one has no pool. -/
structure Housed (Idle : Worker C → Prop) (Live : ω → Nat → Prop) (origin : SplitJoin ω C)
    (state : State) (s : SplitJoin ω C) (world : ω) : Prop where
  settings : s.bare = origin
  stocked : s.Stocked Idle Live world
  closed : state = .closed → s.pool = none

variable {origin s : SplitJoin ω C} {state : State} {world : ω}

/-- What two split-joins have in common that were set up alike. -/
theorem eq_of_bare (settings : s.bare = origin) :
    s.prototype = origin.prototype ∧ s.poolSize = origin.poolSize ∧
      s.separator = origin.separator ∧ s.uniqueId = origin.uniqueId := by
  subst settings
  exact ⟨rfl, rfl, rfl, rfl⟩

theorem factory_of_bare (settings : s.bare = origin) : s.factory b = origin.factory b := by
  subst settings
  rfl

/-- A split-join that has workers has threads for them. -/
theorem Stocked.threads_pos (stocked : s.Stocked Idle Live world) (pool : Pool (Worker C))
    (executor : Pool.Executor Unit) (found : s.pool = some pool)
    (executor_eq : s.executor = some executor) : 0 < executor.threads := by
  cases stocked with
  | empty noPool _ => cases found.symm.trans noPool
  | manned _ other manned =>
      cases executor_eq.symm.trans manned.executor_eq
      rw [manned.threads_eq]
      exact manned.positive

theorem Housed.new {uniqueId separator : String} {prototype : Prototype ω C}
    {poolSize shutdownTimeoutMs : Nat} (none : Live world 0) :
    Housed Idle Live (new uniqueId prototype poolSize separator shutdownTimeoutMs) .closed
      (new uniqueId prototype poolSize separator shutdownTimeoutMs) world :=
  ⟨rfl, .empty rfl none, fun _ => rfl⟩

/-! ### What is built -/

/-- The pool before the first worker is made. -/
def emptyPool (s : SplitJoin ω C) : Pool (Worker C) :=
  ⟨s.prototype.describe ++ "-workers", .fixed s.poolSize, [], 0, 0, false⟩

/-- The threads before the first message. -/
def restingExecutor (s : SplitJoin ω C) : Pool.Executor Unit :=
  ⟨"split-join" ++ "-" ++ s.prototype.describe, s.poolSize, [], [], [], 0, [], false⟩

/-- The empty pool, filled up with workers. -/
def filled (b : Behaviour ω C) (s : SplitJoin ω C) (world : ω) :
    Attempt Pool.Error ω (Pool (Worker C)) :=
  WorkerPlan.fillFrom (s.factory b) s.poolSize 0 s.poolSize s.emptyPool world

theorem new_emptyPool (positive : 0 < s.poolSize) :
    Pool.new (s.prototype.describe ++ "-workers") (.fixed s.poolSize) = .ok s.emptyPool :=
  WorkerPlan.new_emptyPool ⟨s.prototype, s.poolSize⟩ positive _

/-- Only a split-join of no workers at all builds neither pool nor threads; any other comes as far
as filling its pool does. -/
theorem build_eq (b : Behaviour ω C) (s : SplitJoin ω C) (world : ω) :
    s.build b world =
      if s.poolSize = 0 then
        (.error (.invalidConfig
          ("worker pool for " ++ s.prototype.describe ++ " needs at least one worker")), world)
      else
        match (s.filled b world).verdict with
        | .error error =>
          (.error error,
            ((s.filled b world).value.close (s.factory b) (s.filled b world).world).2)
        | .ok () =>
          (.ok ((s.filled b world).value, s.restingExecutor), (s.filled b world).world) := by
  unfold build WorkerPlan.new
  by_cases empty : s.poolSize = 0
  · simp only [if_pos empty]
  · have made := new_emptyPool (s := s) (Nat.pos_of_ne_zero empty)
    simp only [if_neg empty, WorkerPlan.createPool, made, WorkerPlan.createExecutor,
      Pool.Executor.new, WorkerPlan.warmup]
    have filled_eq : WorkerPlan.fillFrom (workerFactory b s.prototype)
        (s.poolSize - s.emptyPool.allocated) 0 (s.poolSize - s.emptyPool.allocated) s.emptyPool
        world = s.filled b world := rfl
    rw [filled_eq]
    rcases s.filled b world with ⟨error | _, pool, left⟩ <;> rfl

section

variable (tends : (s.factory b).Tends Idle Lent Live)

include tends

/-- Where a split-join gives up its workers none is left. -/
theorem closePool_live (stocked : s.Stocked Idle Live world) : Live (s.closePool b world) 0 := by
  unfold closePool
  cases stocked with
  | empty pool_eq none =>
      rw [pool_eq]
      exact none
  | manned pool executor manned =>
      rw [manned.pool_eq]
      exact manned.tended.close_live tends

theorem filled_tended (positive : 0 < s.poolSize) (none : Live world 0) :
    (s.filled b world).value.Tended Idle Live (.fixed s.poolSize) 0 (s.filled b world).world :=
  WorkerPlan.fillFrom_tended tends s.poolSize 0 s.poolSize
    (Pool.Tended.new (new_emptyPool positive) none)

/-- What is built is manned, and where building fails nothing is left of it. -/
theorem build_stocked (none : Live world 0) :
    (∀ {error left}, s.build b world = (.error error, left) → Live left 0) ∧
      ∀ {pool executor left}, s.build b world = (.ok (pool, executor), left) →
        executor.threads = s.poolSize ∧ 0 < s.poolSize ∧
          pool.Tended Idle Live (.fixed s.poolSize) 0 left := by
  rw [build_eq]
  by_cases empty : s.poolSize = 0
  · rw [if_pos empty]
    constructor
    · rintro error left ⟨⟩
      exact none
    · rintro pool executor left ⟨⟩
  · rw [if_neg empty]
    have filled := filled_tended tends (Nat.pos_of_ne_zero empty) none
    cases (s.filled b world).verdict with
    | error reason =>
        constructor
        · rintro error left ⟨⟩
          exact filled.close_live tends
        · rintro pool executor left ⟨⟩
    | ok _ =>
        constructor
        · rintro error left ⟨⟩
        · rintro pool executor left ⟨⟩
          exact ⟨rfl, Nat.pos_of_ne_zero empty, filled⟩

/-- Building anew keeps the stock. -/
theorem takeUp_stocked (stocked : s.Stocked Idle Live world) :
    (s.takeUp b world).value.bare = s.bare ∧
      (s.takeUp b world).value.Stocked Idle Live (s.takeUp b world).world := by
  have none := closePool_live tends stocked
  obtain ⟨failed, succeeded⟩ := build_stocked (s := s.bare) tends none
  have released : s.release b world = (s.bare, s.closePool b world) := rfl
  simp only [takeUp, released]
  generalize s.bare.build b (s.closePool b world) = built at failed succeeded ⊢
  rcases built with ⟨error | ⟨pool, executor⟩, left⟩
  · exact ⟨rfl, .empty rfl (failed rfl)⟩
  · obtain ⟨threads_eq, positive, tended⟩ := succeeded rfl
    exact ⟨rfl, .manned pool executor ⟨rfl, rfl, threads_eq, positive, tended⟩⟩

end

/-- Where building anew fails there is neither pool nor threads any more. -/
theorem takeUp_failed {b : Behaviour ω C} {s : SplitJoin ω C} {world : ω} {error : Lifecycle.Error}
    (failed : (s.takeUp b world).verdict = .error error) :
    (s.takeUp b world).value = s.bare := by
  have released : s.release b world = (s.bare, s.closePool b world) := rfl
  simp only [takeUp, released] at failed ⊢
  generalize s.bare.build b (s.closePool b world) = built at failed ⊢
  rcases built with ⟨reason | ⟨pool, executor⟩, left⟩
  · rfl
  · cases failed

/-- Whatever order the steps of its fragments are taken in, all workers are back when a message is
done. -/
theorem processIn_housed (tends : (origin.factory b).Tends Idle Lent Live)
    (employs : b.Employs Lent Live) (housed : Housed Idle Live origin state s world)
    (order : List Nat) (message : Message) :
    Housed Idle Live origin state (s.processIn b order message world).value.1
      (s.processIn b order message world).world := by
  cases housed.stocked with
  | empty pool_eq none =>
      simp only [processIn, pool_eq]
      exact housed
  | manned pool executor manned =>
      simp only [processIn, manned.pool_eq, manned.executor_eq]
      rw [factory_of_bare housed.settings]
      have begun : (Fanout.start (fragments s.separator message) pool world).Tended Idle Lent Live
          (.fixed s.poolSize) := .ofStart manned.tended _
      have threads : 0 < executor.threads := by
        rw [manned.threads_eq]
        exact manned.positive
      have tended := begun.complete tends employs threads order
      generalize (Fanout.start (fragments s.separator message) pool world).complete b
        (origin.factory b) executor.threads order = left at tended ⊢
      have after : Housed Idle Live origin state
          { s with pool := some left.pool, executor := some executor } left.world := by
        refine ⟨housed.settings, ?_, ?_⟩
        · exact .manned left.pool executor
            ⟨rfl, rfl, manned.threads_eq, manned.positive, tended⟩
        · intro isClosed
          have noPool := housed.closed isClosed
          rw [manned.pool_eq] at noPool
          cases noPool
      unfold deliver
      split
      · exact after
      · exact after

/-- The hooks of a split-join keep its stock. -/
theorem hooks_maintain_housed (tends : (origin.factory b).Tends Idle Lent Live) :
    (hooks b).Maintains State.accepts (Housed Idle Live origin) := by
  intro state event s world accepted housed
  have tends : (s.factory b).Tends Idle Lent Live := by
    rw [factory_of_bare housed.settings]
    exact tends
  cases event with
  | init =>
      obtain ⟨settings, stocked⟩ := takeUp_stocked tends housed.stocked
      change Housed Idle Live origin (Event.init.outcome state (s.takeUp b world).succeeded)
        (s.takeUp b world).value (s.takeUp b world).world
      refine ⟨settings.trans housed.settings, stocked, ?_⟩
      intro isClosed
      cases verdict : (s.takeUp b world).verdict with
      | error error =>
          rw [takeUp_failed verdict]
          rfl
      | ok _ =>
          simp only [Attempt.succeeded, verdict] at isClosed
          cases isClosed
  | close =>
      exact ⟨housed.settings, .empty rfl (closePool_live tends housed.stocked), fun _ => rfl⟩
  | start => exact ⟨housed.settings, housed.stocked, fun isClosed => (by cases isClosed)⟩
  | stop => exact ⟨housed.settings, housed.stocked, fun isClosed => (by cases isClosed)⟩

end SplitJoin

end IntegrationHost.Service
