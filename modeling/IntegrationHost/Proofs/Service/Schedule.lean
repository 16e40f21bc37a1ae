import IntegrationHost.Proofs.Pool.Upkeep
import IntegrationHost.Service.SplitJoin
import Mathlib.Data.List.Basic

/-!
# Fragments on several threads

The fragments of a message are processed by workers on as many threads as the executor has. Each
takes three steps: borrow a worker, have it process the fragment, return the worker. The steps of
different fragments may come in any order, as long as no more of them are under way than there are
threads. One after the other is one such order, and it is what a split-join does by itself.
-/

namespace IntegrationHost.Service

open Lifecycle

variable {ω C : Type}

/-- How far a fragment has got. -/
inductive Errand (C : Type) where
  /-- It has no worker yet. -/
  | queued (fragment : Message)
  /-- A worker is borrowed for it. -/
  | begun (worker : Worker C) (fragment : Message)
  /-- The worker is done with it and has to be returned. -/
  | processed (worker : Worker C) (result : Except Fault Message)
  /-- Nothing is left to do. -/
  | ended (result : Except Fault Message)

namespace Errand

/-- The worker that is borrowed, if there is one. -/
def workers : Errand C → List (Worker C)
  | queued _ => []
  | begun worker _ => [worker]
  | processed worker _ => [worker]
  | ended _ => []

/-- Whether no thread has taken it up yet. -/
def isQueued : Errand C → Bool
  | queued _ => true
  | _ => false

/-- The fragment that its next step hands to a worker. -/
def handed : Errand C → List Message
  | begun _ fragment => [fragment]
  | _ => []

/-- What has come of it; one that does not end is cut short. -/
def result : Errand C → Except Fault Message
  | queued _ => .error .breakdown
  | begun _ _ => .error .breakdown
  | processed _ result => result
  | ended result => result

/-- The next step. A fragment whose thread would wait for a worker counts as cut short. -/
def advance (b : Behaviour ω C) (factory : Pool.Factory ω (Worker C)) :
    Errand C → Pool (Worker C) → ω → Errand C × Pool (Worker C) × ω
  | queued fragment, pool, world =>
    match pool.borrow factory world with
    | (.refused error, pool, world) => (.ended (.error (.error (.pool error))), pool, world)
    | (.waits, pool, world) => (.ended (.error .breakdown), pool, world)
    | (.lent worker, pool, world) => (.begun worker fragment, pool, world)
  | begun worker fragment, pool, world =>
    let done := b.process worker.component fragment world
    (.processed (worker.withComponent done.value.1) (done.verdict.map fun _ => done.value.2), pool,
      done.world)
  | processed worker result, pool, world =>
    let left := pool.giveBack factory worker world
    (.ended result, left.1, left.2)
  | ended result, pool, world => (.ended result, pool, world)

end Errand

/-- Fragments under way, with the pool that lends them workers. -/
structure Fanout (ω C : Type) where
  errands : List (Errand C)
  pool : Pool (Worker C)
  world : ω
  /-- The fragments that workers were given so far. -/
  handled : List Message

namespace Fanout

/-- All fragments are queued. -/
def start (fragments : List Message) (pool : Pool (Worker C)) (world : ω) : Fanout ω C :=
  ⟨fragments.map .queued, pool, world, []⟩

/-- The workers that are borrowed. -/
def borrowed (f : Fanout ω C) : List (Worker C) :=
  f.errands.flatMap Errand.workers

/-- How many fragments have a worker. -/
def running (f : Fanout ω C) : Nat :=
  f.borrowed.length

/-- The next step of one fragment. There is none while it is queued and no thread is free. -/
def advance (b : Behaviour ω C) (factory : Pool.Factory ω (Worker C)) (threads index : Nat)
    (f : Fanout ω C) : Fanout ω C :=
  match f.errands[index]? with
  | none => f
  | some errand =>
    if errand.isQueued && threads ≤ f.running then f
    else
      let left := errand.advance b factory f.pool f.world
      ⟨f.errands.set index left.1, left.2.1, left.2.2, f.handled ++ errand.handed⟩

/-- Steps of fragments in some order. -/
def run (b : Behaviour ω C) (factory : Pool.Factory ω (Worker C)) (threads : Nat) :
    List Nat → Fanout ω C → Fanout ω C
  | [], f => f
  | index :: rest, f => run b factory threads rest (f.advance b factory threads index)

/-- Three steps of each of `count` fragments in turn. -/
def inTurn : Nat → Nat → List Nat
  | _, 0 => []
  | index, count + 1 => index :: index :: index :: inTurn (index + 1) count

/-- Steps in some order, and then in turn until nothing is left to do: first for the fragments that
are under way, then for those that are still queued. -/
def complete (b : Behaviour ω C) (factory : Pool.Factory ω (Worker C)) (threads : Nat)
    (order : List Nat) (f : Fanout ω C) : Fanout ω C :=
  f.run b factory threads
    (order ++ inTurn 0 f.errands.length ++ inTurn 0 f.errands.length)

end Fanout

namespace SplitJoin

/-- What comes of a message when the results of its fragments are there. -/
def deliver (s : SplitJoin ω C) (executor : Pool.Executor Unit) (message : Message)
    (results : List (Except Fault Message)) (world : ω) : Processed ω (SplitJoin ω C) :=
  match collect (results.map (reported executor)) with
  | .ok processed => .done (s, join s.separator message processed) world
  | .error error => .refused (.error error) (s, message) world

/-- Process a message, with the steps of its fragments in some order. -/
def processIn (b : Behaviour ω C) (order : List Nat) (s : SplitJoin ω C) (message : Message)
    (world : ω) : Processed ω (SplitJoin ω C) :=
  match s.pool, s.executor with
  | some pool, some executor =>
    let left := (Fanout.start (fragments s.separator message) pool world).complete b (s.factory b)
      executor.threads order
    { s with pool := some left.pool }.deliver executor message (left.errands.map Errand.result)
      left.world
  | _, _ =>
    .refused (.error (.unavailable s.uniqueId "worker pool is not initialised")) (s, message) world

/-- What is left of a split-join and its surroundings when it has processed a message. -/
def serve (b : Behaviour ω C) (matter : List Nat × Message) (s : SplitJoin ω C) (world : ω) :
    SplitJoin ω C × ω :=
  let done := s.processIn b matter.1 matter.2 world
  (done.value.1, done.world)

end SplitJoin

/-! ## One step -/

namespace Errand

variable (b : Behaviour ω C) (factory : Pool.Factory ω (Worker C))

/-- All the steps that are left. -/
def finish (errand : Errand C) (pool : Pool (Worker C)) (world : ω) :
    Errand C × Pool (Worker C) × ω :=
  let first := errand.advance b factory pool world
  let second := first.1.advance b factory first.2.1 first.2.2
  second.1.advance b factory second.2.1 second.2.2

/-- The three steps of a fragment are its processing by a worker. -/
theorem finish_queued (fragment : Message) (pool : Pool (Worker C)) (world : ω) :
    (queued fragment).finish b factory pool world =
      (.ended (SplitJoin.processFragment b factory pool fragment world).1,
        (SplitJoin.processFragment b factory pool fragment world).2) := by
  simp only [finish, advance, SplitJoin.processFragment]
  rcases pool.borrow factory world with ⟨worker | error | _, pool, world⟩ <;> rfl

theorem finish_ended (errand : Errand C) (pool : Pool (Worker C)) (world : ω) :
    ∃ result, (errand.finish b factory pool world).1 = .ended result := by
  cases errand with
  | queued fragment => exact ⟨_, congrArg Prod.fst (finish_queued b factory fragment pool world)⟩
  | begun worker fragment => exact ⟨_, rfl⟩
  | processed worker result => exact ⟨_, rfl⟩
  | ended result => exact ⟨_, rfl⟩

/-- After its first step nothing is queued. -/
theorem advance_isQueued (errand : Errand C) (pool : Pool (Worker C)) (world : ω) :
    (errand.advance b factory pool world).1.isQueued = false := by
  cases errand with
  | queued fragment =>
      simp only [advance]
      rcases pool.borrow factory world with ⟨worker | error | _, pool, world⟩ <;> rfl
  | begun worker fragment => rfl
  | processed worker result => rfl
  | ended result => rfl

end Errand

namespace Fanout

variable {b : Behaviour ω C} {factory : Pool.Factory ω (Worker C)} {threads : Nat}

variable (b factory threads) in
/-- The step of the fragment that stands behind `before`. -/
theorem advance_split (before after : List (Errand C)) (errand : Errand C)
    (pool : Pool (Worker C)) (world : ω) (handled : List Message) :
    (⟨before ++ errand :: after, pool, world, handled⟩ : Fanout ω C).advance b factory threads
        before.length =
      if errand.isQueued &&
          threads ≤ (⟨before ++ errand :: after, pool, world, handled⟩ : Fanout ω C).running then
        ⟨before ++ errand :: after, pool, world, handled⟩
      else
        ⟨before ++ (errand.advance b factory pool world).1 :: after,
          (errand.advance b factory pool world).2.1, (errand.advance b factory pool world).2.2,
          handled ++ errand.handed⟩ := by
  simp [advance]

/-- All that a step can do: nothing, or move one fragment on. -/
theorem advance_cases (f : Fanout ω C) (index : Nat) :
    f.advance b factory threads index = f ∨
      ∃ before errand after, f.errands = before ++ errand :: after ∧
        (errand.isQueued = true → f.running < threads) ∧
        f.advance b factory threads index =
          ⟨before ++ (errand.advance b factory f.pool f.world).1 :: after,
            (errand.advance b factory f.pool f.world).2.1,
            (errand.advance b factory f.pool f.world).2.2, f.handled ++ errand.handed⟩ := by
  rcases f with ⟨errands, pool, world, handled⟩
  cases found : errands[index]? with
  | none =>
      apply Or.inl
      simp only [advance, found]
  | some errand =>
      obtain ⟨within, _⟩ := List.getElem?_eq_some_iff.mp found
      have split : errands = errands.take index ++ errand :: errands.drop (index + 1) := by
        have dropped := List.drop_eq_getElem?_toList_append (l := errands) (i := index)
        rw [found] at dropped
        rw [← List.singleton_append, ← Option.toList_some, ← dropped, List.take_append_drop]
      have index_eq : (errands.take index).length = index :=
        List.length_take_of_le (Nat.le_of_lt within)
      have step := advance_split b factory threads (errands.take index) (errands.drop (index + 1))
        errand pool world handled
      rw [← split, index_eq] at step
      by_cases blocked :
          (errand.isQueued &&
            threads ≤ (⟨errands, pool, world, handled⟩ : Fanout ω C).running) = true
      · rw [if_pos blocked] at step
        exact Or.inl step
      · rw [if_neg blocked] at step
        refine Or.inr ⟨_, errand, _, split, ?_, step⟩
        intro isQueued
        simp only [isQueued, Bool.true_and, decide_eq_true_eq, not_le] at blocked
        exact blocked

variable (b factory) in
/-- The three steps of the fragment that stands behind `before`, if a thread is free for it. -/
theorem run_thrice (before after : List (Errand C)) (errand : Errand C) (pool : Pool (Worker C))
    (world : ω) (handled : List Message) (rest : List Nat)
    (free : errand.isQueued = true →
      (⟨before ++ errand :: after, pool, world, handled⟩ : Fanout ω C).running < threads) :
    ∃ nowHandled,
      (⟨before ++ errand :: after, pool, world, handled⟩ : Fanout ω C).run b factory threads
          (before.length :: before.length :: before.length :: rest) =
        (⟨before ++ (errand.finish b factory pool world).1 :: after,
            (errand.finish b factory pool world).2.1, (errand.finish b factory pool world).2.2,
            nowHandled⟩ : Fanout ω C).run b factory threads rest := by
  have notBlocked :
      ¬ (errand.isQueued &&
        threads ≤ (⟨before ++ errand :: after, pool, world, handled⟩ : Fanout ω C).running) =
          true := by
    intro blocked
    simp only [Bool.and_eq_true, decide_eq_true_eq] at blocked
    exact absurd (free blocked.1) (not_lt.mpr blocked.2)
  simp only [run, advance_split, if_neg notBlocked, Errand.advance_isQueued, Bool.false_and,
    Bool.false_eq_true, if_false]
  exact ⟨_, rfl⟩

theorem run_append (first second : List Nat) (f : Fanout ω C) :
    f.run b factory threads (first ++ second) =
      (f.run b factory threads first).run b factory threads second := by
  induction first generalizing f with
  | nil => rfl
  | cons index rest ih => exact ih _

/-- No fragment is lost. -/
theorem advance_length (f : Fanout ω C) (index : Nat) :
    (f.advance b factory threads index).errands.length = f.errands.length := by
  rcases f.advance_cases index with same | ⟨before, errand, after, errands_eq, _, step⟩
  · rw [same]
  · rw [step, errands_eq]
    simp only [List.length_append, List.length_cons]

theorem run_length (order : List Nat) (f : Fanout ω C) :
    (f.run b factory threads order).errands.length = f.errands.length := by
  induction order generalizing f with
  | nil => rfl
  | cons index rest ih => exact (ih _).trans (f.advance_length index)

/-! ## In turn -/

/-- Where nobody has a worker none is running. -/
theorem running_eq_zero {errands : List (Errand C)} (idle : ∀ e ∈ errands, e.workers = [])
    (pool : Pool (Worker C)) (world : ω) (handled : List Message) :
    (⟨errands, pool, world, handled⟩ : Fanout ω C).running = 0 := by
  apply List.length_eq_zero_iff.mpr
  exact List.flatMap_eq_nil_iff.mpr idle

variable (b factory threads) in
/-- After one turn nobody has a worker any more. -/
theorem turn_idle (before after : List (Errand C)) (pool : Pool (Worker C)) (world : ω)
    (handled : List Message) :
    ∃ left nowPool nowWorld nowHandled,
      (⟨before ++ after, pool, world, handled⟩ : Fanout ω C).run b factory threads
          (inTurn before.length after.length) =
        ⟨before ++ left, nowPool, nowWorld, nowHandled⟩ ∧
      left.length = after.length ∧ ∀ e ∈ left, e.workers = [] := by
  induction after generalizing before pool world handled with
  | nil => exact ⟨[], pool, world, handled, rfl, rfl, List.forall_mem_nil _⟩
  | cons errand rest ih =>
      have next : ∀ (now : Errand C) pool world handled, now.workers = [] →
          ∃ left nowPool nowWorld nowHandled,
            (⟨before ++ now :: rest, pool, world, handled⟩ : Fanout ω C).run b factory threads
                (inTurn (before.length + 1) rest.length) =
              ⟨before ++ left, nowPool, nowWorld, nowHandled⟩ ∧
            left.length = (errand :: rest).length ∧ ∀ e ∈ left, e.workers = [] := by
        intro now pool world handled isIdle
        obtain ⟨left, nowPool, nowWorld, nowHandled, ran, length_eq, leftIdle⟩ :=
          ih (before ++ [now]) pool world handled
        rw [List.append_assoc, List.singleton_append, List.length_append,
          List.length_singleton] at ran
        refine ⟨now :: left, nowPool, nowWorld, nowHandled, ?_, ?_, ?_⟩
        · rw [ran, List.append_assoc, List.singleton_append]
        · rw [List.length_cons, length_eq, List.length_cons]
        · exact List.forall_mem_cons.mpr ⟨isIdle, leftIdle⟩
      by_cases free : errand.isQueued = true →
          (⟨before ++ errand :: rest, pool, world, handled⟩ : Fanout ω C).running < threads
      · obtain ⟨nowHandled, ran⟩ := run_thrice b factory before rest errand pool world
          handled (inTurn (before.length + 1) rest.length) free
        obtain ⟨result, isOver⟩ := errand.finish_ended b factory pool world
        rw [List.length_cons, inTurn, ran, isOver]
        exact next _ _ _ _ rfl
      · rw [Classical.not_imp] at free
        obtain ⟨isQueued, full⟩ := free
        have blocked :
            (errand.isQueued &&
              threads ≤ (⟨before ++ errand :: rest, pool, world, handled⟩ : Fanout ω C).running) =
                true := by
          simp only [isQueued, Bool.true_and, decide_eq_true_eq]
          exact not_lt.mp full
        have stays : errand.workers = [] := by
          cases errand with
          | queued fragment => rfl
          | _ => cases isQueued
        rw [List.length_cons, inTurn]
        simp only [run, advance_split, if_pos blocked]
        exact next _ _ _ _ stays

/-- All errands are finished, one after the other. -/
def finishAll (b : Behaviour ω C) (factory : Pool.Factory ω (Worker C)) :
    List (Errand C) → Pool (Worker C) → ω → List (Errand C) × Pool (Worker C) × ω
  | [], pool, world => ([], pool, world)
  | errand :: rest, pool, world =>
    let first := errand.finish b factory pool world
    let others := finishAll b factory rest first.2.1 first.2.2
    (first.1 :: others.1, others.2)

/-- Where nobody has a worker one turn finishes all. -/
theorem turn_finishes (positive : 0 < threads) (before after : List (Errand C))
    (pool : Pool (Worker C)) (world : ω) (handled : List Message)
    (idleBefore : ∀ e ∈ before, e.workers = []) (idleAfter : ∀ e ∈ after, e.workers = []) :
    ∃ nowHandled,
      (⟨before ++ after, pool, world, handled⟩ : Fanout ω C).run b factory threads
          (inTurn before.length after.length) =
        ⟨before ++ (finishAll b factory after pool world).1,
          (finishAll b factory after pool world).2.1,
          (finishAll b factory after pool world).2.2, nowHandled⟩ := by
  induction after generalizing before pool world handled with
  | nil => exact ⟨handled, rfl⟩
  | cons errand rest ih =>
      have noneRuns : (⟨before ++ errand :: rest, pool, world, handled⟩ : Fanout ω C).running = 0 :=
        running_eq_zero (List.forall_mem_append.mpr ⟨idleBefore, idleAfter⟩) pool world handled
      obtain ⟨nowHandled, ran⟩ := run_thrice b factory before rest errand pool world
        handled (inTurn (before.length + 1) rest.length) fun _ => noneRuns ▸ positive
      obtain ⟨result, isOver⟩ := errand.finish_ended b factory pool world
      have next := ih (before ++ [(errand.finish b factory pool world).1])
        (errand.finish b factory pool world).2.1 (errand.finish b factory pool world).2.2
        nowHandled
        (List.forall_mem_append.mpr
          ⟨idleBefore, List.forall_mem_singleton.mpr (by rw [isOver]; rfl)⟩)
        (List.forall_mem_cons.mp idleAfter).2
      rw [List.append_assoc, List.singleton_append, List.length_append, List.length_singleton]
        at next
      obtain ⟨lastHandled, last⟩ := next
      refine ⟨lastHandled, ?_⟩
      rw [List.length_cons, inTurn, ran, last, List.append_assoc, List.singleton_append]
      rfl

theorem finishAll_ended (errands : List (Errand C)) (pool : Pool (Worker C)) (world : ω) :
    ∀ e ∈ (finishAll b factory errands pool world).1, ∃ result, e = .ended result := by
  induction errands generalizing pool world with
  | nil => exact List.forall_mem_nil _
  | cons errand rest ih =>
      exact List.forall_mem_cons.mpr ⟨errand.finish_ended b factory pool world, ih _ _⟩

/-- What has ended is not touched any more. -/
theorem finishAll_of_ended {errands : List (Errand C)} (isOver : ∀ e ∈ errands, ∃ r, e = .ended r)
    (pool : Pool (Worker C)) (world : ω) :
    finishAll b factory errands pool world = (errands, pool, world) := by
  induction errands generalizing pool world with
  | nil => rfl
  | cons errand rest ih =>
      obtain ⟨⟨result, rfl⟩, restOver⟩ := List.forall_mem_cons.mp isOver
      simp only [finishAll, Errand.finish, Errand.advance, ih restOver]

/-- Finishing queued fragments is to have them processed one after the other. -/
theorem finishAll_queued (fragments : List Message) (pool : Pool (Worker C)) (world : ω) :
    finishAll b factory (fragments.map .queued) pool world =
      ((SplitJoin.processFragments b factory fragments pool world).1.map .ended,
        (SplitJoin.processFragments b factory fragments pool world).2) := by
  induction fragments generalizing pool world with
  | nil => rfl
  | cons fragment rest ih =>
      simp only [List.map_cons, finishAll, Errand.finish_queued, ih, SplitJoin.processFragments]

/-! ## To the end -/

theorem turn_idle_all (f : Fanout ω C) :
    ∀ e ∈ (f.run b factory threads (inTurn 0 f.errands.length)).errands, e.workers = [] := by
  obtain ⟨left, nowPool, nowWorld, nowHandled, ran, _, idle⟩ :=
    turn_idle b factory threads [] f.errands f.pool f.world f.handled
  change f.run b factory threads (inTurn 0 f.errands.length) = _ at ran
  rw [ran]
  exact idle

variable (b factory) in
theorem turn_finishes_all (positive : 0 < threads) (f : Fanout ω C)
    (idle : ∀ e ∈ f.errands, e.workers = []) :
    ∃ handled,
      f.run b factory threads (inTurn 0 f.errands.length) =
        ⟨(finishAll b factory f.errands f.pool f.world).1,
          (finishAll b factory f.errands f.pool f.world).2.1,
          (finishAll b factory f.errands f.pool f.world).2.2, handled⟩ :=
  turn_finishes positive [] f.errands f.pool f.world f.handled (List.forall_mem_nil _) idle

variable (b factory) in
/-- In the end every fragment has ended, in whichever order the steps were taken. -/
theorem complete_ended (positive : 0 < threads) (order : List Nat) (f : Fanout ω C) :
    ∀ e ∈ (f.complete b factory threads order).errands, ∃ result, e = .ended result := by
  rw [complete, run_append, run_append]
  generalize ordered : f.run b factory threads order = begun
  have begunLength : f.errands.length = begun.errands.length := by
    rw [← ordered, run_length]
  rw [begunLength]
  generalize turned : begun.run b factory threads (inTurn 0 begun.errands.length) = idled
  have idledLength : begun.errands.length = idled.errands.length := by
    rw [← turned, run_length]
  have idle : ∀ e ∈ idled.errands, e.workers = [] := by
    rw [← turned]
    exact begun.turn_idle_all
  obtain ⟨handled, finished⟩ := turn_finishes_all b factory positive idled idle
  rw [idledLength, finished]
  exact finishAll_ended idled.errands idled.pool idled.world

variable (b factory) in
/-- Left to itself, the fan-out processes one fragment after the other. -/
theorem complete_start (positive : 0 < threads) (fragments : List Message)
    (pool : Pool (Worker C)) (world : ω) :
    ∃ handled,
      (start fragments pool world).complete b factory threads [] =
        ⟨(SplitJoin.processFragments b factory fragments pool world).1.map .ended,
          (SplitJoin.processFragments b factory fragments pool world).2.1,
          (SplitJoin.processFragments b factory fragments pool world).2.2, handled⟩ := by
  have queuedIdle : ∀ e ∈ (start fragments pool world).errands, e.workers = [] := by
    intro errand member
    obtain ⟨fragment, _, rfl⟩ := List.mem_map.mp member
    rfl
  obtain ⟨handled, first⟩ := turn_finishes_all b factory positive
    (start fragments pool world) queuedIdle
  simp only [start, finishAll_queued] at first
  generalize SplitJoin.processFragments b factory fragments pool world = processed at first ⊢
  rcases processed with ⟨results, nowPool, nowWorld⟩
  have isOver : ∀ e ∈ results.map (Errand.ended (C := C)), ∃ result, e = .ended result := by
    intro errand member
    obtain ⟨result, _, rfl⟩ := List.mem_map.mp member
    exact ⟨result, rfl⟩
  have overIdle : ∀ e ∈ results.map (Errand.ended (C := C)), e.workers = [] := by
    intro errand member
    obtain ⟨result, rfl⟩ := isOver errand member
    rfl
  obtain ⟨lastHandled, last⟩ := turn_finishes_all b factory positive
    ⟨results.map .ended, nowPool, nowWorld, handled⟩ overIdle
  have length_eq := congrArg (fun f : Fanout ω C => f.errands.length) first
  simp only [run_length] at length_eq
  simp only [finishAll_of_ended isOver] at last
  refine ⟨lastHandled, ?_⟩
  rw [complete, List.nil_append, run_append]
  simp only [start]
  rw [first, length_eq]
  exact last

end Fanout

/-- The order in which a split-join takes the steps by itself is one of those possible. -/
theorem SplitJoin.processIn_nil (b : Behaviour ω C) (s : SplitJoin ω C) (message : Message)
    (world : ω)
    (positive : ∀ pool executor, s.pool = some pool → s.executor = some executor →
      0 < executor.threads) :
    s.processIn b [] message world = s.process b message world := by
  unfold processIn process
  cases held : s.pool with
  | none => rfl
  | some pool =>
      cases found : s.executor with
      | none => rfl
      | some executor =>
          obtain ⟨handled, ran⟩ := Fanout.complete_start b (s.factory b)
            (positive pool executor held found) (fragments s.separator message) pool world
          have results : Errand.result ∘ Errand.ended (C := C) = id := rfl
          simp only [ran, List.map_map, results, List.map_id]
          rfl

end IntegrationHost.Service
