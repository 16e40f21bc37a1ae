import IntegrationHost.Proofs.Service.Positions

/-!
# Filling up a pool of workers

A pool is filled up by one attempt after the other to make a worker, until there are as many as
planned or an attempt has failed. What was made until then stays, idle and counted, behind what lay
idle before; nothing else is touched. When such a pool is closed and all its guards are given up,
none of its workers is left, whenever and by whomever they were made.
-/

namespace IntegrationHost

open Lifecycle Service
open Service (Registered)

variable {ω C T : Type}

/-- A pool in which more objects lie idle, behind the others, and are counted. -/
def Pool.laidIdle (pool : Pool T) (objects : List T) : Pool T :=
  { pool with idle := pool.idle ++ objects, allocated := pool.allocated + objects.length }

theorem Pool.laidIdle_nil (pool : Pool T) : pool.laidIdle [] = pool := by
  rw [laidIdle, List.append_nil]
  rfl

theorem Pool.laidIdle_cons (pool : Pool T) (object : T) (objects : List T) :
    (pool.laidIdle [object]).laidIdle objects = pool.laidIdle (object :: objects) := by
  simp only [laidIdle, List.append_assoc, List.singleton_append, List.length_cons, List.length_nil,
    Pool.mk.injEq, true_and, and_true]
  omega

namespace Service

open Registered

/-! ## Attempts in a row -/

/-- Between two moments attempts to make a worker had the `outcomes`, of which the workers came, in
order; no worker was destroyed. -/
structure Register.Hired (before after : Register ω C) (workers : List (Registered C))
    (outcomes : List (Option Pool.Error)) : Prop where
  attempts_eq : after.attempts = before.attempts ++ outcomes
  numbers_eq : workers.map number = List.range' before.made workers.length
  made_eq : after.made = before.made + workers.length
  gone_eq : after.gone = before.gone
  initialised : ∀ w ∈ workers, w.state = .initialised

namespace Register.Hired

variable {before middle after : Register ω C} {workers others : List (Registered C)}
  {outcomes more : List (Option Pool.Error)}

theorem refl (r : Register ω C) : r.Hired r [] [] :=
  ⟨(List.append_nil _).symm, rfl, rfl, rfl, List.forall_mem_nil _⟩

theorem trans (first : before.Hired middle workers outcomes)
    (second : middle.Hired after others more) :
    before.Hired after (workers ++ others) (outcomes ++ more) := by
  constructor
  · rw [second.attempts_eq, first.attempts_eq, List.append_assoc]
  · rw [List.map_append, first.numbers_eq, second.numbers_eq, first.made_eq, List.length_append,
      List.range'_append_1]
  · rw [second.made_eq, first.made_eq, List.length_append, Nat.add_assoc]
  · rw [second.gone_eq, first.gone_eq]
  · exact List.forall_mem_append.mpr ⟨first.initialised, second.initialised⟩

end Register.Hired

section

variable {b : Behaviour ω C} {p : Prototype ω C} {pool : Pool (Registered C)}

/-- An open pool with room is given a worker, unless one cannot be made. -/
theorem add_hired (opened : pool.closed = false) (room : pool.allocated < pool.config.maxActive)
    (r : Register ω C) :
    let added := pool.add (b.register p).factory r
    (∃ error, added.verdict = .error error ∧ added.value = pool ∧
        r.Hired added.world [] [some error]) ∨
      ∃ w, added.verdict = .ok () ∧ added.value = pool.laidIdle [w] ∧
        r.Hired added.world [w] [none] := by
  rcases Pool.add_cases (b.register p).factory pool r with
    ⟨refused, _⟩ | ⟨error, left, called, eq⟩ | ⟨w, left, _, called, failed, eq⟩ |
    ⟨w, left, _, _, called, _, eq⟩
  · rcases refused with closed | full
    · cases opened.symm.trans closed
    · exact absurd room (Nat.not_lt.mpr full)
  all_goals
    rcases registerMake_cases b p r with
      ⟨_, _, _, _, _, made⟩ | ⟨_, _, state, _, isNumber, _, made⟩ <;> cases made.symm.trans called
  · rw [eq]
    exact Or.inl ⟨_, rfl, rfl, rfl, rfl, rfl, rfl, List.forall_mem_nil _⟩
  -- A new worker is asked to stop before it is laid idle, which cannot fail and does nothing.
  · cases failed.symm.trans (passivate_eq b p w _).1
  · obtain ⟨_, number_eq, _, state_eq⟩ := passivate_eq b p w
      { r with world := _, attempts := r.attempts ++ [none], made := r.made + 1 }
    rw [state, if_neg (by decide)] at state_eq
    rw [eq]
    refine Or.inr ⟨_, rfl, rfl, rfl, ?_, rfl, rfl, List.forall_mem_singleton.mpr state_eq⟩
    exact congrArg (fun n => [n]) (number_eq.trans isNumber)

/-- Workers are made until there are enough or one cannot be made. -/
theorem fillFrom_hired (opened : pool.closed = false) {missing : Nat}
    (room : pool.allocated + missing ≤ pool.config.maxActive) (requested created : Nat)
    (r : Register ω C) :
    let filled := WorkerPlan.fillFrom (b.register p).factory requested created missing pool r
    ∃ workers, filled.value = pool.laidIdle workers ∧
      ((filled.verdict = .ok () ∧ workers.length = missing ∧
          r.Hired filled.world workers (List.replicate missing none)) ∨
        ∃ error,
          filled.verdict =
            .error (.warmup pool.name (created + workers.length) requested error.message) ∧
          workers.length < missing ∧
          r.Hired filled.world workers (List.replicate workers.length none ++ [some error])) := by
  induction missing generalizing pool created r with
  | zero => exact ⟨[], pool.laidIdle_nil.symm, Or.inl ⟨rfl, rfl, .refl r⟩⟩
  | succ missing ih =>
      have hasRoom : pool.allocated < pool.config.maxActive := by omega
      simp only [WorkerPlan.fillFrom]
      rcases add_hired (b := b) (p := p) opened hasRoom r with
        ⟨error, failed, value_eq, hired⟩ | ⟨w, succeeded, value_eq, hired⟩
      · simp only [failed, value_eq]
        exact ⟨[], pool.laidIdle_nil.symm, Or.inr ⟨error, rfl, Nat.succ_pos _, hired⟩⟩
      · have stillRoom :
            (pool.laidIdle [w]).allocated + missing ≤ (pool.laidIdle [w]).config.maxActive := by
          simp only [Pool.laidIdle, List.length_singleton]
          omega
        simp only [succeeded, value_eq]
        obtain ⟨workers, filled_eq, rest⟩ := ih (by exact opened) stillRoom (created + 1)
          (pool.add (b.register p).factory r).world
        refine ⟨w :: workers, filled_eq.trans (pool.laidIdle_cons w workers), ?_⟩
        rcases rest with ⟨verdict, length_eq, more⟩ | ⟨error, verdict, short, more⟩
        · exact Or.inl ⟨verdict, congrArg Nat.succ length_eq, hired.trans more⟩
        · refine Or.inr ⟨error, ?_, Nat.succ_lt_succ short, hired.trans more⟩
          rw [verdict, List.length_cons, Nat.add_assoc, Nat.add_comm 1]
          rfl

/-- A pool is filled up by as many attempts as it lacks workers, unless one of them fails; then
there is no other. -/
theorem fillUp_hired (opened : pool.closed = false) {size : Nat} (atMost : pool.allocated ≤ size)
    (within : size ≤ pool.config.maxActive) (r : Register ω C) :
    let filled := WorkerPlan.fillUp (b.register p).factory size pool r
    let missing := size - pool.allocated
    ∃ workers, filled.value = pool.laidIdle workers ∧
      ((filled.verdict = .ok () ∧ workers.length = missing ∧ filled.value.allocated = size ∧
          r.Hired filled.world workers (List.replicate missing none)) ∨
        ∃ error,
          filled.verdict = .error (.warmup pool.name workers.length missing error.message) ∧
          workers.length < missing ∧
          r.Hired filled.world workers (List.replicate workers.length none ++ [some error])) := by
  intro filled missing
  have room : pool.allocated + missing ≤ pool.config.maxActive := by
    rw [Nat.add_sub_cancel' atMost]
    exact within
  obtain ⟨workers, value_eq, outcome⟩ := fillFrom_hired (b := b) (p := p) opened room missing 0 r
  change filled.value = pool.laidIdle workers at value_eq
  refine ⟨workers, value_eq, ?_⟩
  rcases outcome with ⟨verdict, length_eq, hired⟩ | ⟨error, verdict, short, hired⟩
  · refine Or.inl ⟨verdict, length_eq, ?_, hired⟩
    rw [value_eq, Pool.laidIdle, length_eq]
    exact Nat.add_sub_cancel' atMost
  · rw [Nat.zero_add] at verdict
    exact Or.inr ⟨error, verdict, short, hired⟩

end

/-! ## Crews that are filled up -/

namespace Crew

/-- A crew of which nothing is left: all workers that were ever made are destroyed, once, and
closed, once. -/
structure Dissolved (g : RegisteredCrew C) (r : Register ω C) : Prop where
  idle : g.pool.idle = []
  allocated : g.pool.allocated = 0
  destroyed : ∀ n, n < r.made → (r.gone.map number).count n = 1
  closed : ∀ w ∈ r.gone, w.state = .closed ∧ closings w = 1

variable {craft : Craft ω C} {config : Pool.Config}

/-- However a crew is used, its counters agree with what there is. -/
theorem balanced_use {g : Crew C} (balanced : g.Balanced config) (u : Use) (world : ω) :
    (use craft u g world).1.Balanced config := by
  cases u with
  | warmup size =>
      exact WorkerPlan.fillUp_keeps (P := fun pool _ => pool.Balanced config g.guards.length)
        (fun _ world balanced => balanced.add craft.factory world) size balanced
  | pool u => exact (Pool.Guarded.balanced_use balanced craft.factory u world).1
  | process name message =>
      simp only [use]
      cases g.get? name with
      | none => exact balanced
      | some worker =>
          unfold Pool.Guarded.Balanced Pool.Guarded.update
          rw [List.length_map]
          exact balanced

variable {b : Behaviour ω C} {p : Prototype ω C} {g : RegisteredCrew C} {r : Register ω C}

/-- A pool that is closed stays so. -/
theorem closed_use (closed : g.pool.closed = true) (u : Use) :
    (use (b.register p) u g r).1.pool.closed = true := by
  cases u with
  | warmup size =>
      refine WorkerPlan.fillUp_keeps (P := fun pool (_ : Register ω C) => pool.closed = true)
        ?_ size closed
      intro pool r closed
      simp only [Pool.add, closed, if_true]
      exact closed
  | pool u =>
      have retired : Pool.Guarded.Retired r.ledger.asked (g.map unrecorded) r.ledger :=
        ⟨closed, rfl⟩
      have used := Pool.Guarded.retired_use retired (workerFactory b p) u
      rw [Pool.Guarded.use_map (ledger_projection b p)] at used
      exact used.1
  | process name message =>
      simp only [use]
      cases g.get? name with
      | none => exact closed
      | some worker => exact closed

/-- When a pool was closed and all guards are given up, its workers are all closed, and once. -/
theorem Orderly.dissolved {lent : List Nat} (orderly : Orderly lent g r)
    (balanced : g.Balanced config) (closed : g.pool.closed = true) (noGuards : g.guards = []) :
    Dissolved g r := by
  have idle : g.pool.idle = [] := List.map_eq_nil_iff.mp (orderly.custody.closed_idle closed)
  refine ⟨idle, ?_, fun n below => ?_, fun w isGone => ?_⟩
  · rw [balanced.allocated_eq, balanced.active_eq, idle, noGuards]
    rfl
  · have once := spread orderly.custody n
    rw [if_pos below] at once
    simpa [idleNumbers, guardNumbers, idle, noGuards] using once
  · have dismissed := orderly.placed.arranged.sound.gone w isGone
    exact ⟨dismissed.closed, dismissed.once⟩

/-- Of an open pool that was made for a plan and used in any way before, whatever its services do:
filling it up does in the register what it does without. Workers are laid idle behind the others,
and nothing else changes. Either each attempt succeeds that it takes to have as many as planned, and
then there are as many; or one fails before, after which there is no other, and the error tells how
many have succeeded until then. However the pool is used afterwards, once it was closed and all its
guards are given up, no worker is left in it and each that was ever made is closed, and once. -/
theorem warmup_exact {plan : WorkerPlan ω C} (positive : 0 < plan.size) (b : Behaviour ω C)
    (before : List Use) (world : ω) :
    let craft := b.register plan.prototype
    let left := session craft before (.ofPool (plan.emptyPool _)) (.blank world)
    let g := left.1
    let r := left.2
    let filled := WorkerPlan.fillUp craft.factory plan.size g.pool r
    let missing := plan.size - g.pool.allocated
    g.pool.closed = false →
      plan.createPool = .ok (plan.emptyPool _) ∧
      session (b.craft plan.prototype) before (.ofPool (plan.emptyPool _)) world =
        (g.map plain, r.world) ∧
      plan.warmup b (g.pool.map plain) r.world = filled.project (Pool.map plain) Register.world ∧
      (∃ workers, filled.value = g.pool.laidIdle workers ∧
        ((filled.verdict = .ok () ∧ workers.length = missing ∧
            filled.value.allocated = plan.size ∧
            r.Hired filled.world workers (List.replicate missing none)) ∨
          ∃ error,
            filled.verdict = .error (.warmup g.pool.name workers.length missing error.message) ∧
            workers.length < missing ∧
            r.Hired filled.world workers (List.replicate workers.length none ++ [some error]))) ∧
      ∀ after,
        let finish := session craft after { g with pool := filled.value } filled.world
        session (b.craft plan.prototype) (before ++ .warmup plan.size :: after)
            (.ofPool (plan.emptyPool _)) world = (finish.1.map plain, finish.2.world) ∧
          (.pool .close ∈ after → finish.1.guards = [] → Dissolved finish.1 finish.2) := by
  intro craft left g r filled missing opened
  have made := plan.new_emptyPool positive (Registered C)
  have start : (Pool.Guarded.ofPool (plan.emptyPool (Registered C))).Balanced (.fixed plan.size) :=
    Pool.Balanced.new made
  have keepsBalance : ∀ u (g : RegisteredCrew C) r, g.Balanced (.fixed plan.size) →
      (use craft u g r).1.Balanced (.fixed plan.size) :=
    fun u _ r balanced => balanced_use balanced u r
  have balanced : g.Balanced (.fixed plan.size) := session_keeps keepsBalance before start
  have plainly (uses : List Use) :=
    session_map (register_projection b plan.prototype) uses (.ofPool (plan.emptyPool _))
      (.blank world)
  have plainlyFilled : plan.warmup b (g.pool.map plain) r.world =
      filled.project (Pool.map plain) Register.world := by
    rw [WorkerPlan.warmup_eq]
    exact WorkerPlan.fillUp_map (register_projection b plan.prototype).factory plan.size g.pool r
  refine ⟨plan.new_emptyPool positive (Worker C), plainly before, plainlyFilled, ?_,
    fun after => ⟨?_, fun closes noGuards => ?_⟩⟩
  · have within : plan.size ≤ g.pool.config.maxActive := by
      rw [balanced.config_eq]
      exact Nat.le_refl _
    exact fillUp_hired opened balanced.allocated_le within r
  · refine (plainly (before ++ .warmup plan.size :: after)).trans ?_
    rw [session_append]
    rfl
  · obtain ⟨first, rest, rfl⟩ := List.append_of_mem closes
    have filledUp := keepsBalance (.warmup plan.size) g r balanced
    have orderly : Orderly _ g r := (Orderly.new made world).session before
    have onwards := (orderly.use (b := b) (p := plan.prototype) (.warmup plan.size)).session
      (b := b) (p := plan.prototype) (first ++ .pool .close :: rest)
    refine onwards.dissolved (session_keeps keepsBalance _ filledUp) ?_ noGuards
    -- The session up to the closing, the closing, and the session after it.
    simp only [session_append]
    exact session_keeps (P := fun g (_ : Register ω C) => g.pool.closed = true)
      (fun u _ _ closed => closed_use closed u) rest rfl

/-- Of two workers that are missing one is made and one cannot be initialised; in the end the two
that there were and another one, made for the one that was given up, are closed. -/
theorem warmup_exact_fickle :
    let plan : WorkerPlan Nat Nat := ⟨fickleOnes, 3⟩
    let craft := fickle.register plan.prototype
    let before : List Use := [.warmup 1, .pool (.checkout "a")]
    let after : List Use := [.pool (.release .invalidate "a"), .pool .close]
    let left := session craft before (.ofPool (plan.emptyPool _)) (.blank 0)
    let filled := WorkerPlan.fillUp craft.factory plan.size left.1.pool left.2
    let finish := session craft after { left.1 with pool := filled.value } filled.world
    0 < plan.size ∧ left.1.pool.closed = false ∧ filled.value.allocated = 2 ∧
      finish.2.gone.map number = [0, 1, 2] ∧ Dissolved finish.1 finish.2 := by
  intro plan craft before after left filled finish
  have positive : 0 < plan.size := by decide
  have opened : left.1.pool.closed = false := by decide
  have closes : .pool .close ∈ after := List.mem_cons_of_mem _ (List.mem_singleton_self _)
  have noGuards : finish.1.guards = [] := by decide
  obtain ⟨-, -, -, -, later⟩ := warmup_exact positive fickle before 0 opened
  exact ⟨positive, opened, by decide, by decide, (later after).2 closes noGuards⟩

end Crew

end Service

end IntegrationHost
