import IntegrationHost.Proofs.Service.Stock
import IntegrationHost.Proofs.Service.Tally

/-!
# No worker is left over

A split-join with tallied workers does what it does without the tally, so the tally tells how many
of its workers live at any time of its life: as many as its pool counts, and none where it has no
pool. Between two messages none of them is lent. What is left after a failed `init` and after a
`close` has no pool.
-/

namespace IntegrationHost

/-- Leaving nothing out changes nothing. -/
@[simp]
theorem Pool.map_id {T : Type} : Pool.map (id : T → T) = id := by
  funext pool
  simp only [Pool.map, List.map_id, id]

namespace Service

open Lifecycle

variable {ω C : Type}

/-! ## Without the tally -/

section

variable (b : Behaviour ω C) (p : Prototype ω C)

theorem Errand.advance_tallied (errand : Errand C) (pool : Pool (Worker C)) (t : Tally ω) :
    errand.advance b (workerFactory b p) pool t.world =
      ((errand.advance b.tallied (workerFactory b.tallied p.tallied) pool t).1,
        (errand.advance b.tallied (workerFactory b.tallied p.tallied) pool t).2.1,
        (errand.advance b.tallied (workerFactory b.tallied p.tallied) pool t).2.2.world) := by
  cases errand with
  | queued fragment =>
      have borrowed := Pool.borrow_map (workerFactory_projection b p) pool t
      simp only [Pool.map_id, id] at borrowed
      simp only [advance, borrowed]
      rcases pool.borrow (workerFactory b.tallied p.tallied) t with
        ⟨worker | error | _, pool, t⟩ <;> rfl
  | begun worker fragment => rfl
  | processed worker result =>
      have returned := Pool.giveBack_map (workerFactory_projection b p) pool worker t
      simp only [Pool.map_id, id] at returned
      simp only [advance, returned]
  | ended result => rfl

/-- Fragments under way, without the tally. -/
def Fanout.untallied (f : Fanout (Tally ω) C) : Fanout ω C :=
  ⟨f.errands, f.pool, f.world.world, f.handled⟩

namespace Fanout

theorem advance_untallied (threads index : Nat) (f : Fanout (Tally ω) C) :
    f.untallied.advance b (workerFactory b p) threads index =
      (f.advance b.tallied (workerFactory b.tallied p.tallied) threads index).untallied := by
  have running_eq : f.untallied.running = f.running := rfl
  have errands_eq : f.untallied.errands = f.errands := rfl
  unfold advance
  rw [running_eq, errands_eq]
  cases f.errands[index]? with
  | none => rfl
  | some errand =>
      have step := errand.advance_tallied b p f.pool f.world
      by_cases blocked : (errand.isQueued && threads ≤ f.running) = true
      · simp only [blocked, if_true]
      · simp only [blocked, if_false, untallied, step, Bool.false_eq_true]

theorem run_untallied (threads : Nat) (order : List Nat) (f : Fanout (Tally ω) C) :
    f.untallied.run b (workerFactory b p) threads order =
      (f.run b.tallied (workerFactory b.tallied p.tallied) threads order).untallied := by
  induction order generalizing f with
  | nil => rfl
  | cons index rest ih =>
      simp only [run, advance_untallied]
      exact ih _

end Fanout

theorem WorkerPlan.fillFrom_tallied (requested created missing : Nat) (pool : Pool (Worker C))
    (t : Tally ω) :
    fillFrom (workerFactory b p) requested created missing pool t.world =
      (fillFrom (workerFactory b.tallied p.tallied) requested created missing pool t).project id
        Tally.world := by
  have filled := fillFrom_map (workerFactory_projection b p) requested created missing pool t
  simp only [Pool.map_id, id] at filled
  exact filled

end

namespace SplitJoin

variable (b : Behaviour ω C)

/-- A split-join whose workers are tallied. -/
def tallied (s : SplitJoin ω C) : SplitJoin (Tally ω) C :=
  ⟨s.uniqueId, s.prototype.tallied, s.poolSize, s.separator, s.shutdownTimeoutMs, s.pool,
    s.executor⟩

theorem closePool_tallied (s : SplitJoin ω C) (t : Tally ω) :
    s.closePool b t.world = (s.tallied.closePool b.tallied t).world := by
  simp only [closePool, tallied, factory]
  cases s.pool with
  | none => rfl
  | some pool =>
      have closed := Pool.close_map (workerFactory_projection b s.prototype) pool t
      simp only [Pool.map_id, id] at closed
      simp only [closed]

theorem filled_tallied (s : SplitJoin ω C) (t : Tally ω) :
    s.filled b t.world = (s.tallied.filled b.tallied t).project id Tally.world :=
  WorkerPlan.fillFrom_tallied b s.prototype s.poolSize 0 s.poolSize s.emptyPool t

theorem build_tallied (s : SplitJoin ω C) (t : Tally ω) :
    s.build b t.world =
      ((s.tallied.build b.tallied t).1, (s.tallied.build b.tallied t).2.world) := by
  have poolSize_eq : s.tallied.poolSize = s.poolSize := rfl
  rw [build_eq, build_eq, poolSize_eq]
  by_cases empty : s.poolSize = 0
  · rw [if_pos empty, if_pos empty]
    rfl
  · rw [if_neg empty, if_neg empty, filled_tallied]
    rcases s.tallied.filled b.tallied t with ⟨error | _, pool, left⟩
    · have closed := Pool.close_map (workerFactory_projection b s.prototype) pool left
      simp only [Pool.map_id, id] at closed
      simp only [Attempt.project, factory, id, closed]
      rfl
    · rfl

/-- Hooks do with a tally what they do without. -/
theorem hooks_tallied :
    Hooks.Simulates (fun fine coarse => fine = coarse.tallied) Tally.world (hooks b.tallied)
      (hooks b) := by
  rintro event _ s t rfl
  have closed := closePool_tallied b s t
  cases event with
  | init =>
      have built := build_tallied b s.bare (s.tallied.closePool b.tallied t)
      have released : s.release b t.world = (s.bare, s.closePool b t.world) := rfl
      have tallyReleased : s.tallied.release b.tallied t =
          (s.bare.tallied, s.tallied.closePool b.tallied t) := rfl
      simp only [hooks, takeUp, released, tallyReleased, closed, built]
      rcases s.bare.tallied.build b.tallied (s.tallied.closePool b.tallied t) with
        ⟨error | ⟨pool, executor⟩, left⟩ <;> exact ⟨rfl, rfl, rfl⟩
  | close => exact ⟨rfl, rfl, closed⟩
  | start => exact ⟨rfl, rfl, rfl⟩
  | stop => exact ⟨rfl, rfl, rfl⟩

theorem deliver_tallied (s : SplitJoin ω C) (executor : Pool.Executor Unit) (message : Message)
    (results : List (Except Fault Message)) (t : Tally ω) :
    (s.tallied.deliver executor message results t).Alike
      (fun fine coarse => fine = (coarse.1.tallied, coarse.2)) Tally.world
      (s.deliver executor message results t.world) := by
  unfold deliver
  cases collect (results.map (reported executor)) with
  | ok processed => exact ⟨rfl, rfl, rfl⟩
  | error error => exact ⟨rfl, rfl, rfl⟩

/-- Messages are processed with a tally as they are without. -/
theorem processIn_tallied (order : List Nat) (s : SplitJoin ω C) (message : Message)
    (t : Tally ω) :
    (s.tallied.processIn b.tallied order message t).Alike
      (fun fine coarse => fine = (coarse.1.tallied, coarse.2)) Tally.world
      (s.processIn b order message t.world) := by
  have pool_eq : s.tallied.pool = s.pool := rfl
  have executor_eq : s.tallied.executor = s.executor := rfl
  unfold processIn
  rw [pool_eq, executor_eq]
  cases s.pool with
  | none => exact ⟨rfl, rfl, rfl⟩
  | some pool =>
      cases s.executor with
      | none => exact ⟨rfl, rfl, rfl⟩
      | some executor =>
          have ran : (Fanout.start (fragments s.separator message) pool t.world).complete b
              (s.factory b) executor.threads order =
            ((Fanout.start (fragments s.separator message) pool t).complete b.tallied
              (s.tallied.factory b.tallied) executor.threads order).untallied :=
            Fanout.run_untallied b s.prototype executor.threads _
              (Fanout.start (fragments s.separator message) pool t)
          simp only [ran]
          exact deliver_tallied { s with pool := some _, executor := some executor } executor
            message _ _

/-! ## A whole life -/

/-- How many workers the pool counts, if there is one. -/
def allocated (s : SplitJoin ω C) : Nat :=
  match s.pool with
  | none => 0
  | some pool => pool.allocated

/-- No worker is lent, and those alive are the ones that the pool counts. A closed split-join has no
pool. -/
structure Accounted (m : Managed (SplitJoin ω C)) (t : Tally ω) : Prop where
  unlent : ∀ pool, m.component.pool = some pool → pool.active = 0
  balanced : t.inits = t.closes + m.component.allocated
  closed : m.state = .closed → m.component.pool = none

variable {b}

theorem tallied_employs : b.tallied.Employs Worker.Open Tally.Live := by
  intro worker message t count isOpen live
  exact ⟨isOpen, live⟩

/-- The accounts of a split-join that is housed with its tally. -/
theorem Housed.accounted {origin : SplitJoin (Tally ω) C} {m : Managed (SplitJoin ω C)}
    {t : Tally ω} (housed : Housed Worker.Open Tally.Live origin m.state m.component.tallied t) :
    Accounted m t := by
  have pool_eq : m.component.tallied.pool = m.component.pool := rfl
  cases housed.stocked with
  | empty noPool none =>
      rw [pool_eq] at noPool
      refine ⟨?_, ?_, fun _ => noPool⟩
      · intro pool found
        cases noPool.symm.trans found
      · simp only [allocated, noPool]
        exact none
  | manned pool executor manned =>
      have found := manned.pool_eq
      rw [pool_eq] at found
      refine ⟨?_, ?_, housed.closed⟩
      · intro other same
        cases found.symm.trans same
        exact manned.tended.balanced.active_eq
      · simp only [allocated, found]
        exact manned.tended.live

/-- A command that ends in a failed `init` leaves no pool. -/
theorem pool_of_initFailed {command : Command} {m : Managed (SplitJoin ω C)} {world : ω}
    {owner reason : String}
    (failed : (m.perform (hooks b) command world).verdict = .error (.initFailed owner reason)) :
    (m.perform (hooks b) command world).value.component.pool = none := by
  obtain ⟨event, origin, before, performed⟩ := Managed.perform_of_error failed
  rw [performed] at failed ⊢
  rcases Managed.fire_cases (hooks b) event origin before with
    ⟨_, fired⟩ | ⟨_, mayFail, cause, refused, fired⟩ | ⟨_, _, fired⟩
  · rw [fired] at failed
    cases failed
  · rw [fired] at failed ⊢
    cases event with
    | init => exact congrArg SplitJoin.pool (takeUp_failed refused)
    | start => cases failed
    | stop => cases mayFail
    | close => cases mayFail
  · rw [fired] at failed
    cases failed

/-- Through a whole life of a split-join, whatever its workers do and in whichever order they take
their steps, the tally of its workers does not change what happens, no worker is lent between two
deeds, and those alive are the ones that the pool counts. A closed split-join has no pool, and where
an `init` has failed there is none either and nothing lives. The order in which a split-join takes
the steps by itself is one of those considered. Workers may break off while they process; their
making, their events and their checks fail or succeed. -/
theorem live_accounted (b : Behaviour ω C) (prototype : Prototype ω C)
    (name uniqueId separator : String) (poolSize shutdownTimeoutMs : Nat)
    (deeds : List (Deed (List Nat × Message))) (world : ω) :
    let born := SplitJoin.new uniqueId prototype poolSize separator shutdownTimeoutMs
    let lived := (Managed.new name born).live (hooks b) (serve b) deeds world
    let tallied :=
      (Managed.new name born.tallied).live (hooks b.tallied) (serve b.tallied) deeds
        (Tally.blank world)
    tallied.1 = lived.1.withComponent lived.1.component.tallied ∧ tallied.2.world = lived.2 ∧
      Accounted lived.1 tallied.2 ∧
      (∀ message, lived.1.component.processIn b [] message lived.2 =
        lived.1.component.process b message lived.2) ∧
      ∀ command owner reason,
        (lived.1.perform (hooks b) command lived.2).verdict = .error (.initFailed owner reason) →
          let left := tallied.1.perform (hooks b.tallied) command tallied.2
          left.value.component.pool = none ∧ left.world.inits = left.world.closes := by
  intro born lived tallied
  have served : ∀ matter (fine : SplitJoin (Tally ω) C) coarse t, fine = coarse.tallied →
      (serve b.tallied matter fine t).1 = (serve b matter coarse (Tally.world t)).1.tallied ∧
        (serve b matter coarse (Tally.world t)).2 =
          Tally.world (serve b.tallied matter fine t).2 := by
    rintro ⟨order, message⟩ _ coarse t rfl
    have alike := processIn_tallied b order coarse message t
    exact ⟨congrArg Prod.fst alike.value, alike.world⟩
  have alike : tallied.1.Related (fun fine coarse => fine = coarse.tallied) lived.1 ∧
      lived.2 = tallied.2.world :=
    Managed.live_alike (hooks_tallied b) served ⟨rfl, rfl, rfl⟩ deeds (Tally.blank world)
  obtain ⟨related, world_eq⟩ := alike
  have tends : (born.tallied.factory b.tallied).Tends Worker.Open Worker.Open Tally.Live :=
    workerFactory_tends b prototype
  have maintains := hooks_maintain_housed tends
  have housed : tallied.1.FitsIn (Housed Worker.Open Tally.Live born.tallied) tallied.2 := by
    apply Managed.FitsIn.live maintains
    · intro matter state s t housed
      exact processIn_housed tends tallied_employs housed matter.1 matter.2
    · exact Housed.new rfl
  have tallied_eq : tallied.1 = lived.1.withComponent lived.1.component.tallied := by
    rw [Managed.withComponent, ← related.component, related.name, related.state]
  refine ⟨tallied_eq, world_eq.symm, ?_, ?_, ?_⟩
  · rw [tallied_eq] at housed
    exact Housed.accounted housed
  · intro message
    have stocked := housed.stocked
    rw [related.component] at stocked
    exact processIn_nil b lived.1.component message lived.2 stocked.threads_pos
  · intro command owner reason failed left
    have alike := Managed.perform_alike (hooks_tallied b) related command tallied.2
    have initFailed : left.verdict = .error (.initFailed owner reason) := by
      rw [← failed, world_eq]
      exact alike.verdict.symm
    have noPool : left.value.component.pool = none := pool_of_initFailed initFailed
    refine ⟨noPool, ?_⟩
    have after := (housed.perform maintains command).stocked
    cases after with
    | empty _ none => exact none
    | manned pool executor manned => cases noPool.symm.trans manned.pool_eq

end SplitJoin

end Service

end IntegrationHost
