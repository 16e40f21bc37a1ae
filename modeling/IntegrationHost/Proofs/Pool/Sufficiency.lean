import IntegrationHost.Proofs.Pool.Accounting
import IntegrationHost.Proofs.Pool.Projection

/-!
# Enough objects

A pool that is asked to keep a number of objects makes one for each that it destroys and can no
longer spare. As long as the calls of its factory succeed it therefore never has fewer, whichever
objects are found unfit when they come back. Whether a call has failed is taken down in the
surroundings of the factory.
-/

namespace IntegrationHost.Pool

variable {ω T : Type}

/-! ## Factories whose failures are taken down -/

/-- Surroundings that tell whether all calls of a factory have succeeded so far. -/
structure Watched (ω : Type) where
  world : ω
  smooth : Bool

/-- A factory that takes down when an object cannot be made or readied. Whether an object is found
fit is not taken down, and neither is the end of an object. -/
def Factory.watched (factory : Factory ω T) : Factory (Watched ω) T where
  make w :=
    let made := factory.make w.world
    (made.1, ⟨made.2, w.smooth && made.1.isOk⟩)
  validate object w :=
    let checked := factory.validate object w.world
    (checked.1, { w with world := checked.2 })
  activate object w :=
    let readied := factory.activate object w.world
    ⟨readied.verdict, readied.value, ⟨readied.world, w.smooth && readied.succeeded⟩⟩
  passivate object w :=
    let readied := factory.passivate object w.world
    ⟨readied.verdict, readied.value, ⟨readied.world, w.smooth && readied.succeeded⟩⟩
  destroy object w := { w with world := factory.destroy object w.world }

/-- Taking down failures changes nothing else. -/
theorem Factory.watched_projection (factory : Factory ω T) :
    Factory.Projection id Watched.world factory.watched factory where
  make w := by
    simp only [watched]
    rcases factory.make w.world with ⟨error | object, world⟩ <;> rfl
  validate _ _ := rfl
  activate _ _ := rfl
  passivate _ _ := rfl
  destroy _ _ := rfl

namespace Watched

variable {factory : Factory ω T} {object : T} {w left : Watched ω}

theorem make {made : Except Error T} (called : factory.watched.make w = (made, left))
    (smooth : left.smooth = true) : w.smooth = true ∧ ∃ object, made = .ok object := by
  cases called
  obtain ⟨smoothBefore, isOk⟩ := Bool.and_eq_true_iff.mp smooth
  refine ⟨smoothBefore, ?_⟩
  cases outcome : (factory.make w.world).1 with
  | ok object => exact ⟨object, rfl⟩
  | error error =>
      rw [outcome] at isOk
      cases isOk

theorem activate (smooth : (factory.watched.activate object w).world.smooth = true) :
    w.smooth = true ∧ (factory.watched.activate object w).verdict = .ok () := by
  have both := Bool.and_eq_true_iff.mp smooth
  exact ⟨both.1, Attempt.succeeded_iff.mp both.2⟩

theorem passivate (smooth : (factory.watched.passivate object w).world.smooth = true) :
    w.smooth = true ∧ (factory.watched.passivate object w).verdict = .ok () := by
  have both := Bool.and_eq_true_iff.mp smooth
  exact ⟨both.1, Attempt.succeeded_iff.mp both.2⟩

end Watched

/-! ## What each operation does to the stock -/

/-- An open pool of some configuration with at least as many objects as it is to keep. -/
structure Stocked (pool : Pool T) (config : Config) : Prop where
  config_eq : pool.config = config
  opened : pool.closed = false
  enough : config.minIdle ≤ pool.allocated

/-- Where all calls have succeeded at the end, they had at the beginning, and a pool that was
stocked still is. -/
def KeepsStock (config : Config) (pool : Pool T) (w : Watched ω) (left : Pool T)
    (after : Watched ω) : Prop :=
  after.smooth = true → w.smooth = true ∧ (pool.Stocked config → left.Stocked config)

section

variable {factory : Factory ω T} {config : Config} {pool : Pool T} {w : Watched ω}

theorem KeepsStock.trans {middle left : Pool T} {between after : Watched ω}
    (first : KeepsStock config pool w middle between)
    (second : KeepsStock config middle between left after) :
    KeepsStock config pool w left after := by
  intro smooth
  obtain ⟨smoothBetween, kept⟩ := second smooth
  obtain ⟨smoothBefore, keptFirst⟩ := first smoothBetween
  exact ⟨smoothBefore, fun stocked => kept (keptFirst stocked)⟩

/-- An object is added unless the pool is closed or full. -/
theorem add_watched (smooth : (pool.add factory.watched w).world.smooth = true) :
    w.smooth = true ∧
      ((pool.closed = true ∨ pool.config.maxActive ≤ pool.allocated) ∧
          (pool.add factory.watched w).value = pool ∨
        ∃ object, (pool.add factory.watched w).value =
          { pool with idle := pool.idle ++ [object], allocated := pool.allocated + 1 }) := by
  rcases add_cases factory.watched pool w with
    ⟨unable, _, eq⟩ | ⟨_, left, called, eq⟩ | ⟨object, left, _, _, readied, eq⟩ |
    ⟨object, left, _, _, called, _, eq⟩ <;> rw [eq] at smooth ⊢
  · exact ⟨smooth, Or.inl ⟨unable, rfl⟩⟩
  · obtain ⟨_, _, isMade⟩ := Watched.make called smooth
    cases isMade
  · cases readied.symm.trans (Watched.passivate smooth).2
  · have smoothLeft := (Watched.passivate smooth).1
    exact ⟨(Watched.make called smoothLeft).1, Or.inr ⟨_, rfl⟩⟩

theorem keepsStock_add (config : Config) (factory : Factory ω T) (pool : Pool T) (w : Watched ω) :
    KeepsStock config pool w (pool.add factory.watched w).value
      (pool.add factory.watched w).world := by
  intro smooth
  obtain ⟨smoothBefore, ⟨_, same⟩ | ⟨object, added⟩⟩ := add_watched smooth
  · rw [same]
    exact ⟨smoothBefore, id⟩
  · rw [added]
    refine ⟨smoothBefore, fun stocked => ⟨stocked.config_eq, stocked.opened, ?_⟩⟩
    exact Nat.le_trans stocked.enough (Nat.le_succ _)

/-- For one object less another is made where there would be too few. -/
theorem keepsStock_replace (reachable : config.minIdle ≤ config.maxActive) (factory : Factory ω T)
    (pool : Pool T) (w : Watched ω) :
    let vacated := { pool with active := pool.active - 1, allocated := pool.allocated - 1 }
    KeepsStock config pool w (vacated.replenish factory.watched w).1
      (vacated.replenish factory.watched w).2 := by
  intro vacated smooth
  rcases replenish_cases factory.watched vacated w with ⟨opened, short, eq⟩ | ⟨notShort, eq⟩ <;>
    rw [eq] at smooth ⊢
  · obtain ⟨smoothBefore, ⟨closed | full, _⟩ | ⟨object, added⟩⟩ := add_watched smooth
    · cases opened.symm.trans closed
    · refine ⟨smoothBefore, fun stocked => ?_⟩
      -- With too few objects there is room for one more.
      rw [show vacated.config = config from stocked.config_eq] at short full
      omega
    · refine ⟨smoothBefore, fun stocked => ?_⟩
      rw [Attempt.left, added]
      refine ⟨stocked.config_eq, stocked.opened, Nat.le_trans stocked.enough ?_⟩
      exact Nat.le_succ_of_pred_le (Nat.le_refl _)
  · refine ⟨smooth, fun stocked => ⟨stocked.config_eq, stocked.opened, ?_⟩⟩
    rcases notShort with closed | enough
    · cases stocked.opened.symm.trans closed
    · rwa [show vacated.config = config from stocked.config_eq] at enough

theorem lend_watched {object : T}
    (smooth : (pool.lend factory.watched object w).2.2.smooth = true) :
    w.smooth = true ∧ (pool.lend factory.watched object w).2.1 = pool := by
  rcases lend_cases factory.watched pool object w with ⟨_, eq⟩ | ⟨_, unready, eq⟩ <;>
    rw [eq] at smooth ⊢
  · exact ⟨(Watched.activate smooth).1, rfl⟩
  · cases unready.symm.trans (Watched.activate smooth).2

theorem keepsStock_borrow (config : Config) (factory : Factory ω T) (pool : Pool T)
    (w : Watched ω) :
    KeepsStock config pool w (pool.borrow factory.watched w).2.1
      (pool.borrow factory.watched w).2.2 := by
  intro smooth
  rcases borrow_cases factory.watched pool w with
    ⟨_, _, _, eq⟩ | ⟨object, rest, _, _, eq⟩ | ⟨_, left, _, called, eq⟩ |
    ⟨object, left, _, _, _, called, eq⟩ <;> rw [eq] at smooth ⊢
  · exact ⟨smooth, id⟩
  · obtain ⟨smoothBefore, same⟩ := lend_watched smooth
    rw [same]
    exact ⟨smoothBefore, fun stocked => ⟨stocked.config_eq, stocked.opened, stocked.enough⟩⟩
  · exact ⟨(Watched.make called smooth).1, id⟩
  · obtain ⟨smoothLeft, same⟩ := lend_watched smooth
    rw [same]
    refine ⟨(Watched.make called smoothLeft).1, fun stocked => ?_⟩
    exact ⟨stocked.config_eq, stocked.opened, Nat.le_trans stocked.enough (Nat.le_succ _)⟩

theorem inspect_watched {object : T}
    (smooth : (inspect factory.watched object w).2.2.smooth = true) : w.smooth = true := by
  unfold inspect at smooth
  dsimp only at smooth
  split at smooth
  · exact (Watched.passivate smooth).1
  · exact smooth

theorem keepsStock_giveBack (reachable : config.minIdle ≤ config.maxActive) (factory : Factory ω T)
    (pool : Pool T) (object : T) (w : Watched ω) :
    KeepsStock config pool w (pool.giveBack factory.watched object w).1
      (pool.giveBack factory.watched object w).2 := by
  intro smooth
  rcases giveBack_cases factory.watched pool object w with ⟨_, eq⟩ | ⟨_, _, _, eq⟩ | eq <;>
    rw [eq] at smooth ⊢
  · exact ⟨inspect_watched smooth, id⟩
  · exact ⟨inspect_watched smooth,
      fun stocked => ⟨stocked.config_eq, stocked.opened, stocked.enough⟩⟩
  · obtain ⟨smoothLeft, kept⟩ := keepsStock_replace reachable factory pool _ smooth
    exact ⟨inspect_watched smoothLeft, kept⟩

theorem keepsStock_invalidate (reachable : config.minIdle ≤ config.maxActive)
    (factory : Factory ω T) (pool : Pool T) (object : T) (w : Watched ω) :
    KeepsStock config pool w (pool.invalidate factory.watched object w).1
      (pool.invalidate factory.watched object w).2 := by
  intro smooth
  rcases invalidate_cases factory.watched pool object w with ⟨_, eq⟩ | eq <;> rw [eq] at smooth ⊢
  · exact ⟨smooth, id⟩
  · exact keepsStock_replace reachable factory pool _ smooth

end

/-! ## Sessions -/

namespace Guarded

section

variable {config : Config} (reachable : config.minIdle ≤ config.maxActive)

include reachable

theorem keepsStock_release (factory : Factory ω T) (how : Release) (g : Guarded T) (name : String)
    (w : Watched ω) :
    KeepsStock config g.pool w (g.release factory.watched how name w).1.pool
      (g.release factory.watched how name w).2 := by
  unfold release
  cases g.guards.lookup name with
  | none => exact fun smooth => ⟨smooth, id⟩
  | some object =>
      cases how with
      | checkin => exact keepsStock_giveBack reachable factory g.pool object w
      | invalidate => exact keepsStock_invalidate reachable factory g.pool object w

theorem keepsStock_checkout (factory : Factory ω T) (g : Guarded T) (name : String)
    (w : Watched ω) :
    KeepsStock config g.pool w (g.checkout factory.watched name w).2.1.pool
      (g.checkout factory.watched name w).2.2 := by
  have borrowed := keepsStock_borrow config factory g.pool w
  unfold checkout
  generalize g.pool.borrow factory.watched w = left at borrowed ⊢
  rcases left with ⟨loan, pool, left⟩
  cases loan with
  | refused error => exact borrowed
  | waits => exact borrowed
  | lent object =>
      exact borrowed.trans (keepsStock_release reachable factory .checkin { g with pool } name left)

/-- Every use but closing keeps the stock. -/
theorem keepsStock_use (factory : Factory ω T) {u : Use} (notClose : u ≠ .close) (g : Guarded T)
    (w : Watched ω) :
    KeepsStock config g.pool w (use factory.watched u g w).1.pool
      (use factory.watched u g w).2 := by
  cases u with
  | add => exact keepsStock_add config factory g.pool w
  | checkout name => exact keepsStock_checkout reachable factory g name w
  | release how name => exact keepsStock_release reachable factory how g name w
  | close => exact absurd rfl notClose

theorem keepsStock_session (factory : Factory ω T) {uses : List Use} (noClose : .close ∉ uses)
    (g : Guarded T) (w : Watched ω) :
    KeepsStock config g.pool w (session factory.watched uses g w).1.pool
      (session factory.watched uses g w).2 := by
  induction uses generalizing g w with
  | nil => exact fun smooth => ⟨smooth, id⟩
  | cons first rest ih =>
      have notClose := (List.ne_of_not_mem_cons noClose).symm
      have noneLater := List.not_mem_of_not_mem_cons noClose
      exact (keepsStock_use reachable factory notClose g w).trans (ih noneLater _ _)

end

/-- A session is the same whether failures are taken down or not. -/
theorem session_watched (factory : Factory ω T) (uses : List Use) (g : Guarded T) (w : Watched ω) :
    session factory uses g w.world =
      ((session factory.watched uses g w).1, (session factory.watched uses g w).2.world) := by
  have same := session_map factory.watched_projection uses g w
  rwa [map_id, map_id] at same

/-- In a session all objects can be made and readied. Whether they are found fit is left open. -/
def Smooth (factory : Factory ω T) (uses : List Use) (g : Guarded T) (world : ω) : Prop :=
  (session factory.watched uses g ⟨world, true⟩).2.smooth = true

section

variable {config : Config} (reachable : config.minIdle ≤ config.maxActive) {factory : Factory ω T}
  {uses : List Use} {g : Guarded T} {world : ω}

include reachable

/-- A stocked pool is stocked after each use of a smooth session. -/
theorem session_stocked (stocked : g.pool.Stocked config) (noClose : .close ∉ uses)
    (smooth : Smooth factory uses g world) {first : List Use} (isStart : first <+: uses) :
    (session factory first g world).1.pool.Stocked config := by
  obtain ⟨rest, rfl⟩ := isStart
  rw [List.mem_append, not_or] at noClose
  rw [Smooth, session_append] at smooth
  have smoothFirst := (keepsStock_session reachable factory noClose.2 _ _ smooth).1
  have kept := (keepsStock_session reachable factory noClose.1 g ⟨world, true⟩ smoothFirst).2
  rw [session_watched factory first g ⟨world, true⟩]
  exact kept stocked

/-- Objects are added smoothly as long as the pool may have more. -/
theorem allocated_session_add {n : Nat} (opened : g.pool.closed = false)
    (config_eq : g.pool.config = config) (room : g.pool.allocated + n ≤ config.maxActive)
    {w : Watched ω}
    (smooth : (session factory.watched (List.replicate n .add) g w).2.smooth = true) :
    let left := (session factory.watched (List.replicate n .add) g w).1.pool
    left.config = config ∧ left.closed = false ∧ left.allocated = g.pool.allocated + n := by
  induction n generalizing g w with
  | zero => exact ⟨config_eq, opened, rfl⟩
  | succ n ih =>
      rw [List.replicate_succ, session_cons] at smooth ⊢
      have noClose : Use.close ∉ List.replicate n Use.add :=
        fun isUse => nomatch List.eq_of_mem_replicate isUse
      have smoothFirst := (keepsStock_session reachable factory noClose _ _ smooth).1
      obtain ⟨_, ⟨closed | full, _⟩ | ⟨object, added⟩⟩ := add_watched smoothFirst
      · cases opened.symm.trans closed
      · rw [config_eq] at full
        omega
      · have pool_eq : (use factory.watched .add g w).1.pool =
            { g.pool with idle := g.pool.idle ++ [object], allocated := g.pool.allocated + 1 } :=
          added
        have left := ih (by rw [pool_eq]; exact opened) (by rw [pool_eq]; exact config_eq)
          (by rw [pool_eq]; dsimp only; omega) smooth
        rw [pool_eq] at left
        rwa [Nat.add_assoc, Nat.add_comm 1] at left

end

/-- Where bounds are accepted, an open pool that has the objects it is to keep has them after each
use of a smooth session, up to its closing. A new pool of a fixed size is stocked by as many smooth
additions. As long as such a pool is open and, once it was stocked, used smoothly, the objects that
are idle and those in guards are exactly as many as its size says. -/
theorem session_keeps_enough (config : Config) (accepted : config.check = .ok ())
    (factory : Factory ω T) :
    (∀ (g : Guarded T) (uses : List Use) (world : ω), g.pool.Stocked config → .close ∉ uses →
        Smooth factory uses g world → ∀ first, first <+: uses →
          config.minIdle ≤ (session factory first g world).1.pool.allocated) ∧
      ∀ size, config = .fixed size → ∀ (name : String) (pool : Pool T),
        Pool.new name config = .ok pool →
          (∀ world, Smooth factory (.replicate size .add) (ofPool pool) world →
            (session factory (.replicate size .add) (ofPool pool) world).1.pool.Stocked config) ∧
          ∀ (before : List Use) (world : ω),
            let reached := (session factory before (ofPool pool) world).1
            reached.pool.Stocked config → ∀ (uses : List Use) (now : ω), .close ∉ uses →
              Smooth factory uses reached now → ∀ first, first <+: uses →
                let g := (session factory first reached now).1
                g.pool.idle.length + g.guards.length = size := by
  obtain ⟨_, reachable, _⟩ := Config.check_eq_ok_iff.mp accepted
  refine ⟨?_, ?_⟩
  · intro g uses world stocked noClose smooth first isStart
    exact (session_stocked reachable stocked noClose smooth isStart).enough
  · rintro size rfl name pool made
    have start : (ofPool pool).Balanced (.fixed size) := Pool.Balanced.new made
    refine ⟨?warm, ?fixed⟩
    case warm =>
      intro world smooth
      rw [session_watched factory _ (ofPool pool) ⟨world, true⟩]
      obtain ⟨_, rfl⟩ := new_eq_ok_iff.mp made
      have room : 0 + size ≤ size := by omega
      obtain ⟨config_eq, opened, allocated_eq⟩ :=
        allocated_session_add reachable (g := ofPool ⟨name, .fixed size, [], 0, 0, false⟩) rfl rfl
          room smooth
      exact ⟨config_eq, opened, by rw [allocated_eq]; exact Nat.le_add_left ..⟩
    case fixed =>
      intro before world reached stocked uses now noClose smooth first isStart g
      have enough : size ≤ g.pool.allocated :=
        (session_stocked reachable stocked noClose smooth isStart).enough
      have balancedBefore : reached.Balanced (.fixed size) :=
        (balanced_session start factory before world).1
      have balanced : g.Balanced (.fixed size) :=
        (balanced_session balancedBefore factory first now).1
      have atMost : g.pool.allocated ≤ size := balanced.allocated_le
      have allocated_eq := balanced.allocated_eq
      rw [balanced.active_eq] at allocated_eq
      omega

/-- Of two numbers that a pool is to keep the first is lent and the second idle, and one may be
idle. Both are lent and come back: the one that is unfit is made up for, and so is the other one, as
the first replacement lies idle already. -/
theorem session_keeps_enough_evenNumbers :
    let config : Config := ⟨3, 2, 1, none, .fail⟩
    let g : Guarded Nat := ⟨⟨"numbers", config, [1], 1, 2, false⟩, [("a", 0)]⟩
    let uses : List Use := [.checkout "b", .release .checkin "b", .release .checkin "a"]
    let pair : Pool Nat := ⟨"pair", .fixed 2, [], 0, 0, false⟩
    let warm := (session evenNumbers [.add, .add] (ofPool pair) 0).1
    let others : List Use := [.checkout "c", .checkout "d", .release .invalidate "c"]
    let left := (session evenNumbers others warm 2).1
    config.check = .ok () ∧ g.pool.Stocked config ∧ Smooth evenNumbers uses g 2 ∧
      (session evenNumbers uses g 2).1.pool.idle = [2, 3] ∧
      2 ≤ (session evenNumbers uses g 2).1.pool.allocated ∧
      warm.pool.Stocked (.fixed 2) ∧ left.pool.idle.length + left.guards.length = 2 := by
  intro config g uses pair warm others left
  have accepted : config.check = .ok () := rfl
  have stocked : g.pool.Stocked config := ⟨rfl, rfl, Nat.le_refl 2⟩
  have smooth : Smooth evenNumbers uses g 2 := rfl
  have enough := (session_keeps_enough config accepted evenNumbers).1 g uses 2 stocked (by decide)
    smooth uses List.prefix_rfl
  have idle_eq : (session evenNumbers uses g 2).1.pool.idle = [2, 3] := rfl
  obtain ⟨warms, keeps⟩ := (session_keeps_enough (.fixed 2) rfl evenNumbers).2 2 rfl "pair" pair rfl
  have isWarm : warm.pool.Stocked (.fixed 2) := warms 0 rfl
  have smoothOthers : Smooth evenNumbers others warm 2 := rfl
  have count_eq := keeps [.add, .add] 0 isWarm others 2 (by decide) smoothOthers others
    List.prefix_rfl
  exact ⟨accepted, stocked, smooth, idle_eq, enough, isWarm, count_eq⟩

end Guarded

end IntegrationHost.Pool
