import IntegrationHost.Proofs.Pool.Exact

/-!
# The accounts of a pool

A pool counts the objects that are lent and the objects that there are. Whatever its factory does,
these counters agree with the guards and with what lies idle, they stay within the bound of the
configuration, and none is moved below zero. An open pool therefore turns a borrower away exactly
when all the objects it may have are held in guards.
-/

namespace IntegrationHost.Pool

variable {ω T : Type}

/-- The counters of a pool of some configuration, of which `lent` objects are lent, agree with what
there is. -/
structure Balanced (pool : Pool T) (config : Config) (lent : Nat) : Prop where
  config_eq : pool.config = config
  active_eq : pool.active = lent
  allocated_eq : pool.allocated = pool.idle.length + pool.active
  allocated_le : pool.allocated ≤ config.maxActive

section

variable {pool : Pool T} {config : Config} {lent : Nat}

/-! ## What each operation does to the accounts -/

namespace Balanced

theorem new {name : String} (made : Pool.new name config = .ok pool) :
    pool.Balanced config 0 := by
  obtain ⟨_, rfl⟩ := new_eq_ok_iff.mp made
  exact ⟨rfl, rfl, rfl, Nat.zero_le _⟩

theorem add (balanced : pool.Balanced config lent) (factory : Factory ω T) (world : ω) :
    (pool.add factory world).value.Balanced config lent := by
  rcases add_cases factory pool world with
    ⟨_, _, eq⟩ | ⟨_, _, _, eq⟩ | ⟨_, _, _, _, _, eq⟩ | ⟨_, _, _, room, _, _, eq⟩ <;> rw [eq]
  · exact balanced
  · exact balanced
  · exact balanced
  · obtain ⟨rfl, active_eq, allocated_eq, allocated_le⟩ := balanced
    refine ⟨rfl, active_eq, ?_, room⟩
    simp only [Attempt.done, List.length_append, List.length_singleton]
    omega

theorem replenish (balanced : pool.Balanced config lent) (factory : Factory ω T) (world : ω) :
    (pool.replenish factory world).1.Balanced config lent := by
  rcases replenish_cases factory pool world with ⟨_, _, eq⟩ | ⟨_, eq⟩ <;> rw [eq]
  · exact balanced.add factory world
  · exact balanced

/-- A lent object less. -/
theorem vacated (balanced : pool.Balanced config (lent + 1)) :
    { pool with active := pool.active - 1, allocated := pool.allocated - 1 }.Balanced config
      lent := by
  obtain ⟨config_eq, active_eq, allocated_eq, allocated_le⟩ := balanced
  refine ⟨config_eq, ?_, ?_, ?_⟩ <;> dsimp only <;> omega

theorem lend (balanced : pool.Balanced config (lent + 1)) (factory : Factory ω T) (object : T)
    (world : ω) :
    (pool.lend factory object world).2.1.Balanced config
      (lent + (pool.lend factory object world).1.objects.length) := by
  rcases lend_cases factory pool object world with ⟨_, eq⟩ | ⟨_, _, eq⟩ <;> rw [eq]
  · exact balanced
  · exact balanced.vacated

/-- Taking the oldest idle object counts it as lent. -/
theorem taken (balanced : pool.Balanced config lent) {object : T} {rest : List T}
    (idle_eq : pool.idle = object :: rest) :
    { pool with idle := rest, active := pool.active + 1 }.Balanced config (lent + 1) := by
  obtain ⟨config_eq, active_eq, allocated_eq, allocated_le⟩ := balanced
  rw [idle_eq, List.length_cons] at allocated_eq
  refine ⟨config_eq, ?_, ?_, ?_⟩ <;> dsimp only <;> omega

/-- A place reserved for a borrower counts as lent. -/
theorem reserved (balanced : pool.Balanced config lent)
    (room : pool.allocated < pool.config.maxActive) :
    { pool with active := pool.active + 1, allocated := pool.allocated + 1 }.Balanced config
      (lent + 1) := by
  obtain ⟨rfl, active_eq, allocated_eq, allocated_le⟩ := balanced
  refine ⟨rfl, ?_, ?_, ?_⟩ <;> dsimp only <;> omega

theorem borrow (balanced : pool.Balanced config lent) (factory : Factory ω T) (world : ω) :
    (pool.borrow factory world).2.1.Balanced config
      (lent + (pool.borrow factory world).1.objects.length) := by
  rcases borrow_cases factory pool world with
    ⟨_, loan, none, eq⟩ | ⟨object, rest, _, idle_eq, eq⟩ | ⟨_, _, _, _, eq⟩ |
    ⟨object, left, _, _, room, _, eq⟩ <;> rw [eq]
  · rw [none]
    exact balanced
  · exact (balanced.taken idle_eq).lend factory object world
  · exact balanced
  · exact (balanced.reserved room).lend factory object left

theorem giveBack (balanced : pool.Balanced config (lent + 1)) (factory : Factory ω T) (object : T)
    (world : ω) :
    (pool.giveBack factory object world).1.Balanced config lent := by
  rcases giveBack_cases factory pool object world with
    ⟨noneLent, _⟩ | ⟨_, _, _, eq⟩ | eq
  · cases noneLent.symm.trans balanced.active_eq
  · rw [eq]
    obtain ⟨config_eq, active_eq, allocated_eq, allocated_le⟩ := balanced
    refine ⟨config_eq, ?_, ?_, ?_⟩ <;>
      simp only [List.length_append, List.length_singleton] <;> omega
  · rw [eq]
    exact balanced.vacated.replenish factory _

theorem invalidate (balanced : pool.Balanced config (lent + 1)) (factory : Factory ω T)
    (object : T) (world : ω) :
    (pool.invalidate factory object world).1.Balanced config lent := by
  rcases invalidate_cases factory pool object world with ⟨noneLent, _⟩ | eq
  · cases noneLent.symm.trans balanced.active_eq
  · rw [eq]
    exact balanced.vacated.replenish factory _

theorem close (balanced : pool.Balanced config lent) (factory : Factory ω T) (world : ω) :
    (pool.close factory world).1.Balanced config lent := by
  obtain ⟨config_eq, active_eq, allocated_eq, allocated_le⟩ := balanced
  refine ⟨config_eq, active_eq, ?_, ?_⟩ <;> simp only [Pool.close, List.length_nil] <;> omega

end Balanced

/-! ## Exact counting -/

/-- A place that was reserved and is given up leaves the counters as they were. -/
theorem vacate?_reserved (pool : Pool T) :
    { pool with allocated := pool.allocated + 1 }.vacate? false = some pool :=
  rfl

/-- The same for a place that was reserved for a borrower. -/
theorem vacate?_reserved_lent (pool : Pool T) :
    { pool with active := pool.active + 1, allocated := pool.allocated + 1 }.vacate? true =
      some pool :=
  rfl

/-- Where an object is lent, none of the counters is at zero. -/
theorem Balanced.active_pos (balanced : pool.Balanced config (lent + 1)) : 0 < pool.active := by
  have active_eq := balanced.active_eq
  omega

theorem Balanced.allocated_pos (balanced : pool.Balanced config (lent + 1)) :
    0 < pool.allocated := by
  have active_pos := balanced.active_pos
  have allocated_eq := balanced.allocated_eq
  omega

theorem add?_eq (factory : Factory ω T) (pool : Pool T) (world : ω) :
    pool.add? factory world = some (pool.add factory world) := by
  unfold add? add
  split
  · rfl
  · split
    · rfl
    · rcases factory.make world with ⟨error | object, world⟩
      · dsimp only
        rw [vacate?_reserved]
        rfl
      · dsimp only
        cases (factory.passivate object world).verdict with
        | error error =>
            dsimp only
            rw [vacate?_reserved]
            rfl
        | ok _ => rfl

theorem replenish?_eq (factory : Factory ω T) (pool : Pool T) (world : ω) :
    pool.replenish? factory world = some (pool.replenish factory world) := by
  unfold replenish? replenish
  split
  · rw [add?_eq]
    rfl
  · rfl

theorem lend?_eq (balanced : pool.Balanced config (lent + 1)) (factory : Factory ω T) (object : T)
    (world : ω) :
    pool.lend? factory object world = some (pool.lend factory object world) := by
  unfold lend? lend
  dsimp only
  cases (factory.activate object world).verdict with
  | ok _ => rfl
  | error error =>
      simp [vacate?, Nat.ppred_eq_pred balanced.active_pos,
        Nat.ppred_eq_pred balanced.allocated_pos]

theorem borrow?_eq (balanced : pool.Balanced config lent) (factory : Factory ω T) (world : ω) :
    pool.borrow? factory world = some (pool.borrow factory world) := by
  unfold borrow?
  cases offered : pool.offer with
  | closed => rfl
  | full => rfl
  | idle object rest =>
      dsimp only
      rw [lend?_eq (balanced.taken (offer_eq_idle_iff.mp offered).2)]
      simp only [borrow, offered]
  | new =>
      dsimp only
      rcases made : factory.make world with ⟨error | object, world⟩
      · dsimp only
        rw [vacate?_reserved_lent]
        simp [borrow, offered, made]
      · dsimp only
        rw [lend?_eq (balanced.reserved (offer_eq_new_iff.mp offered).2.2)]
        simp only [borrow, offered, made]

theorem giveBack?_eq (balanced : pool.Balanced config (lent + 1)) (factory : Factory ω T)
    (object : T) (world : ω) :
    pool.giveBack? factory object world = some (pool.giveBack factory object world) := by
  unfold giveBack? giveBack
  rcases inspect factory object world with ⟨fit, object, world⟩
  simp only [Nat.ppred_eq_pred balanced.active_pos, Nat.ppred_eq_pred balanced.allocated_pos,
    replenish?_eq]
  split
  · rfl
  · split <;> rfl

theorem invalidate?_eq (balanced : pool.Balanced config (lent + 1)) (factory : Factory ω T)
    (object : T) (world : ω) :
    pool.invalidate? factory object world = some (pool.invalidate factory object world) := by
  unfold invalidate? invalidate
  simp only [Nat.ppred_eq_pred balanced.active_pos, Nat.ppred_eq_pred balanced.allocated_pos,
    replenish?_eq]
  split <;> rfl

theorem close?_eq (balanced : pool.Balanced config lent) (factory : Factory ω T) (world : ω) :
    pool.close? factory world = some (pool.close factory world) := by
  have idle_le : pool.idle.length ≤ pool.allocated := by
    have allocated_eq := balanced.allocated_eq
    omega
  unfold close? close
  rw [Nat.psub_eq_sub idle_le]
  rfl

/-! ## Borrowers who are turned away -/

/-- What a borrower is told for whom there is nothing at the moment. -/
def turnedAway (pool : Pool T) : Loan T :=
  match pool.config.whenExhausted, pool.config.maxWait with
  | .fail, _ => .refused (.exhausted pool.name pool.config.maxActive)
  | .block, some wait => .refused (.timeout pool.name wait)
  | .block, none => .waits

/-- A borrower got an object, or none because the factory failed. -/
def Served (factory : Factory ω T) (world : ω) : Loan T → Prop
  | .lent _ => True
  | .refused error =>
      (factory.make world).1 = .error error ∨ ∃ reason, error = .activation reason
  | .waits => False

theorem borrow_of_full (full : pool.offer = .full) (factory : Factory ω T) (world : ω) :
    pool.borrow factory world = (pool.turnedAway, pool, world) := by
  unfold borrow turnedAway
  rw [full]
  cases pool.config.whenExhausted <;> cases pool.config.maxWait <;> rfl

theorem served_lend (factory : Factory ω T) (pool : Pool T) (object : T) (before now : ω) :
    Served factory before (pool.lend factory object now).1 := by
  unfold lend
  dsimp only
  cases (factory.activate object now).verdict with
  | ok _ => trivial
  | error error => exact Or.inr ⟨_, rfl⟩

/-- An open pool that is not full serves the borrower. -/
theorem served_borrow (opened : pool.closed = false) (notFull : pool.offer ≠ .full)
    (factory : Factory ω T) (world : ω) :
    Served factory world (pool.borrow factory world).1 := by
  unfold borrow
  cases offered : pool.offer with
  | closed =>
      rw [offer_eq_closed_iff, opened] at offered
      cases offered
  | idle object rest => exact served_lend factory _ object world world
  | new =>
      rcases made : factory.make world with ⟨error | object, left⟩
      · exact Or.inl (congrArg Prod.fst made)
      · exact served_lend factory _ object world left
  | full => exact absurd offered notFull

/-- An open pool is full when it has lent as many objects as it may have. -/
theorem Balanced.full_iff (balanced : pool.Balanced config lent) (opened : pool.closed = false) :
    pool.offer = .full ↔ lent = config.maxActive := by
  obtain ⟨rfl, active_eq, allocated_eq, allocated_le⟩ := balanced
  rw [offer_eq_full_iff, ← List.length_eq_zero_iff]
  constructor
  · rintro ⟨_, noneIdle, allMade⟩
    omega
  · intro allLent
    exact ⟨opened, by omega, by omega⟩

end

/-! ## Sessions -/

namespace Guarded

/-- The counters of a guarded pool agree with its guards. -/
def Balanced (g : Guarded T) (config : Config) : Prop :=
  g.pool.Balanced config g.guards.length

section

variable {g : Guarded T} {config : Config}

/-- Giving up a guard keeps the accounts, also those of a pool that has lent objects which are in no
guard yet. -/
theorem balanced_release (lent : Nat)
    (balanced : g.pool.Balanced config (g.guards.length + lent))
    (factory : Factory ω T) (how : Release) (name : String) (world : ω) :
    (g.release factory how name world).1.pool.Balanced config
        ((g.release factory how name world).1.guards.length + lent) ∧
      g.release? factory how name world = some (g.release factory how name world) := by
  unfold release release?
  cases found : g.guards.lookup name with
  | none => exact ⟨balanced, rfl⟩
  | some object =>
      rw [← length_without found, Nat.add_right_comm] at balanced
      cases how with
      | checkin =>
          refine ⟨balanced.giveBack factory object world, ?_⟩
          simp only [giveBack?_eq balanced]
          rfl
      | invalidate =>
          refine ⟨balanced.invalidate factory object world, ?_⟩
          simp only [invalidate?_eq balanced]
          rfl

theorem balanced_checkout (balanced : g.Balanced config) (factory : Factory ω T) (name : String)
    (world : ω) :
    (g.checkout factory name world).2.1.Balanced config ∧
      g.checkout? factory name world = some (g.checkout factory name world) := by
  have borrowed := Pool.Balanced.borrow balanced factory world
  unfold checkout checkout?
  rw [borrow?_eq balanced]
  generalize g.pool.borrow factory world = left at borrowed ⊢
  rcases left with ⟨loan, pool, world⟩
  cases loan with
  | refused error => exact ⟨borrowed, rfl⟩
  | waits => exact ⟨borrowed, rfl⟩
  | lent object =>
      -- The new object is lent before the guard that has its name already is given up.
      obtain ⟨kept, released⟩ :=
        balanced_release (g := { g with pool }) 1 borrowed factory .checkin name world
      refine ⟨kept, ?_⟩
      simp [released, keep]

/-- Each use keeps the accounts and counts exactly. -/
theorem balanced_use (balanced : g.Balanced config) (factory : Factory ω T) (u : Use)
    (world : ω) :
    (use factory u g world).1.Balanced config ∧
      use? factory u g world = some (use factory u g world) := by
  cases u with
  | add =>
      refine ⟨Pool.Balanced.add balanced factory world, ?_⟩
      simp only [use?, add?_eq]
      rfl
  | checkout name =>
      obtain ⟨kept, exactly⟩ := balanced_checkout balanced factory name world
      refine ⟨kept, ?_⟩
      simp only [use?, exactly]
      rfl
  | release how name => exact balanced_release 0 balanced factory how name world
  | close =>
      refine ⟨Pool.Balanced.close balanced factory world, ?_⟩
      simp only [use?, close?_eq balanced]
      rfl

/-- A whole session keeps the accounts and counts exactly. -/
theorem balanced_session (balanced : g.Balanced config) (factory : Factory ω T) (uses : List Use)
    (world : ω) :
    (session factory uses g world).1.Balanced config ∧
      session? factory uses g world = some (session factory uses g world) := by
  induction uses generalizing g world with
  | nil => exact ⟨balanced, rfl⟩
  | cons first rest ih =>
      obtain ⟨kept, exactly⟩ := balanced_use balanced factory first world
      obtain ⟨keptByRest, exactRest⟩ := ih kept (use factory first g world).2
      refine ⟨keptByRest, ?_⟩
      simp only [session?, exactly]
      exact exactRest

/-- What a borrower gets is what the pool lends. -/
theorem checkout_fst (factory : Factory ω T) (g : Guarded T) (name : String) (world : ω) :
    (g.checkout factory name world).1 = (g.pool.borrow factory world).1 := by
  unfold checkout
  rcases g.pool.borrow factory world with ⟨_ | _ | _, pool, world⟩ <;> rfl

theorem checkout_of_full (full : g.pool.offer = .full) (factory : Factory ω T) (name : String)
    (world : ω) :
    g.checkout factory name world = (g.pool.turnedAway, g, world) := by
  unfold checkout
  rw [borrow_of_full full, turnedAway]
  cases g.pool.config.whenExhausted <;> cases g.pool.config.maxWait <;> rfl

end

/-- After any session with a new pool, whatever the factory does: no counter was moved below zero,
the objects counted as lent are those in guards, the objects there are lie idle or are lent, and
there are no more of them than the configuration allows. While the pool is open, a borrower is
turned away without any change when all objects it may have are in guards, and is served otherwise.
-/
theorem session_accounts {name : String} {config : Config} {pool : Pool T}
    (made : Pool.new name config = .ok pool) (factory : Factory ω T) (uses : List Use)
    (world : ω) :
    let left := session factory uses (ofPool pool) world
    let g := left.1
    session? factory uses (ofPool pool) world = some left ∧
      g.pool.active = g.guards.length ∧
      g.pool.allocated = g.pool.idle.length + g.pool.active ∧
      g.pool.allocated ≤ config.maxActive ∧
      (g.pool.closed = false → ∀ borrower now,
        (g.guards.length = config.maxActive →
          g.checkout factory borrower now = (g.pool.turnedAway, g, now)) ∧
        (g.guards.length ≠ config.maxActive →
          Served factory now (g.checkout factory borrower now).1)) := by
  intro left g
  have start : (ofPool pool).Balanced config := Pool.Balanced.new made
  obtain ⟨balanced, exactly⟩ := balanced_session start factory uses world
  refine ⟨exactly, balanced.active_eq, balanced.allocated_eq, balanced.allocated_le, ?_⟩
  intro opened borrower now
  have full_iff := Pool.Balanced.full_iff balanced opened
  constructor
  · intro allHeld
    exact checkout_of_full (full_iff.mpr allHeld) factory borrower now
  · intro notAllHeld
    rw [checkout_fst]
    exact served_borrow opened (fun full => notAllHeld (full_iff.mp full)) factory now

/-- A pool of two numbers that has destroyed an odd one and has lent two again lets a third borrower
wait. -/
theorem session_accounts_evenNumbers :
    let pool : Pool Nat := ⟨"numbers", .fixed 2, [], 0, 0, false⟩
    let uses : List Use :=
      [.add, .checkout "a", .checkout "b", .release .checkin "b", .checkout "b"]
    let g := (session evenNumbers uses (ofPool pool) 0).1
    Pool.new "numbers" (.fixed 2) = .ok pool ∧ g.guards.length = 2 ∧
      (g.checkout evenNumbers "c" 3).1 = .waits := by
  intro pool uses g
  have made : Pool.new "numbers" (.fixed 2) = .ok pool := rfl
  have accounts := session_accounts made evenNumbers uses 0
  have turned := (accounts.2.2.2.2 rfl "c" 3).1 rfl
  exact ⟨made, rfl, congrArg Prod.fst turned⟩

end Guarded

end IntegrationHost.Pool
