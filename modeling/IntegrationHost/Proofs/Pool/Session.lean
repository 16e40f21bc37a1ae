import IntegrationHost.Pool.Guards

/-!
# Sessions

A session is whatever a user does with a pool through guards, one use after the other. The factory
may let any call succeed or fail, as it and its surroundings please; what an operation of the pool
comes to in each case is said here once. What holds after every session holds after every use, since
each beginning of a session is a session too.
-/

namespace IntegrationHost.Pool

variable {ω T : Type}

/-- What it takes for bounds to be accepted. -/
theorem Config.check_eq_ok_iff {config : Config} :
    config.check = .ok () ↔
      config.maxActive ≠ 0 ∧ config.minIdle ≤ config.maxActive ∧
        config.maxIdle ≤ config.maxActive := by
  unfold check
  split
  · next none => simp [none]
  · next some =>
    split
    · next beyond =>
      refine iff_of_false nofun ?_
      omega
    · next within =>
      refine iff_of_true rfl ?_
      omega

/-! ## What a pool offers -/

/-- A new pool is open and has no objects. -/
theorem new_eq_ok_iff {name : String} {config : Config} {pool : Pool T} :
    Pool.new name config = .ok pool ↔
      config.check = .ok () ∧ pool = ⟨name, config, [], 0, 0, false⟩ := by
  unfold Pool.new
  cases config.check with
  | error error => simp [bind, Except.bind]
  | ok _ => simp [bind, Except.bind, pure, Except.pure, eq_comm]

theorem offer_eq_closed_iff {pool : Pool T} : pool.offer = .closed ↔ pool.closed = true := by
  grind [offer]

theorem offer_eq_idle_iff {pool : Pool T} {object : T} {rest : List T} :
    pool.offer = .idle object rest ↔ pool.closed = false ∧ pool.idle = object :: rest := by
  grind [offer]

theorem offer_eq_new_iff {pool : Pool T} :
    pool.offer = .new ↔
      pool.closed = false ∧ pool.idle = [] ∧ pool.allocated < pool.config.maxActive := by
  grind [offer]

theorem offer_eq_full_iff {pool : Pool T} :
    pool.offer = .full ↔
      pool.closed = false ∧ pool.idle = [] ∧ pool.config.maxActive ≤ pool.allocated := by
  grind [offer]

/-- The objects that a borrower got. -/
def Loan.objects : Loan T → List T
  | .lent object => [object]
  | .refused _ => []
  | .waits => []

/-! ## What a pool does -/

section

variable (factory : Factory ω T) (pool : Pool T) (object : T) (world : ω)

/-- All that can come of adding an object. -/
theorem add_cases :
    ((pool.closed = true ∨ pool.config.maxActive ≤ pool.allocated) ∧
        ∃ error, pool.add factory world = .refused error pool world) ∨
      (∃ error left, factory.make world = (.error error, left) ∧
        pool.add factory world = .refused error pool left) ∨
      (∃ made left error, factory.make world = (.ok made, left) ∧
        (factory.passivate made left).verdict = .error error ∧
        pool.add factory world = .refused error pool
          (factory.destroy (factory.passivate made left).value
            (factory.passivate made left).world)) ∨
      ∃ made left, pool.closed = false ∧ pool.allocated < pool.config.maxActive ∧
        factory.make world = (.ok made, left) ∧
        (factory.passivate made left).verdict = .ok () ∧
        pool.add factory world =
          .done { pool with
            idle := pool.idle ++ [(factory.passivate made left).value]
            allocated := pool.allocated + 1 } (factory.passivate made left).world := by
  unfold add
  split
  · next closed => exact Or.inl ⟨Or.inl closed, _, rfl⟩
  · next opened =>
    split
    · next full => exact Or.inl ⟨Or.inr full, _, rfl⟩
    · next room =>
      rcases made : factory.make world with ⟨error | object, left⟩
      · exact Or.inr (Or.inl ⟨error, left, rfl, rfl⟩)
      · dsimp only
        cases readied : (factory.passivate object left).verdict with
        | error error => exact Or.inr (Or.inr (Or.inl ⟨object, left, error, rfl, readied, rfl⟩))
        | ok _ =>
            exact Or.inr (Or.inr (Or.inr ⟨object, left, Bool.eq_false_iff.mpr opened,
              Nat.not_le.mp room, rfl, readied, rfl⟩))

/-- An object is made for one that was destroyed, or that is not called for. -/
theorem replenish_cases :
    (pool.closed = false ∧ pool.allocated < pool.config.minIdle ∧
        pool.replenish factory world = (pool.add factory world).left) ∨
      ((pool.closed = true ∨ pool.config.minIdle ≤ pool.allocated) ∧
        pool.replenish factory world = (pool, world)) := by
  unfold replenish
  split
  · next short =>
    simp only [Bool.and_eq_true, Bool.not_eq_true', decide_eq_true_eq] at short
    exact Or.inl ⟨short.1, short.2, rfl⟩
  · next notShort =>
    refine Or.inr ⟨?_, rfl⟩
    simp only [Bool.and_eq_true, Bool.not_eq_true', decide_eq_true_eq, not_and, Nat.not_lt]
      at notShort
    cases closed : pool.closed with
    | true => exact Or.inl rfl
    | false => exact Or.inr (notShort closed)

/-- An object is readied and lent, or destroyed and counted no longer. -/
theorem lend_cases :
    ((factory.activate object world).verdict = .ok () ∧
        pool.lend factory object world =
          (.lent (factory.activate object world).value, pool,
            (factory.activate object world).world)) ∨
      ∃ error, (factory.activate object world).verdict = .error error ∧
        pool.lend factory object world =
          (.refused (.activation error.message),
            { pool with active := pool.active - 1, allocated := pool.allocated - 1 },
            factory.destroy (factory.activate object world).value
              (factory.activate object world).world) := by
  unfold lend
  dsimp only
  cases readied : (factory.activate object world).verdict with
  | ok _ => exact Or.inl ⟨rfl, rfl⟩
  | error error => exact Or.inr ⟨error, rfl, rfl⟩

/-- A borrower gets nothing, the object that has lain idle longest, or a new one. -/
theorem borrow_cases :
    ((pool.closed = true ∨ pool.idle = []) ∧ ∃ loan : Loan T, loan.objects = [] ∧
        pool.borrow factory world = (loan, pool, world)) ∨
      (∃ object rest, pool.closed = false ∧ pool.idle = object :: rest ∧
        pool.borrow factory world =
          lend factory { pool with idle := rest, active := pool.active + 1 } object world) ∨
      (∃ error left, pool.idle = [] ∧ factory.make world = (.error error, left) ∧
        pool.borrow factory world = (.refused error, pool, left)) ∨
      ∃ made left, pool.closed = false ∧ pool.idle = [] ∧
        pool.allocated < pool.config.maxActive ∧ factory.make world = (.ok made, left) ∧
        pool.borrow factory world =
          lend factory { pool with active := pool.active + 1, allocated := pool.allocated + 1 }
            made left := by
  unfold borrow
  cases offered : pool.offer with
  | closed => exact Or.inl ⟨Or.inl (offer_eq_closed_iff.mp offered), _, rfl, rfl⟩
  | idle object rest =>
      obtain ⟨opened, idle_eq⟩ := offer_eq_idle_iff.mp offered
      exact Or.inr (Or.inl ⟨object, rest, opened, idle_eq, rfl⟩)
  | new =>
      obtain ⟨opened, noneIdle, room⟩ := offer_eq_new_iff.mp offered
      rcases made : factory.make world with ⟨error | object, left⟩
      · exact Or.inr (Or.inr (Or.inl ⟨error, left, noneIdle, rfl, rfl⟩))
      · exact Or.inr (Or.inr (Or.inr ⟨object, left, opened, noneIdle, room, rfl, rfl⟩))
  | full =>
      have noneIdle := (offer_eq_full_iff.mp offered).2.1
      cases pool.config.whenExhausted <;> cases pool.config.maxWait <;>
        exact Or.inl ⟨Or.inr noneIdle, _, rfl, rfl⟩

/-- An object that comes back is foreign, is laid idle, or is destroyed and made up for. -/
theorem giveBack_cases :
    let looked := inspect factory object world
    (pool.active = 0 ∧
        pool.giveBack factory object world =
          (pool, factory.destroy looked.2.1 looked.2.2)) ∨
      (looked.1 = true ∧ pool.closed = false ∧ pool.idle.length < pool.config.maxIdle ∧
        pool.giveBack factory object world =
          ({ pool with idle := pool.idle ++ [looked.2.1], active := pool.active - 1 },
            looked.2.2)) ∨
      pool.giveBack factory object world =
        replenish factory { pool with active := pool.active - 1, allocated := pool.allocated - 1 }
          (factory.destroy looked.2.1 looked.2.2) := by
  unfold giveBack
  rcases inspect factory object world with ⟨fit, object, left⟩
  dsimp only
  split
  · next noneLent => exact Or.inl ⟨noneLent, rfl⟩
  · split
    · next kept =>
      simp only [Bool.and_eq_true, Bool.not_eq_true', decide_eq_true_eq] at kept
      exact Or.inr (Or.inl ⟨kept.1.1, kept.1.2, kept.2, rfl⟩)
    · exact Or.inr (Or.inr rfl)

/-- An object that is destroyed on demand is foreign or made up for. -/
theorem invalidate_cases :
    (pool.active = 0 ∧
        pool.invalidate factory object world = (pool, factory.destroy object world)) ∨
      pool.invalidate factory object world =
        replenish factory { pool with active := pool.active - 1, allocated := pool.allocated - 1 }
          (factory.destroy object world) := by
  unfold invalidate
  dsimp only
  split
  · next noneLent => exact Or.inl ⟨noneLent, rfl⟩
  · exact Or.inr rfl

end

namespace Guarded

/-! ## Sessions -/

/-- What a user can do with a guarded pool. Dropping a guard returns its object as a checkin does.
-/
inductive Use where
  | add
  | checkout (name : String)
  | release (how : Release) (name : String)
  | close
  deriving DecidableEq, Repr

/-- Use a guarded pool once. -/
def use (factory : Factory ω T) : Use → Guarded T → ω → Guarded T × ω
  | .add, g, world => (g.add factory world).left
  | .checkout name, g, world => (g.checkout factory name world).2
  | .release how name, g, world => g.release factory how name world
  | .close, g, world => g.close factory world

/-- A whole session. -/
def session (factory : Factory ω T) : List Use → Guarded T → ω → Guarded T × ω
  | [], g, world => (g, world)
  | first :: rest, g, world =>
      let left := use factory first g world
      session factory rest left.1 left.2

@[simp]
theorem session_cons (factory : Factory ω T) (first : Use) (rest : List Use) (g : Guarded T)
    (world : ω) :
    session factory (first :: rest) g world =
      session factory rest (use factory first g world).1 (use factory first g world).2 :=
  rfl

/-- Two sessions in a row are one session. -/
theorem session_append (factory : Factory ω T) (first second : List Use) (g : Guarded T)
    (world : ω) :
    session factory (first ++ second) g world =
      session factory second (session factory first g world).1
        (session factory first g world).2 := by
  induction first generalizing g world with
  | nil => rfl
  | cons head rest ih => exact ih _ _

/-- What each use keeps, a session keeps. -/
theorem session_keeps {factory : Factory ω T} {P : Guarded T → ω → Prop}
    (keeps : ∀ u g world, P g world → P (use factory u g world).1 (use factory u g world).2)
    (uses : List Use) {g : Guarded T} {world : ω} (start : P g world) :
    P (session factory uses g world).1 (session factory uses g world).2 := by
  induction uses generalizing g world with
  | nil => exact start
  | cons first rest ih => exact ih (keeps first g world start)

/-- A factory of consecutive numbers that takes back the even ones only. -/
def evenNumbers : Factory Nat Nat where
  make next := (.ok next, next + 1)
  validate number next := (number % 2 == 0, next)
  activate number next := .done number next
  passivate number next := .done number next
  destroy _ next := next

/-- The object in the first guard of a name and those in the other guards are all there are. -/
theorem perm_without {name : String} {object : T} {guards : List (String × T)}
    (found : guards.lookup name = some object) :
    (guards.map Prod.snd).Perm (object :: (without name guards).map Prod.snd) := by
  induction guards with
  | nil => cases found
  | cons guard rest ih =>
      rcases guard with ⟨key, value⟩
      by_cases same : key = name
      · subst key
        rw [List.lookup_cons_self, Option.some.injEq] at found
        simp [without, found]
      · have notFirst : (name == key) = false := beq_eq_false_iff_ne.mpr (Ne.symm same)
        have notSame : (key == name) = false := beq_eq_false_iff_ne.mpr same
        rw [List.lookup_cons, notFirst] at found
        simp only [without, notSame, List.map_cons]
        exact ((ih found).cons value).trans (List.Perm.swap object value _)

/-- Giving up a guard leaves one less. -/
theorem length_without {name : String} {object : T} {guards : List (String × T)}
    (found : guards.lookup name = some object) :
    (without name guards).length + 1 = guards.length := by
  have sameLength := (perm_without found).length_eq
  simpa using sameLength.symm

end Guarded

end IntegrationHost.Pool
