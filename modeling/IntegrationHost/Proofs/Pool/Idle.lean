import IntegrationHost.Proofs.Pool.Accounting
import Mathlib.Data.Fintype.EquivFin

/-!
# How many objects lie idle

A pool takes an object back only as long as fewer lie idle than its configuration allows. Two other
ways lead to the idle objects, and neither looks at that bound: objects are added, and objects are
made for those that were destroyed, until there are enough of them. So the bound holds for all
sessions only where it is as large as the pool, and for sessions in which nothing is added only
where the pool need not keep more objects.
-/

namespace IntegrationHost.Pool

variable {ω T : Type}

/-! ## Bounds -/

/-- The more generous of the two bounds on idle objects. -/
def Config.idleBound (config : Config) : Nat := max config.minIdle config.maxIdle

/-! ## What each operation does to the idle objects -/

section

variable {pool : Pool T} {config : Config} {lent : Nat}

theorem idle_add (factory : Factory ω T) (pool : Pool T) (world : ω) :
    (pool.add factory world).value.idle.length ≤ pool.idle.length + 1 := by
  rcases add_cases factory pool world with
    ⟨_, _, eq⟩ | ⟨_, _, _, eq⟩ | ⟨_, _, _, _, _, eq⟩ | ⟨_, _, _, _, _, _, eq⟩ <;> rw [eq]
  · exact Nat.le_succ _
  · exact Nat.le_succ _
  · exact Nat.le_succ _
  · exact (List.length_append ..).le

theorem idle_lend (factory : Factory ω T) (pool : Pool T) (object : T) (world : ω) :
    (pool.lend factory object world).2.1.idle = pool.idle := by
  rcases lend_cases factory pool object world with ⟨_, eq⟩ | ⟨_, _, eq⟩ <;> rw [eq]

theorem idle_borrow (factory : Factory ω T) (pool : Pool T) (world : ω) :
    (pool.borrow factory world).2.1.idle.length ≤ pool.idle.length := by
  rcases borrow_cases factory pool world with
    ⟨_, _, _, eq⟩ | ⟨object, rest, _, idle_eq, eq⟩ | ⟨_, _, _, _, eq⟩ | ⟨_, _, _, _, _, _, eq⟩ <;>
    rw [eq]
  · rw [idle_lend, idle_eq]
    exact Nat.le_succ _
  · rw [idle_lend]

/-- An object is made for another one only while there are few. -/
theorem idle_replenish (balanced : pool.Balanced config lent) (factory : Factory ω T) (world : ω) :
    (pool.replenish factory world).1.idle.length ≤ max pool.idle.length config.idleBound := by
  unfold Config.idleBound
  rcases replenish_cases factory pool world with ⟨_, short, eq⟩ | ⟨_, eq⟩ <;> rw [eq]
  · have added := idle_add factory pool world
    have allocated_eq := balanced.allocated_eq
    rw [balanced.config_eq] at short
    simp only [Attempt.left]
    omega
  · exact Nat.le_max_left ..

theorem idle_giveBack (balanced : pool.Balanced config (lent + 1)) (factory : Factory ω T)
    (object : T) (world : ω) :
    (pool.giveBack factory object world).1.idle.length ≤
      max pool.idle.length config.idleBound := by
  rcases giveBack_cases factory pool object world with ⟨_, eq⟩ | ⟨_, _, room, eq⟩ | eq <;> rw [eq]
  · exact Nat.le_max_left ..
  · rw [balanced.config_eq] at room
    simp only [List.length_append, List.length_singleton, Config.idleBound]
    omega
  · exact idle_replenish balanced.vacated factory _

theorem idle_invalidate (balanced : pool.Balanced config (lent + 1)) (factory : Factory ω T)
    (object : T) (world : ω) :
    (pool.invalidate factory object world).1.idle.length ≤
      max pool.idle.length config.idleBound := by
  rcases invalidate_cases factory pool object world with ⟨_, eq⟩ | eq <;> rw [eq]
  · exact Nat.le_max_left ..
  · exact idle_replenish balanced.vacated factory _

end

/-! ## Sessions -/

namespace Guarded

section

variable {g : Guarded T} {config : Config}

theorem idle_release (lent : Nat) (balanced : g.pool.Balanced config (g.guards.length + lent))
    (factory : Factory ω T) (how : Release) (name : String) (world : ω) :
    (g.release factory how name world).1.pool.idle.length ≤
      max g.pool.idle.length config.idleBound := by
  unfold release
  cases found : g.guards.lookup name with
  | none => exact Nat.le_max_left ..
  | some object =>
      rw [← length_without found, Nat.add_right_comm] at balanced
      cases how with
      | checkin => exact idle_giveBack balanced factory object world
      | invalidate => exact idle_invalidate balanced factory object world

theorem idle_checkout (balanced : g.Balanced config) (factory : Factory ω T) (name : String)
    (world : ω) :
    (g.checkout factory name world).2.1.pool.idle.length ≤
      max g.pool.idle.length config.idleBound := by
  have fewer := idle_borrow factory g.pool world
  have borrowed := Pool.Balanced.borrow balanced factory world
  unfold checkout
  generalize g.pool.borrow factory world = left at fewer borrowed ⊢
  rcases left with ⟨loan, pool, world⟩
  cases loan with
  | refused error => exact le_max_of_le_left fewer
  | waits => exact le_max_of_le_left fewer
  | lent object =>
      have released := idle_release (g := { g with pool }) 1 borrowed factory .checkin name world
      exact released.trans (max_le_max_right _ fewer)

/-- Only adding an object can lay one more idle than the bounds say. -/
theorem idle_use (balanced : g.Balanced config) (factory : Factory ω T) (u : Use) (world : ω) :
    (use factory u g world).1.pool.idle.length ≤
      max g.pool.idle.length config.idleBound + [u].count .add := by
  cases u with
  | add =>
      have added := idle_add factory g.pool world
      exact added.trans (Nat.add_le_add_right (Nat.le_max_left ..) 1)
  | checkout name => exact idle_checkout balanced factory name world
  | release how name => exact idle_release 0 balanced factory how name world
  | close => exact Nat.zero_le _

theorem idle_session (balanced : g.Balanced config) (factory : Factory ω T) (uses : List Use)
    (world : ω) :
    (session factory uses g world).1.pool.idle.length ≤
      max g.pool.idle.length config.idleBound + uses.count .add := by
  induction uses generalizing g world with
  | nil => exact Nat.le_max_left ..
  | cons first rest ih =>
      have byFirst := idle_use balanced factory first world
      have byRest := ih (balanced_use balanced factory first world).1
        (use factory first g world).2
      have counted : (first :: rest).count .add = [first].count .add + rest.count .add := by
        rw [← List.count_append, List.singleton_append]
      rw [session_cons, counted]
      omega

end

/-! ## Sessions that go beyond a bound -/

theorem add_evenNumbers {pool : Pool Nat} (opened : pool.closed = false)
    (room : pool.allocated < pool.config.maxActive) (next : Nat) :
    pool.add evenNumbers next =
      .done { pool with idle := pool.idle ++ [next], allocated := pool.allocated + 1 }
        (next + 1) := by
  unfold Pool.add
  rw [if_neg (by rw [opened]; nofun), if_neg (Nat.not_le.mpr room)]
  rfl

/-- Where nothing lies idle a number is made and lent. -/
theorem borrow_evenNumbers {pool : Pool Nat} (offered : pool.offer = .new) (next : Nat) :
    pool.borrow evenNumbers next =
      (.lent next, { pool with active := pool.active + 1, allocated := pool.allocated + 1 },
        next + 1) := by
  unfold borrow
  rw [offered]
  rfl

/-- A number that is destroyed is made up for where there are too few. -/
theorem invalidate_evenNumbers {pool : Pool Nat} (opened : pool.closed = false)
    (someLent : pool.active ≠ 0) (short : pool.allocated - 1 < pool.config.minIdle)
    (below : pool.config.minIdle ≤ pool.config.maxActive) (number next : Nat) :
    pool.invalidate evenNumbers number next =
      ({ pool with
          idle := pool.idle ++ [next]
          active := pool.active - 1
          allocated := pool.allocated - 1 + 1 }, next + 1) := by
  have isShort : (!pool.closed && pool.allocated - 1 < pool.config.minIdle) = true := by
    simp [opened, short]
  let vacated := { pool with active := pool.active - 1, allocated := pool.allocated - 1 }
  have stillOpen : vacated.closed = false := opened
  have room : vacated.allocated < vacated.config.maxActive := short.trans_le below
  unfold Pool.invalidate replenish
  simp only [if_neg someLent, if_pos isShort]
  exact congrArg Attempt.left (add_evenNumbers stillOpen room next)

/-- Numbers are added until the pool is as large as it may be. -/
theorem idle_session_add (n : Nat) {g : Guarded Nat} (opened : g.pool.closed = false)
    (room : g.pool.allocated + n ≤ g.pool.config.maxActive) (next : Nat) :
    (session evenNumbers (List.replicate n .add) g next).1.pool.idle.length =
      g.pool.idle.length + n := by
  induction n generalizing g next with
  | zero => rfl
  | succ n ih =>
      let pool := { g.pool with idle := g.pool.idle ++ [next], allocated := g.pool.allocated + 1 }
      have used : use evenNumbers .add g next = (⟨pool, g.guards⟩, next + 1) := by
        simp only [use, add, add_evenNumbers opened (by omega) next]
        rfl
      have roomLeft : pool.allocated + n ≤ pool.config.maxActive := by
        rw [Nat.add_assoc, Nat.add_comm 1]
        exact room
      rw [List.replicate_succ, session_cons, used, ih (g := ⟨pool, g.guards⟩) opened roomLeft,
        List.length_append, Nat.add_assoc, Nat.add_comm n]
      rfl

/-- An open pool of numbers that has lent one to each of some names. -/
structure Holds (config : Config) (names : List String) (idle : Nat) (g : Guarded Nat) :
    Prop where
  balanced : g.Balanced config
  opened : g.pool.closed = false
  names_eq : g.guards.map Prod.fst = names
  idle_eq : g.pool.idle.length = idle

section

variable {config : Config} {names : List String} {name : String} {idle : Nat} {g : Guarded Nat}

/-- Where nothing lies idle, one more number is made and lent. -/
theorem Holds.checkout (holds : Holds config names 0 g) (fresh : name ∉ names)
    (room : names.length < config.maxActive) (next : Nat) :
    Holds config (name :: names) 0 (use evenNumbers (.checkout name) g next).1 := by
  have kept := (balanced_use holds.balanced evenNumbers (.checkout name) next).1
  obtain ⟨balanced, opened, rfl, idle_eq⟩ := holds
  have noneIdle : g.pool.idle = [] := List.length_eq_zero_iff.mp idle_eq
  have offered : g.pool.offer = .new := by
    refine offer_eq_new_iff.mpr ⟨opened, noneIdle, ?_⟩
    rw [List.length_map] at room
    rw [balanced.config_eq, balanced.allocated_eq, balanced.active_eq, idle_eq]
    omega
  have notHeld : g.guards.lookup name = none := by
    rw [List.lookup_eq_none_iff]
    rintro guard isGuard
    have notThis : name ≠ guard.1 := by
      rintro rfl
      exact fresh (List.mem_map_of_mem isGuard)
    exact bne_iff_ne.mpr notThis
  have left_eq : (use evenNumbers (.checkout name) g next).1 =
      ⟨{ g.pool with active := g.pool.active + 1, allocated := g.pool.allocated + 1 },
        (name, next) :: g.guards⟩ := by
    simp [use, Guarded.checkout, borrow_evenNumbers offered, keep, release, notHeld]
  rw [left_eq] at kept ⊢
  exact ⟨kept, opened, rfl, idle_eq⟩

/-- A number that is destroyed is made up for as long as there are too few. -/
theorem Holds.invalidate (holds : Holds config (name :: names) idle g)
    (short : idle + names.length < config.minIdle) (below : config.minIdle ≤ config.maxActive)
    (next : Nat) :
    Holds config names (idle + 1) (use evenNumbers (.release .invalidate name) g next).1 := by
  have kept := (balanced_use holds.balanced evenNumbers (.release .invalidate name) next).1
  obtain ⟨⟨config_eq, active_eq, allocated_eq, _⟩, opened, names_eq, idle_eq⟩ := holds
  rcases g with ⟨pool, _ | ⟨⟨key, object⟩, rest⟩⟩
  · cases names_eq
  · obtain ⟨rfl, rfl⟩ := List.cons.inj names_eq
    dsimp only at config_eq active_eq allocated_eq opened idle_eq
    rw [List.length_cons] at active_eq
    rw [List.length_map] at short
    have fewer : pool.allocated - 1 < pool.config.minIdle := by
      rw [config_eq]
      omega
    have replaced := invalidate_evenNumbers opened (by omega) fewer (by rwa [config_eq]) object next
    have left_eq : (use evenNumbers (.release .invalidate key)
        ⟨pool, (key, object) :: rest⟩ next).1 =
          ⟨{ pool with
              idle := pool.idle ++ [next]
              active := pool.active - 1
              allocated := pool.allocated - 1 + 1 }, rest⟩ := by
      simp [use, release, without, replaced]
    rw [left_eq] at kept ⊢
    refine ⟨kept, opened, rfl, ?_⟩
    rw [List.length_append, idle_eq]
    rfl

/-- As many numbers are lent as there are names, as long as the pool may have so many. -/
theorem Holds.session_checkout (holds : Holds config [] 0 g) (distinct : names.Nodup)
    (room : names.length ≤ config.maxActive) (next : Nat) :
    Holds config names 0 (session evenNumbers (names.reverse.map .checkout) g next).1 := by
  induction names with
  | nil => exact holds
  | cons name rest ih =>
      obtain ⟨fresh, distinctRest⟩ := List.nodup_cons.mp distinct
      rw [List.length_cons] at room
      rw [List.reverse_cons, List.map_append, session_append]
      exact (ih distinctRest (by omega)).checkout fresh room _

/-- Destroying all that is lent leaves as many idle, where so many are to be kept. -/
theorem Holds.session_invalidate (holds : Holds config names idle g)
    (short : idle + names.length ≤ config.minIdle) (below : config.minIdle ≤ config.maxActive)
    (next : Nat) :
    (session evenNumbers (names.map (.release .invalidate)) g next).1.pool.idle.length =
      idle + names.length := by
  induction names generalizing idle g next with
  | nil => exact holds.idle_eq
  | cons name rest ih =>
      rw [List.length_cons] at short ⊢
      have replaced := holds.invalidate (by omega) below next
      rw [List.map_cons, session_cons, ih replaced (by omega)]
      omega

end

end Guarded

/-! ## When the bound holds -/

open Guarded

/-- With these bounds a pool never has more idle objects than `maxIdle`, whatever its factory does
and however it is used, as far as the uses are allowed. -/
def Config.BoundsIdle (config : Config) (allowed : Use → Prop) : Prop :=
  ∀ {ω T : Type} (factory : Factory ω T) {name : String} {pool : Pool T},
    Pool.new name config = .ok pool → ∀ uses : List Use, (∀ u ∈ uses, allowed u) → ∀ world,
      (session factory uses (ofPool pool) world).1.pool.idle.length ≤ config.maxIdle

section

variable {config : Config} (accepted : config.check = .ok ())

/-- As many objects lie idle as the bounds allow and are added. -/
theorem idle_session_new {name : String} {pool : Pool T} (made : Pool.new name config = .ok pool)
    (factory : Factory ω T) (uses : List Use) (world : ω) :
    (session factory uses (ofPool pool) world).1.pool.idle.length ≤
      config.idleBound + uses.count .add := by
  have start : (ofPool pool).Balanced config := Pool.Balanced.new made
  have bounded := idle_session start factory uses world
  obtain ⟨_, rfl⟩ := new_eq_ok_iff.mp made
  rwa [show (ofPool (T := T) ⟨name, config, [], 0, 0, false⟩).pool.idle.length = 0 from rfl,
    Nat.zero_max] at bounded

theorem idle_session_le_maxActive {name : String} {pool : Pool T}
    (made : Pool.new name config = .ok pool) (factory : Factory ω T) (uses : List Use)
    (world : ω) :
    (session factory uses (ofPool pool) world).1.pool.idle.length ≤ config.maxActive := by
  have start : (ofPool pool).Balanced config := Pool.Balanced.new made
  have balanced := (balanced_session start factory uses world).1
  have allocated_eq := balanced.allocated_eq
  have allocated_le := balanced.allocated_le
  omega

include accepted

/-- The bound holds for all sessions only where it is as large as the pool. -/
theorem Config.boundsIdle_all :
    config.BoundsIdle (fun _ => True) ↔ config.maxIdle = config.maxActive := by
  obtain ⟨_, _, maxIdle_le⟩ := Config.check_eq_ok_iff.mp accepted
  constructor
  · intro bounds
    by_contra notSame
    let pool : Pool Nat := ⟨"numbers", config, [], 0, 0, false⟩
    have made : Pool.new "numbers" config = .ok pool := new_eq_ok_iff.mpr ⟨accepted, rfl⟩
    have room : 0 + (config.maxIdle + 1) ≤ config.maxActive := by omega
    have tooMany := idle_session_add (config.maxIdle + 1) (g := ofPool pool) rfl room 0
    have bounded := bounds evenNumbers made
      (List.replicate (config.maxIdle + 1) .add) (fun _ _ => trivial) 0
    rw [tooMany] at bounded
    omega
  · intro same ω T factory name pool made uses _ world
    rw [same]
    exact idle_session_le_maxActive made factory uses world

/-- Without additions the bound holds only where the pool need not keep more objects. -/
theorem Config.boundsIdle_without_add :
    config.BoundsIdle (· ≠ .add) ↔ config.minIdle ≤ config.maxIdle := by
  obtain ⟨_, minIdle_le, maxIdle_le⟩ := Config.check_eq_ok_iff.mp accepted
  constructor
  · intro bounds
    by_contra more
    let pool : Pool Nat := ⟨"numbers", config, [], 0, 0, false⟩
    have made : Pool.new "numbers" config = .ok pool := new_eq_ok_iff.mpr ⟨accepted, rfl⟩
    obtain ⟨names, count⟩ := Infinite.exists_subset_card_eq String (config.maxIdle + 1)
    rw [← Finset.length_toList] at count
    have start : Holds config [] 0 (ofPool pool) := ⟨Pool.Balanced.new made, rfl, rfl, rfl⟩
    have lent := start.session_checkout names.nodup_toList (by omega) 0
    have tooMany := lent.session_invalidate (by omega) minIdle_le
    have noneAdded : ∀ u ∈ names.toList.reverse.map Use.checkout ++
        names.toList.map (.release .invalidate), u ≠ .add := by
      grind
    have bounded := bounds evenNumbers made _ noneAdded 0
    rw [session_append, tooMany] at bounded
    omega
  · intro fewer ω T factory name pool made uses noneAdded world
    have bounded := idle_session_new made factory uses world
    have count_eq : uses.count .add = 0 :=
      List.count_eq_zero.mpr fun isUse => noneAdded _ isUse rfl
    rwa [count_eq, Config.idleBound, max_eq_right fewer] at bounded

end

/-- For which bounds that are accepted no more objects lie idle than `maxIdle`: in all sessions with
a new pool for those that let as many lie idle as there may be, and in all sessions without
additions for those that do not ask for more objects than may lie idle. In any session no more lie
idle than there may be, and beyond the greater bound on idle objects no more than were added. -/
theorem idle_bounded_iff (config : Config) (accepted : config.check = .ok ()) :
    (config.BoundsIdle (fun _ => True) ↔ config.maxIdle = config.maxActive) ∧
      (config.BoundsIdle (· ≠ .add) ↔ config.minIdle ≤ config.maxIdle) ∧
      ∀ {ω T : Type} (factory : Factory ω T) {name : String} {pool : Pool T},
        Pool.new name config = .ok pool → ∀ (uses : List Use) (world : ω),
          let idle := (session factory uses (ofPool pool) world).1.pool.idle.length
          idle ≤ config.maxActive ∧
            idle ≤ max config.minIdle config.maxIdle + uses.count .add := by
  refine ⟨Config.boundsIdle_all accepted, Config.boundsIdle_without_add accepted, ?_⟩
  intro ω T factory name pool made uses world
  exact ⟨idle_session_le_maxActive made factory uses world,
    idle_session_new made factory uses world⟩

/-- Of three objects two may lie idle. All three can come to lie idle, but not unless some are
added. -/
theorem idle_bounded_iff_two_of_three :
    let config : Config := ⟨3, 1, 2, none, .fail⟩
    config.check = .ok () ∧ ¬ config.BoundsIdle (fun _ => True) ∧ config.BoundsIdle (· ≠ .add) := by
  intro config
  have accepted : config.check = .ok () := rfl
  obtain ⟨all, withoutAdd, _⟩ := idle_bounded_iff config accepted
  exact ⟨accepted, mt all.mp (by decide), withoutAdd.mpr (by decide)⟩

/-- Two numbers lie idle in a pool that may have one idle, as both were added; and one lies idle in
a pool that may have none idle, as it was made for one that came back. -/
theorem idle_beyond_bound :
    let added : Config := ⟨2, 0, 1, none, .fail⟩
    let replaced : Config := ⟨1, 1, 0, none, .fail⟩
    let idle (config : Config) (uses : List Use) : List Nat :=
      (session evenNumbers uses (ofPool ⟨"numbers", config, [], 0, 0, false⟩) 0).1.pool.idle
    added.check = .ok () ∧ idle added [.add, .add] = [0, 1] ∧
      replaced.check = .ok () ∧ idle replaced [.checkout "a", .release .checkin "a"] = [1] ∧
      ¬ ∀ config uses, config.check = .ok () → (idle config uses).length ≤ config.maxIdle := by
  intro added replaced idle
  refine ⟨rfl, rfl, rfl, rfl, fun bounded => ?_⟩
  exact absurd (bounded added [.add, .add] rfl) (by decide)

end IntegrationHost.Pool
