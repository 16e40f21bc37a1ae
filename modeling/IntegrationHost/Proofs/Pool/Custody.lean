import IntegrationHost.Proofs.Pool.Accounting
import IntegrationHost.Proofs.Pool.Numbered
import Mathlib.Data.List.Nodup

/-!
# The custody of objects

Every object that a factory has made is in one place: it lies idle in the pool, or it is in a guard,
or it was destroyed once. No operation loses an object or destroys it twice, whichever calls of the
factory fail. A closed pool asks for no further objects and keeps none, so that all objects are
destroyed when the last guard is given up.
-/

namespace IntegrationHost.Pool

variable {ω T : Type}

/-! ## One place for each object -/

/-- Of the numbers below `made`, each is in one of three lists, and there once; no other number is
in any of them. -/
def Spread (idle held destroyed : List Nat) (made : Nat) : Prop :=
  ∀ n, idle.count n + held.count n + destroyed.count n = if n < made then 1 else 0

namespace Spread

variable {idle held destroyed : List Nat} {made n : Nat}

/-- What is idle is taken. -/
theorem take (spread : Spread (n :: idle) held destroyed made) :
    Spread idle (n :: held) destroyed made := by
  intro m
  have before := spread m
  rw [List.count_cons] at before ⊢
  omega

/-- What is held is laid idle. -/
theorem shelve (spread : Spread idle (n :: held) destroyed made) :
    Spread (idle ++ [n]) held destroyed made := by
  intro m
  have before := spread m
  rw [List.count_cons] at before
  rw [List.count_append, List.count_singleton]
  omega

/-- What is held is destroyed. -/
theorem discard (spread : Spread idle (n :: held) destroyed made) :
    Spread idle held (destroyed ++ [n]) made := by
  intro m
  have before := spread m
  rw [List.count_cons] at before
  rw [List.count_append, List.count_singleton]
  omega

/-- All that is idle is destroyed. -/
theorem discardIdle (spread : Spread idle held destroyed made) :
    Spread [] held (destroyed ++ idle) made := by
  intro m
  have before := spread m
  rw [List.count_append, List.count_nil]
  omega

/-- The next number is held. -/
theorem fresh (spread : Spread idle held destroyed made) :
    Spread idle (made :: held) destroyed (made + 1) := by
  intro m
  have before := spread m
  rw [List.count_cons]
  by_cases same : made = m
  · subst same
    simp_all
  · have notSame : (made == m) = false := beq_eq_false_iff_ne.mpr same
    have below : m < made + 1 ↔ m < made := by omega
    simp [notSame, below, before]

/-- The order in which numbers are held does not matter. -/
theorem perm (spread : Spread idle held destroyed made) {others : List Nat}
    (same : held.Perm others) :
    Spread idle others destroyed made := by
  intro m
  rw [← same.count_eq]
  exact spread m

/-- What is idle is there once. -/
theorem nodup (spread : Spread idle held destroyed made) : idle.Nodup := by
  refine List.nodup_iff_count_le_one.mpr fun n => ?_
  have once := spread n
  split at once <;> omega

/-- What is idle was made. -/
theorem below (spread : Spread idle held destroyed made) (isIdle : n ∈ idle) : n < made := by
  have positive := List.count_pos_iff.mpr isIdle
  have once := spread n
  split at once
  · assumption
  · omega

end Spread

/-- The numbers of objects, in order. -/
def numbers (objects : List (Numbered T)) : List Nat :=
  objects.map Numbered.number

/-- Of a pool that has lent the objects with the numbers `held`, each object that was made is in one
place, and a closed pool keeps no object. -/
structure Custody (pool : Pool (Numbered T)) (held : List Nat) (l : Ledger ω) : Prop where
  spread : Spread (numbers pool.idle) held l.destroyed l.made
  closed_idle : pool.closed = true → pool.idle = []

/-! ## What each operation does to the objects -/

namespace Custody

variable {pool : Pool (Numbered T)} {held : List Nat} {l : Ledger ω}

theorem new {name : String} {config : Config} (made : Pool.new name config = .ok pool)
    (world : ω) :
    Custody pool [] (Ledger.blank world) := by
  obtain ⟨_, rfl⟩ := new_eq_ok_iff.mp made
  exact ⟨fun n => by simp [numbers, Ledger.blank], fun _ => rfl⟩

theorem add (custody : Custody pool held l) (factory : Factory ω T) :
    Custody (pool.add factory.numbered l).value held (pool.add factory.numbered l).world := by
  rcases add_cases factory.numbered pool l with
    ⟨_, _, eq⟩ | ⟨_, left, called, eq⟩ | ⟨object, left, _, called, _, eq⟩ |
    ⟨object, left, opened, _, called, _, eq⟩ <;> rw [eq]
  · exact custody
  · rcases factory.numbered_make l with ⟨_, _, made⟩ | ⟨_, _, made⟩ <;> cases made.symm.trans called
    exact ⟨custody.spread, custody.closed_idle⟩
  · rcases factory.numbered_make l with ⟨_, _, made⟩ | ⟨_, _, made⟩ <;> cases made.symm.trans called
    exact ⟨custody.spread.fresh.discard, custody.closed_idle⟩
  · rcases factory.numbered_make l with ⟨_, _, made⟩ | ⟨_, _, made⟩ <;> cases made.symm.trans called
    refine ⟨?_, fun closed => by cases opened.symm.trans closed⟩
    simpa [Attempt.done, numbers, Factory.numbered, Numbered.carry] using
      custody.spread.fresh.shelve

theorem replenish (custody : Custody pool held l) (factory : Factory ω T) :
    Custody (pool.replenish factory.numbered l).1 held (pool.replenish factory.numbered l).2 := by
  rcases replenish_cases factory.numbered pool l with ⟨_, _, eq⟩ | ⟨_, eq⟩ <;> rw [eq]
  · exact custody.add factory
  · exact custody

theorem lend (object : Numbered T) (custody : Custody pool (object.number :: held) l)
    (factory : Factory ω T) :
    Custody (pool.lend factory.numbered object l).2.1
      (numbers (pool.lend factory.numbered object l).1.objects ++ held)
      (pool.lend factory.numbered object l).2.2 := by
  rcases lend_cases factory.numbered pool object l with ⟨_, eq⟩ | ⟨_, _, eq⟩ <;> rw [eq]
  · exact ⟨custody.spread, custody.closed_idle⟩
  · exact ⟨custody.spread.discard, custody.closed_idle⟩

theorem borrow (custody : Custody pool held l) (factory : Factory ω T) :
    Custody (pool.borrow factory.numbered l).2.1
      (numbers (pool.borrow factory.numbered l).1.objects ++ held)
      (pool.borrow factory.numbered l).2.2 := by
  rcases borrow_cases factory.numbered pool l with
    ⟨_, loan, none, eq⟩ | ⟨object, rest, opened, idle_eq, eq⟩ | ⟨_, _, _, called, eq⟩ |
    ⟨object, left, _, _, _, called, eq⟩ <;> rw [eq]
  · rw [none]
    exact custody
  · have spread := custody.spread
    rw [idle_eq] at spread
    have inHand : Custody { pool with idle := rest, active := pool.active + 1 }
        (object.number :: held) l :=
      ⟨spread.take, fun closed => by cases opened.symm.trans closed⟩
    exact inHand.lend object factory
  · rcases factory.numbered_make l with ⟨_, _, made⟩ | ⟨_, _, made⟩ <;> cases made.symm.trans called
    exact ⟨custody.spread, custody.closed_idle⟩
  · rcases factory.numbered_make l with ⟨_, _, made⟩ | ⟨_, world, made⟩ <;>
      cases made.symm.trans called
    have inHand : Custody
        { pool with active := pool.active + 1, allocated := pool.allocated + 1 }
        (l.made :: held) { l with world, asked := l.asked + 1, made := l.made + 1 } :=
      ⟨custody.spread.fresh, custody.closed_idle⟩
    exact inHand.lend _ factory

/-- A lent object is destroyed and counted no longer. -/
theorem vacated {number : Nat} (custody : Custody pool (number :: held) l)
    (factory : Factory ω T) (value : T) (world : ω) :
    Custody { pool with active := pool.active - 1, allocated := pool.allocated - 1 } held
      (factory.numbered.destroy ⟨value, number⟩ { l with world }) :=
  ⟨custody.spread.discard, custody.closed_idle⟩

theorem giveBack {object : Numbered T} (custody : Custody pool (object.number :: held) l)
    (factory : Factory ω T) :
    Custody (pool.giveBack factory.numbered object l).1 held
      (pool.giveBack factory.numbered object l).2 := by
  obtain ⟨fit, value, world, inspected⟩ := inspect_numbered factory object l
  have outcome := giveBack_cases factory.numbered pool object l
  rw [inspected] at outcome
  rcases outcome with ⟨_, eq⟩ | ⟨_, opened, _, eq⟩ | eq <;> rw [eq]
  · exact ⟨custody.spread.discard, custody.closed_idle⟩
  · refine ⟨?_, fun closed => by cases opened.symm.trans closed⟩
    simpa [numbers] using custody.spread.shelve
  · exact (vacated custody factory value world).replenish factory

theorem invalidate {object : Numbered T} (custody : Custody pool (object.number :: held) l)
    (factory : Factory ω T) :
    Custody (pool.invalidate factory.numbered object l).1 held
      (pool.invalidate factory.numbered object l).2 := by
  rcases invalidate_cases factory.numbered pool object l with ⟨_, eq⟩ | eq <;> rw [eq]
  · exact ⟨custody.spread.discard, custody.closed_idle⟩
  · exact (vacated custody factory object.object l.world).replenish factory

theorem close (custody : Custody pool held l) (factory : Factory ω T) :
    Custody (pool.close factory.numbered l).1 held (pool.close factory.numbered l).2 := by
  obtain ⟨world, destroyed⟩ := destroyAll_numbered factory l pool.idle
  unfold Pool.close
  rw [destroyed]
  exact ⟨custody.spread.discardIdle, fun _ => rfl⟩

end Custody

/-! ## Sessions -/

namespace Guarded

/-- The numbers of the objects in guards. -/
def held (g : Guarded (Numbered T)) : List Nat :=
  numbers (g.guards.map Prod.snd)

/-- Each object that was made is idle, in a guard, or destroyed, and in one of these places once. -/
def Custody (g : Guarded (Numbered T)) (l : Ledger ω) : Prop :=
  g.pool.Custody g.held l

variable {g : Guarded (Numbered T)} {l : Ledger ω}

/-- Giving up a guard keeps the custody, also of objects that are lent and in no guard yet. -/
theorem custody_release (lent : List Nat) (custody : g.pool.Custody (lent ++ g.held) l)
    (factory : Factory ω T) (how : Release) (name : String) :
    (g.release factory.numbered how name l).1.pool.Custody
      (lent ++ (g.release factory.numbered how name l).1.held)
      (g.release factory.numbered how name l).2 := by
  unfold release
  cases found : g.guards.lookup name with
  | none => exact custody
  | some object =>
      have inHand : g.pool.Custody
          (object.number :: (lent ++ numbers ((without name g.guards).map Prod.snd))) l := by
        refine ⟨custody.spread.perm ?_, custody.closed_idle⟩
        have taken := ((perm_without found).map Numbered.number).append_left lent
        exact taken.trans List.perm_middle
      cases how with
      | checkin => exact inHand.giveBack factory
      | invalidate => exact inHand.invalidate factory

theorem custody_checkout (custody : g.Custody l) (factory : Factory ω T) (name : String) :
    (g.checkout factory.numbered name l).2.1.Custody (g.checkout factory.numbered name l).2.2 := by
  have borrowed := Pool.Custody.borrow custody factory
  unfold checkout
  generalize g.pool.borrow factory.numbered l = left at borrowed ⊢
  rcases left with ⟨loan, pool, l⟩
  cases loan with
  | refused error => exact borrowed
  | waits => exact borrowed
  | lent object =>
      exact custody_release (g := { g with pool }) [object.number] borrowed factory .checkin name

/-- Each use keeps the custody. -/
theorem custody_use (custody : g.Custody l) (factory : Factory ω T) (u : Use) :
    (use factory.numbered u g l).1.Custody (use factory.numbered u g l).2 := by
  cases u with
  | add => exact Pool.Custody.add custody factory
  | checkout name => exact custody_checkout custody factory name
  | release how name => exact custody_release [] custody factory how name
  | close => exact Pool.Custody.close custody factory

/-- After any session with a new pool the custody is in order. -/
theorem custody_session {name : String} {config : Config} {pool : Pool (Numbered T)}
    (made : Pool.new name config = .ok pool) (factory : Factory ω T) (uses : List Use)
    (world : ω) :
    (session factory.numbered uses (ofPool pool) (.blank world)).1.Custody
      (session factory.numbered uses (ofPool pool) (.blank world)).2 :=
  session_keeps (P := Custody) (fun u _ _ custody => custody_use custody factory u) uses
    (Pool.Custody.new made world)

/-! ## After closing -/

/-- A closed pool makes nothing for what was destroyed. -/
theorem replenish_of_closed {pool : Pool T} (closed : pool.closed = true) (factory : Factory ω T)
    (world : ω) :
    pool.replenish factory world = (pool, world) := by
  simp [replenish, closed]

/-- A pool that is closed stays so when an object comes back, and asks for no other. -/
theorem giveBack_of_closed {pool : Pool (Numbered T)} (closed : pool.closed = true)
    (factory : Factory ω T) (object : Numbered T) (l : Ledger ω) :
    (pool.giveBack factory.numbered object l).1.closed = true ∧
      (pool.giveBack factory.numbered object l).2.asked = l.asked := by
  obtain ⟨fit, value, world, inspected⟩ := inspect_numbered factory object l
  unfold giveBack
  rw [inspected]
  dsimp only
  split
  · exact ⟨closed, rfl⟩
  · split
    · next kept => simp [closed] at kept
    · rw [replenish_of_closed]
      · exact ⟨closed, rfl⟩
      · exact closed

/-- The same when an object is destroyed. -/
theorem invalidate_of_closed {pool : Pool (Numbered T)} (closed : pool.closed = true)
    (factory : Factory ω T) (object : Numbered T) (l : Ledger ω) :
    (pool.invalidate factory.numbered object l).1.closed = true ∧
      (pool.invalidate factory.numbered object l).2.asked = l.asked := by
  unfold invalidate
  dsimp only
  split
  · exact ⟨closed, rfl⟩
  · rw [replenish_of_closed]
    · exact ⟨closed, rfl⟩
    · exact closed

/-- The pool is closed and has asked for an object `asked` times. -/
def Retired (asked : Nat) (g : Guarded (Numbered T)) (l : Ledger ω) : Prop :=
  g.pool.closed = true ∧ l.asked = asked

/-- Closing a pool asks for no object. -/
theorem retired_close (factory : Factory ω T) (g : Guarded (Numbered T)) (l : Ledger ω) :
    Retired l.asked (g.close factory.numbered l).1 (g.close factory.numbered l).2 := by
  obtain ⟨world, destroyed⟩ := destroyAll_numbered factory l g.pool.idle
  simp only [close, Pool.close, destroyed]
  exact ⟨rfl, rfl⟩

/-- Giving up a guard of a closed pool asks for no object. -/
theorem retired_release {asked : Nat} (retired : Retired asked g l) (factory : Factory ω T)
    (how : Release) (name : String) :
    Retired asked (g.release factory.numbered how name l).1
      (g.release factory.numbered how name l).2 := by
  obtain ⟨closed, rfl⟩ := retired
  unfold release
  cases g.guards.lookup name with
  | none => exact ⟨closed, rfl⟩
  | some object =>
      cases how with
      | checkin => exact giveBack_of_closed closed factory object l
      | invalidate => exact invalidate_of_closed closed factory object l

/-- A closed pool stays closed and asks for no object. -/
theorem retired_use {asked : Nat} (retired : Retired asked g l) (factory : Factory ω T)
    (u : Use) :
    Retired asked (use factory.numbered u g l).1 (use factory.numbered u g l).2 := by
  have nothing : g.pool.offer = .closed := offer_eq_closed_iff.mpr retired.1
  cases u with
  | add =>
      simp only [use, add, Pool.add, retired.1, if_true]
      exact retired
  | checkout name =>
      simp only [use, checkout, Pool.borrow, nothing]
      exact retired
  | release how name => exact retired_release retired factory how name
  | close =>
      rw [← retired.2]
      exact retired_close factory g l

/-- After any session with a new pool, whatever the factory does: the session with numbered objects
is the session with the objects themselves, and each object that was made lies idle, is in a guard
or was destroyed, in one of these places and there once. If the pool was closed during the session,
it keeps no object and has not asked for one since, and if all guards were given up too, each object
was destroyed once and none is counted. -/
theorem session_custody {name : String} {config : Config} {pool : Pool (Numbered T)}
    (made : Pool.new name config = .ok pool) (factory : Factory ω T) (uses : List Use)
    (world : ω) :
    let left := session factory.numbered uses (ofPool pool) (.blank world)
    let g := left.1
    let l := left.2
    Pool.new name config = .ok (pool.map Numbered.object) ∧
      session factory uses (ofPool (pool.map Numbered.object)) world =
        (g.map Numbered.object, l.world) ∧
      (∀ n, (numbers g.pool.idle).count n + g.held.count n + l.destroyed.count n =
        if n < l.made then 1 else 0) ∧
      ∀ before after, uses = before ++ .close :: after →
        g.pool.idle = [] ∧
          l.asked = (session factory.numbered before (ofPool pool) (.blank world)).2.asked ∧
          (g.guards = [] →
            g.pool.allocated = 0 ∧ ∀ n, n < l.made → l.destroyed.count n = 1) := by
  intro left g l
  have custody : g.Custody l := custody_session made factory uses world
  refine ⟨new_map made _, ?_, custody.spread, ?_⟩
  · exact session_map factory.numbered_projection uses (ofPool pool) (.blank world)
  · intro before after uses_eq
    have retired : Retired
        (session factory.numbered before (ofPool pool) (.blank world)).2.asked g l := by
      -- The session up to the closing, the closing, and the session after it.
      simp only [g, l, left, uses_eq, session_append, session_cons]
      exact session_keeps (P := Retired _) (fun u _ _ retired => retired_use retired factory u)
        after (retired_close factory _ _)
    have empty : g.pool.idle = [] := custody.closed_idle retired.1
    refine ⟨empty, retired.2, fun noGuards => ⟨?_, fun n below => ?_⟩⟩
    · have start : (ofPool pool).Balanced config := Pool.Balanced.new made
      have balanced := (balanced_session start factory.numbered uses (.blank world)).1
      have active_eq := balanced.active_eq
      have allocated_eq := balanced.allocated_eq
      change g.pool.active = g.guards.length at active_eq
      change g.pool.allocated = g.pool.idle.length + g.pool.active at allocated_eq
      simp_all
    · have once := custody.spread n
      simpa [numbers, held, empty, noGuards, below] using once

/-- Of two lent numbers one is given up and made up for, and the other comes back when the pool is
closed; all three are destroyed once. -/
theorem session_custody_evenNumbers :
    let pool : Pool (Numbered Nat) := ⟨"numbers", .fixed 3, [], 0, 0, false⟩
    let before : List Use := [.checkout "a", .checkout "b", .release .invalidate "a"]
    let after : List Use := [.release .checkin "b", .checkout "c"]
    let l := (session evenNumbers.numbered (before ++ .close :: after) (ofPool pool)
      (.blank 0)).2
    Pool.new "numbers" (.fixed 3) = .ok pool ∧ l.made = 3 ∧
      ∀ n, n < 3 → l.destroyed.count n = 1 := by
  intro pool before after l
  have made : Pool.new "numbers" (.fixed 3) = .ok pool := rfl
  have custody := session_custody made evenNumbers (before ++ .close :: after) 0
  exact ⟨made, rfl, ((custody.2.2.2 before after rfl).2.2 rfl).2⟩

end Guarded

end IntegrationHost.Pool
