import IntegrationHost.Proofs.Pool.Custody

/-!
# What a refusal leaves behind

An operation of a pool may break off at any call of its factory. Then the pool is what it was
before, and all objects that were made meanwhile are destroyed. There is one exception: an object
that was idle and could not be readied for a borrower is destroyed, and is idle no longer.
-/

namespace IntegrationHost.Pool

variable {ω T : Type}

/-! ## Ledgers -/

namespace Ledger

/-- Since `now`, the objects that were made are destroyed, in the order in which they were made, and
no others are. -/
def Squared (now left : Ledger ω) : Prop :=
  now.made ≤ left.made ∧
    left.destroyed = now.destroyed ++ List.range' now.made (left.made - now.made)

variable {l left : Ledger ω}

/-- Nothing was made and nothing destroyed. -/
theorem Squared.of_eq (made_eq : left.made = l.made) (destroyed_eq : left.destroyed = l.destroyed) :
    l.Squared left := by
  refine ⟨Nat.le_of_eq made_eq.symm, ?_⟩
  rw [made_eq, destroyed_eq, Nat.sub_self, List.range'_zero, List.append_nil]

/-- One object was made and destroyed. -/
theorem Squared.of_discarded (made_eq : left.made = l.made + 1)
    (destroyed_eq : left.destroyed = l.destroyed ++ [l.made]) : l.Squared left := by
  refine ⟨by omega, ?_⟩
  rw [made_eq, destroyed_eq, Nat.add_sub_cancel_left, List.range'_one]

end Ledger

/-! ## Pools -/

section

variable {factory : Factory ω T} {pool : Pool (Numbered T)} {now : Ledger ω} {error : Error}

theorem add_refused (refused : (pool.add factory.numbered now).verdict = .error error) :
    (pool.add factory.numbered now).value = pool ∧
      now.Squared (pool.add factory.numbered now).world := by
  rcases add_cases factory.numbered pool now with
    ⟨_, _, eq⟩ | ⟨_, left, called, eq⟩ | ⟨object, left, _, called, _, eq⟩ |
    ⟨_, _, _, _, _, _, eq⟩ <;>
    rw [eq] at refused ⊢
  · exact ⟨rfl, .of_eq rfl rfl⟩
  · rcases factory.numbered_make now with ⟨_, _, made⟩ | ⟨_, _, made⟩ <;>
      cases made.symm.trans called
    exact ⟨rfl, .of_eq rfl rfl⟩
  · rcases factory.numbered_make now with ⟨_, _, made⟩ | ⟨_, _, made⟩ <;>
      cases made.symm.trans called
    exact ⟨rfl, .of_discarded rfl rfl⟩
  · cases refused

/-- Readying an object fails only as the factory does, and destroys the object. -/
theorem lend_refused {object : Numbered T}
    (refused : (pool.lend factory.numbered object now).1 = .refused error) :
    let left := pool.lend factory.numbered object now
    (∃ reason, (factory.numbered.activate object now).verdict = .error reason ∧
        error = .activation reason.message) ∧
      left.2.1 = { pool with active := pool.active - 1, allocated := pool.allocated - 1 } ∧
      left.2.2.made = now.made ∧ left.2.2.destroyed = now.destroyed ++ [object.number] := by
  rcases lend_cases factory.numbered pool object now with ⟨_, eq⟩ | ⟨reason, unready, eq⟩
  · rw [eq] at refused
    cases refused
  · rw [eq] at refused ⊢
    cases refused
    exact ⟨⟨reason, unready, rfl⟩, rfl, rfl, rfl⟩

/-- From a pool with idle objects, only the oldest of them can be missing. -/
theorem borrow_refused_of_idle (opened : pool.closed = false) {object : Numbered T}
    {rest : List (Numbered T)} (idle_eq : pool.idle = object :: rest)
    (refused : (pool.borrow factory.numbered now).1 = .refused error) :
    let left := pool.borrow factory.numbered now
    (∃ reason, (factory.numbered.activate object now).verdict = .error reason ∧
        error = .activation reason.message) ∧
      left.2.1 = { pool with idle := rest, allocated := pool.allocated - 1 } ∧
      left.2.2.made = now.made ∧ left.2.2.destroyed = now.destroyed ++ [object.number] := by
  rcases borrow_cases factory.numbered pool now with
    ⟨closed | none, _⟩ | ⟨_, _, _, other_eq, eq⟩ | ⟨_, _, none, _⟩ | ⟨_, _, _, none, _⟩
  · cases opened.symm.trans closed
  · cases none.symm.trans idle_eq
  · cases other_eq.symm.trans idle_eq
    rw [eq] at refused ⊢
    exact lend_refused refused
  · cases none.symm.trans idle_eq
  · cases none.symm.trans idle_eq

/-- A pool with no idle objects is what it was. -/
theorem borrow_refused_of_none (noneIdle : pool.idle = [])
    (refused : (pool.borrow factory.numbered now).1 = .refused error) :
    (pool.borrow factory.numbered now).2.1 = pool ∧
      now.Squared (pool.borrow factory.numbered now).2.2 := by
  rcases borrow_cases factory.numbered pool now with
    ⟨_, _, _, eq⟩ | ⟨_, _, _, idle_eq, _⟩ | ⟨_, left, _, called, eq⟩ |
    ⟨object, left, _, _, _, called, eq⟩
  · rw [eq]
    exact ⟨rfl, .of_eq rfl rfl⟩
  · cases noneIdle.symm.trans idle_eq
  · rcases factory.numbered_make now with ⟨_, _, made⟩ | ⟨_, _, made⟩ <;>
      cases made.symm.trans called
    rw [eq]
    exact ⟨rfl, .of_eq rfl rfl⟩
  · rcases factory.numbered_make now with ⟨_, _, made⟩ | ⟨_, _, made⟩ <;>
      cases made.symm.trans called
    rw [eq] at refused ⊢
    obtain ⟨_, pool_eq, made_eq, destroyed_eq⟩ := lend_refused refused
    exact ⟨pool_eq, .of_discarded made_eq destroyed_eq⟩

end

/-! ## Sessions -/

namespace Guarded

/-- A borrower who is refused gets no guard. -/
theorem checkout_of_refused {g : Guarded T} {factory : Factory ω T} {world : ω} {error : Error}
    {name : String} (refused : (g.checkout factory name world).1 = .refused error) :
    (g.pool.borrow factory world).1 = .refused error ∧
      (g.checkout factory name world).2 =
        (⟨(g.pool.borrow factory world).2.1, g.guards⟩, (g.pool.borrow factory world).2.2) := by
  rw [checkout_fst] at refused
  refine ⟨refused, ?_⟩
  unfold checkout
  rcases borrowed : g.pool.borrow factory world with ⟨loan, pool, world⟩
  rw [borrowed] at refused
  cases refused
  rfl

/-- The oldest idle object could not be readied for a borrower. It is destroyed, is idle no longer
and is not counted, and nothing else has changed. -/
structure LosesOldest (factory : Factory ω T) (g : Guarded (Numbered T)) (now : Ledger ω)
    (object : Numbered T) (rest : List (Numbered T)) (error : Error)
    (left : Guarded (Numbered T)) (ledger : Ledger ω) : Prop where
  unready : ∃ reason, (factory.numbered.activate object now).verdict = .error reason ∧
    error = .activation reason.message
  counted : 0 < g.pool.allocated
  left_eq : left = ⟨{ g.pool with idle := rest, allocated := g.pool.allocated - 1 }, g.guards⟩
  made_eq : ledger.made = now.made
  destroyed_eq : ledger.destroyed = now.destroyed ++ [object.number]

/-- Wherever a session with a new pool has come to, and whatever the factory does from there: if an
object cannot be added, pool and guards are what they were, and all that was made for it is
destroyed. The same holds if a borrower is refused while no objects are idle. If some are, then the
oldest one could not be readied, and only that one is lost. -/
theorem session_refusals {name : String} {config : Config} {pool : Pool (Numbered T)}
    (made : Pool.new name config = .ok pool) (factory : Factory ω T) (uses : List Use)
    (world : ω) :
    let reached := session factory.numbered uses (ofPool pool) (.blank world)
    let g := reached.1
    session factory uses (ofPool (pool.map Numbered.object)) world =
        (g.map Numbered.object, reached.2.world) ∧
      ∀ (now : Ledger ω) (error : Error),
        ((g.add factory.numbered now).verdict = .error error →
          (g.add factory.numbered now).value = g ∧
            now.Squared (g.add factory.numbered now).world) ∧
        ∀ borrower,
          let asked := g.checkout factory.numbered borrower now
          asked.1 = .refused error →
            match g.pool.idle with
            | [] => asked.2.1 = g ∧ now.Squared asked.2.2
            | object :: rest =>
              LosesOldest factory g now object rest error asked.2.1 asked.2.2 := by
  intro reached g
  have custody : g.Custody reached.2 := custody_session made factory uses world
  have start : (ofPool pool).Balanced config := Pool.Balanced.new made
  have balanced : g.Balanced config :=
    (balanced_session start factory.numbered uses (.blank world)).1
  refine ⟨session_map factory.numbered_projection uses (ofPool pool) (.blank world), ?_⟩
  intro now error
  refine ⟨?added, ?borrowed⟩
  case added =>
    intro refused
    have notAdded : (g.pool.add factory.numbered now).verdict = .error error := refused
    obtain ⟨pool_eq, squared⟩ := add_refused notAdded
    exact ⟨congrArg (Guarded.mk · g.guards) pool_eq, squared⟩
  case borrowed =>
    intro borrower asked refused
    obtain ⟨notBorrowed, asked_eq⟩ := checkout_of_refused refused
    rw [asked_eq]
    cases idle_eq : g.pool.idle with
    | nil =>
        obtain ⟨pool_eq, squared⟩ := borrow_refused_of_none idle_eq notBorrowed
        exact ⟨congrArg (Guarded.mk · g.guards) pool_eq, squared⟩
    | cons object rest =>
        -- A closed pool has no idle objects.
        have opened : g.pool.closed = false := by
          rw [← Bool.not_eq_true]
          intro closed
          cases idle_eq.symm.trans (custody.closed_idle closed)
        obtain ⟨unready, pool_eq, made_eq, destroyed_eq⟩ :=
          borrow_refused_of_idle opened idle_eq notBorrowed
        have counted : 0 < g.pool.allocated := by
          have allocated_eq := balanced.allocated_eq
          rw [idle_eq, List.length_cons] at allocated_eq
          omega
        exact ⟨unready, counted, congrArg (Guarded.mk · g.guards) pool_eq, made_eq, destroyed_eq⟩

/-- A factory of consecutive numbers of which the even ones cannot be readied. -/
def evenAsleep : Factory Nat Nat :=
  { evenNumbers with
    activate number next :=
      if number % 2 = 0 then .refused (.creation "asleep") number next else .done number next }

/-- Of two idle numbers the first is not ready for a borrower. It is lost, and the second is not. -/
theorem session_refusals_evenAsleep :
    let pool : Pool (Numbered Nat) := ⟨"numbers", .fixed 2, [], 0, 0, false⟩
    let reached := session evenAsleep.numbered [.add, .add] (ofPool pool) (.blank 0)
    let asked := reached.1.checkout evenAsleep.numbered "a" reached.2
    Pool.new "numbers" (.fixed 2) = .ok pool ∧
      asked.1 = .refused (.activation "Failed to create pooled object: asleep") ∧
      asked.2.1 = ⟨⟨"numbers", .fixed 2, [⟨1, 1⟩], 0, 1, false⟩, []⟩ ∧
      asked.2.2.destroyed = [0] := by
  intro pool reached asked
  have made : Pool.new "numbers" (.fixed 2) = .ok pool := rfl
  have refused : asked.1 = .refused (.activation "Failed to create pooled object: asleep") := rfl
  have lost : LosesOldest evenAsleep reached.1 reached.2 ⟨0, 0⟩ [⟨1, 1⟩] _ asked.2.1 asked.2.2 :=
    ((session_refusals made evenAsleep [.add, .add] 0).2 reached.2 _).2 "a" refused
  exact ⟨made, refused, lost.left_eq, lost.destroyed_eq⟩

end Guarded

end IntegrationHost.Pool
