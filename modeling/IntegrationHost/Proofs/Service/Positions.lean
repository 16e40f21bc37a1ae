import IntegrationHost.Proofs.Pool.Custody
import IntegrationHost.Proofs.Service.Register

/-!
# Where workers are, and in which states

The position of a worker tells its state. What lies idle is initialised if it was never lent, and
stopped otherwise; what is in a guard is started; and what has left its pool for good is closed, and
was closed once. A service that could not be initialised hears nothing more. All of this holds after
every use of a crew, whatever services do at their hooks and at messages.
-/

namespace IntegrationHost

open Lifecycle Service
open Service (Registered)
open Pool (Numbered)

variable {ω C : Type}

namespace Service

/-! ## Positions -/

namespace Registered

/-- A worker that was initialised with success at first and was not closed since. -/
structure Alive (w : Registered C) : Prop where
  admitted : [⟨.init, true⟩] <+: w.component.calls
  unclosed : closings w = 0

/-- A worker that lies idle, where those with the numbers `lent` were lent before. -/
structure Idle (lent : List Nat) (w : Registered C) : Prop where
  position : (w.state = .initialised ∧ number w ∉ lent) ∨ (w.state = .stopped ∧ number w ∈ lent)
  alive : Alive w

/-- A worker that is lent. -/
structure Lent (lent : List Nat) (w : Registered C) : Prop where
  started : w.state = .started
  known : number w ∈ lent
  alive : Alive w

/-- A worker that has left its pool for good. -/
structure Dismissed (w : Registered C) : Prop where
  admitted : [⟨.init, true⟩] <+: w.component.calls
  closed : w.state = .closed
  once : closings w = 1

/-- A service that could not be initialised, and heard of nothing else. -/
def Refused (w : Registered C) : Prop :=
  w.component.calls = [⟨.init, false⟩]

variable {lent more : List Nat} {w : Registered C}

theorem Idle.atRest (idle : Idle lent w) : w.state.AtRest :=
  idle.position.imp And.left And.left

/-- When others are lent an idle worker stays what it is. -/
theorem Idle.append (idle : Idle lent w) (others : number w ∉ more) : Idle (lent ++ more) w := by
  refine ⟨?_, idle.alive⟩
  simp only [List.mem_append, others, or_false]
  exact idle.position

theorem Lent.append (isLent : Lent lent w) (more : List Nat) : Lent (lent ++ more) w :=
  ⟨isLent.started, List.mem_append_left more isLent.known, isLent.alive⟩

end Registered

open Registered

/-- What is in a register about the workers that are in no pool any more, where workers with the
numbers `lent` were lent. -/
structure Register.Sound (lent : List Nat) (r : Register ω C) : Prop where
  known : ∀ n ∈ lent, n < r.made
  refused : ∀ w ∈ r.refused, Refused w
  gone : ∀ w ∈ r.gone, Dismissed w

/-- What lies idle in a pool is where it should be, and so is what is in the register. -/
structure Arranged (lent : List Nat) (pool : Pool (Registered C)) (r : Register ω C) : Prop where
  idle : ∀ w ∈ pool.idle, Idle lent w
  sound : r.Sound lent

/-! ## What the calls of the factory do -/

section

variable {b : Behaviour ω C} {p : Prototype ω C} {lent : List Nat} {w : Registered C}
  {r : Register ω C}

theorem Register.Sound.carry {ε α : Type} (sound : r.Sound lent) (a : Attempt ε ω α) :
    (r.carry a).world.Sound lent :=
  ⟨sound.known, sound.refused, sound.gone⟩

/-- A worker that is made is initialised and was not lent yet. -/
theorem Register.Sound.make (sound : r.Sound lent) :
    (∃ error left, (b.register p).factory.make r = (.error error, left) ∧ left.Sound lent ∧
        left.made = r.made ∧ left.attempts = r.attempts ++ [some error]) ∨
      ∃ w left, (b.register p).factory.make r = (.ok w, left) ∧ left.Sound lent ∧
        Idle lent w ∧ w.state = .initialised ∧ number w = r.made ∧ left.made = r.made + 1 ∧
        left.attempts = r.attempts ++ [none] := by
  rcases registerMake_cases b p r with
    ⟨_, _, failed, isFailed, _, made⟩ | ⟨_, w, state, calls_eq, isNumber, _, made⟩
  · refine Or.inl ⟨_, _, made, ⟨sound.known, ?_, sound.gone⟩, rfl, rfl⟩
    exact List.forall_mem_append.mpr ⟨sound.refused, isFailed⟩
  · have notLent : number w ∉ lent := by
      intro isLent
      exact absurd (sound.known _ isLent) (isNumber ▸ Nat.lt_irrefl _)
    have alive : Alive w := by
      constructor
      · exact calls_eq ▸ List.prefix_rfl
      · rw [closings, calls_eq]
        rfl
    refine Or.inr ⟨w, _, made, ⟨?_, sound.refused, sound.gone⟩, ⟨Or.inl ⟨state, notLent⟩, alive⟩,
      state, isNumber, rfl, rfl⟩
    exact fun n isLent => Nat.lt_succ_of_lt (sound.known n isLent)

/-- A worker that is destroyed is closed once. -/
theorem Register.Sound.destroy (sound : r.Sound lent) (isOpen : w.state ≠ .closed)
    (alive : Alive w) : ((b.register p).factory.destroy w r).Sound lent := by
  have dismissed : Dismissed (w.request b.registered.hooks .close r.world).value := by
    refine ⟨alive.admitted.trans (request_calls b .close w r.world),
      Managed.request_close_state _ _, (request_close isOpen r.world).trans ?_⟩
    rw [alive.unclosed]
  exact ⟨sound.known, sound.refused,
    List.forall_mem_append.mpr ⟨sound.gone, List.forall_mem_singleton.mpr dismissed⟩⟩

theorem Register.Sound.destroyAll (sound : r.Sound lent) {idle : List (Registered C)}
    (all : ∀ w ∈ idle, Idle lent w) :
    (Pool.destroyAll (b.register p).factory idle r).Sound lent := by
  induction idle generalizing r with
  | nil => exact sound
  | cons w rest ih =>
      obtain ⟨isIdle, restIdle⟩ := List.forall_mem_cons.mp all
      exact ih (sound.destroy isIdle.atRest.ne_closed isIdle.alive) restIdle

/-- An idle worker is started when it is readied, and is at rest when that fails. -/
theorem activate_idle (b : Behaviour ω C) (p : Prototype ω C) (idle : Idle lent w)
    (r : Register ω C) :
    let readied := (b.register p).factory.activate w r
    number readied.value = number w ∧ Alive readied.value ∧
      ((readied.verdict = .ok () ∧ readied.value.state = .started) ∨
        ∃ error, readied.verdict = .error error ∧ readied.value.state.AtRest) := by
  intro readied
  obtain ⟨closings_eq, whenOk, whenError⟩ :=
    request_start (b := b) idle.atRest r.world
  have verdict_eq : readied.verdict =
      (w.request b.registered.hooks .start r.world).verdict.mapError fun error =>
        .activation error.message := rfl
  have alive : Alive readied.value :=
    ⟨idle.alive.admitted.trans (request_calls b .start w r.world),
      closings_eq.trans idle.alive.unclosed⟩
  refine ⟨request_number b .start w r.world, alive, ?_⟩
  cases verdict : (w.request b.registered.hooks .start r.world).verdict with
  | ok _ =>
      rw [verdict] at verdict_eq
      exact Or.inl ⟨verdict_eq, whenOk verdict⟩
  | error error =>
      rw [verdict] at verdict_eq
      have atRest := idle.atRest
      rw [← whenError error verdict] at atRest
      exact Or.inr ⟨_, verdict_eq, atRest⟩

/-- Stopping a worker always succeeds. -/
theorem passivate_eq (b : Behaviour ω C) (p : Prototype ω C) (w : Registered C)
    (r : Register ω C) :
    let readied := (b.register p).factory.passivate w r
    readied.verdict = .ok () ∧ number readied.value = number w ∧
      (Alive w → Alive readied.value) ∧
      readied.value.state = if w.state = .started then .stopped else w.state := by
  intro readied
  obtain ⟨succeeded, closings_eq⟩ := request_stop b w r.world
  have verdict_eq : readied.verdict =
      (w.request b.registered.hooks .stop r.world).verdict.mapError fun error =>
        .passivation error.message := rfl
  rw [succeeded] at verdict_eq
  refine ⟨verdict_eq, request_number b .stop w r.world, fun alive => ⟨?_, ?_⟩,
    Managed.request_stop_state _ _⟩
  · exact alive.admitted.trans (request_calls b .stop w r.world)
  · exact closings_eq.trans alive.unclosed

/-- Stopping a worker that was only initialised leaves it as idle as it is. -/
theorem Registered.Idle.passivate (idle : Idle lent w) (state : w.state = .initialised)
    (b : Behaviour ω C) (p : Prototype ω C) (r : Register ω C) :
    Idle lent ((b.register p).factory.passivate w r).value := by
  obtain ⟨_, number_eq, alive, state_eq⟩ := passivate_eq b p w r
  rw [state, if_neg (by decide), ← state] at state_eq
  refine ⟨?_, alive idle.alive⟩
  rw [number_eq, state_eq]
  exact idle.position

/-- A worker that comes back is fit to be lent again only when it is stopped. -/
theorem inspect_lent (b : Behaviour ω C) (p : Prototype ω C) (isLent : Lent lent w)
    (sound : r.Sound lent) :
    let looked := Pool.inspect (b.register p).factory w r
    looked.2.2.Sound lent ∧ looked.2.1.state ≠ .closed ∧ Alive looked.2.1 ∧
      (looked.1 = true → Idle lent looked.2.1) := by
  intro looked
  obtain ⟨_, isNumber, alive, state⟩ := passivate_eq b p w r
  rw [isLent.started, if_pos rfl] at state
  have known := isLent.known
  rw [← isNumber] at known
  by_cases valid : ((b.register p).factory.validate w r).1 = true
  · have looked_eq : looked = (((b.register p).factory.passivate w r).succeeded,
        ((b.register p).factory.passivate w r).value,
        ((b.register p).factory.passivate w r).world) := if_pos valid
    rw [looked_eq]
    exact ⟨sound.carry _, by rw [state]; decide, alive isLent.alive,
      fun _ => ⟨Or.inr ⟨state, known⟩, alive isLent.alive⟩⟩
  · have looked_eq : looked = (false, w, r) := if_neg valid
    rw [looked_eq]
    exact ⟨sound, by rw [isLent.started]; decide, isLent.alive, nofun⟩

end

/-! ## What each operation of a pool does -/

namespace Arranged

variable {b : Behaviour ω C} {p : Prototype ω C} {lent : List Nat} {pool : Pool (Registered C)}
  {r : Register ω C}

theorem add (arranged : Arranged lent pool r) :
    Arranged lent (pool.add (b.register p).factory r).value
      (pool.add (b.register p).factory r).world := by
  rcases Pool.add_cases (b.register p).factory pool r with
    ⟨_, _, eq⟩ | ⟨_, left, called, eq⟩ | ⟨w, left, _, called, failed, eq⟩ |
    ⟨w, left, _, _, called, _, eq⟩ <;> rw [eq]
  · exact arranged
  all_goals
    rcases arranged.sound.make (b := b) (p := p) with
      ⟨_, _, made, sound, _⟩ | ⟨_, _, made, sound, idle, state, _⟩ <;>
      cases made.symm.trans called
  · exact ⟨arranged.idle, sound⟩
  · cases failed.symm.trans (passivate_eq b p w left).1
  · have passivated := idle.passivate state b p left
    exact ⟨List.forall_mem_append.mpr ⟨arranged.idle, List.forall_mem_singleton.mpr passivated⟩,
      sound.carry _⟩

theorem replenish (arranged : Arranged lent pool r) :
    Arranged lent (pool.replenish (b.register p).factory r).1
      (pool.replenish (b.register p).factory r).2 := by
  rcases Pool.replenish_cases (b.register p).factory pool r with ⟨_, _, eq⟩ | ⟨_, eq⟩ <;> rw [eq]
  · exact arranged.add
  · exact arranged

/-- What is lent is started, and what stays idle was lent as often as before. -/
theorem lend (arranged : Arranged lent pool r) {w : Registered C} (idle : Idle lent w)
    (known : number w < r.made) (others : ∀ other ∈ pool.idle, number other ≠ number w) :
    let left := pool.lend (b.register p).factory w r
    let now := lent ++ left.1.objects.map number
    (∀ worker ∈ left.1.objects, Lent now worker) ∧ Arranged now left.2.1 left.2.2 := by
  intro left now
  obtain ⟨number_eq, alive, state⟩ := activate_idle b p idle r
  rcases Pool.lend_cases (b.register p).factory pool w r with
    ⟨succeeded, eq⟩ | ⟨error, failed, eq⟩
  · have started := state.resolve_right fun ⟨_, failed, _⟩ => by cases failed.symm.trans succeeded
    have now_eq : now = lent ++ [number w] := by
      rw [← number_eq]
      simp only [now, left, eq, Pool.Loan.objects, List.map_singleton]
    simp only [left, eq, now_eq, Pool.Loan.objects]
    refine ⟨List.forall_mem_singleton.mpr ⟨started.2, ?_, alive⟩, ?_, ?_⟩
    · rw [number_eq]
      exact List.mem_append_right _ (List.mem_singleton_self _)
    · intro other isIdle
      refine (arranged.idle other isIdle).append fun same => ?_
      exact others other isIdle (List.mem_singleton.mp same)
    · refine ⟨List.forall_mem_append.mpr ⟨arranged.sound.known, ?_⟩, arranged.sound.refused,
        arranged.sound.gone⟩
      exact List.forall_mem_singleton.mpr known
  · obtain ⟨_, _, atRest⟩ := state.resolve_left fun started => by
      cases failed.symm.trans started.1
    have now_eq : now = lent := by
      simp only [now, left, eq, Pool.Loan.objects, List.map_nil, List.append_nil]
    simp only [left, eq, now_eq, Pool.Loan.objects]
    exact ⟨List.forall_mem_nil _, arranged.idle,
      (arranged.sound.carry _).destroy atRest.ne_closed alive⟩

/-- What a borrower gets is started. -/
theorem borrow (arranged : Arranged lent pool r) {held : List Nat}
    (spread : Pool.Spread (pool.idle.map number) held (r.gone.map number) r.made) :
    let left := pool.borrow (b.register p).factory r
    let now := lent ++ left.1.objects.map number
    (∀ worker ∈ left.1.objects, Lent now worker) ∧ Arranged now left.2.1 left.2.2 := by
  intro left now
  rcases Pool.borrow_cases (b.register p).factory pool r with
    ⟨_, loan, none, eq⟩ | ⟨w, rest, _, idle_eq, eq⟩ | ⟨_, world, _, called, eq⟩ |
    ⟨w, world, _, idle_eq, _, called, eq⟩
  · simp only [now, left, eq, none, List.map_nil, List.append_nil]
    exact ⟨List.forall_mem_nil _, arranged⟩
  · rw [idle_eq] at spread
    have known : number w < r.made := spread.below (List.mem_map_of_mem List.mem_cons_self)
    -- No other idle worker has the number of the one that is lent.
    have ⟨notAgain, _⟩ := List.nodup_cons.mp spread.nodup
    have idle := arranged.idle
    rw [idle_eq] at idle
    obtain ⟨isIdle, restIdle⟩ := List.forall_mem_cons.mp idle
    have inHand : Arranged lent { pool with idle := rest, active := pool.active + 1 } r :=
      ⟨restIdle, arranged.sound⟩
    simp only [now, left, eq]
    refine inHand.lend isIdle known fun other member same => notAgain ?_
    exact same ▸ List.mem_map_of_mem member
  all_goals
    rcases arranged.sound.make (b := b) (p := p) with
      ⟨_, _, made, sound, _⟩ | ⟨_, _, made, sound, isIdle, _, number_eq, made_eq, _⟩ <;>
      cases made.symm.trans called
  · simp only [now, left, eq, Pool.Loan.objects, List.map_nil, List.append_nil]
    exact ⟨List.forall_mem_nil _, arranged.idle, sound⟩
  · have known : number w < world.made := by
      rw [number_eq, made_eq]
      exact Nat.lt_succ_self _
    have inHand : Arranged lent
        { pool with active := pool.active + 1, allocated := pool.allocated + 1 } world :=
      ⟨arranged.idle, sound⟩
    simp only [now, left, eq]
    refine inHand.lend isIdle known fun other member => ?_
    simp [idle_eq] at member

/-- What comes back is laid idle or is dismissed. -/
theorem giveBack (arranged : Arranged lent pool r) {w : Registered C} (isLent : Lent lent w) :
    Arranged lent (pool.giveBack (b.register p).factory w r).1
      (pool.giveBack (b.register p).factory w r).2 := by
  obtain ⟨sound, isOpen, alive, fit⟩ := inspect_lent b p isLent arranged.sound
  rcases Pool.giveBack_cases (b.register p).factory pool w r with
    ⟨_, eq⟩ | ⟨isFit, _, _, eq⟩ | eq <;> rw [eq]
  · exact ⟨arranged.idle, sound.destroy (p := p) isOpen alive⟩
  · exact ⟨List.forall_mem_append.mpr
      ⟨arranged.idle, List.forall_mem_singleton.mpr (fit isFit)⟩, sound⟩
  · have vacated : Arranged lent
        { pool with active := pool.active - 1, allocated := pool.allocated - 1 } _ :=
      ⟨arranged.idle, sound.destroy (b := b) (p := p) isOpen alive⟩
    exact vacated.replenish

/-- What is given up while it is lent is dismissed. -/
theorem invalidate (arranged : Arranged lent pool r) {w : Registered C} (isLent : Lent lent w) :
    Arranged lent (pool.invalidate (b.register p).factory w r).1
      (pool.invalidate (b.register p).factory w r).2 := by
  have isOpen : w.state ≠ .closed := by
    rw [isLent.started]
    decide
  have sound := arranged.sound.destroy (b := b) (p := p) isOpen isLent.alive
  rcases Pool.invalidate_cases (b.register p).factory pool w r with ⟨_, eq⟩ | eq <;> rw [eq]
  · exact ⟨arranged.idle, sound⟩
  · have vacated : Arranged lent
        { pool with active := pool.active - 1, allocated := pool.allocated - 1 } _ :=
      ⟨arranged.idle, sound⟩
    exact vacated.replenish

theorem close (arranged : Arranged lent pool r) :
    Arranged lent (pool.close (b.register p).factory r).1
      (pool.close (b.register p).factory r).2 :=
  ⟨List.forall_mem_nil _, arranged.sound.destroyAll arranged.idle⟩

end Arranged

/-! ## Crews in a register -/

/-- A crew whose services have numbers and records. -/
abbrev RegisteredCrew (C : Type) := Crew (Recorded (Numbered C))

namespace Crew

/-- What lies idle and what is in a guard of a crew is where it should be. -/
structure Placed (lent : List Nat) (g : RegisteredCrew C) (r : Register ω C) : Prop where
  arranged : Arranged lent g.pool r
  guards : ∀ guard ∈ g.guards, Lent lent guard.2

/-- A crew with guards of different names and every worker in one place, where it should be. -/
structure Orderly (lent : List Nat) (g : RegisteredCrew C) (r : Register ω C) : Prop where
  placed : Placed lent g r
  distinct : g.Distinct
  custody : (g.map unrecorded).Custody r.ledger

variable {b : Behaviour ω C} {p : Prototype ω C} {lent : List Nat} {g : RegisteredCrew C}
  {r : Register ω C}

/-- The numbers of the workers that lie idle. -/
def idleNumbers (g : RegisteredCrew C) : List Nat :=
  g.pool.idle.map number

/-- The numbers of the workers in guards. -/
def guardNumbers (g : RegisteredCrew C) : List Nat :=
  g.guards.map fun guard => number guard.2

theorem numbers_idle (g : RegisteredCrew C) :
    Pool.numbers (g.map unrecorded).pool.idle = idleNumbers g :=
  List.map_map

theorem held_eq (g : RegisteredCrew C) : (g.map unrecorded).held = guardNumbers g := by
  simp only [Pool.Guarded.held, Pool.numbers, Pool.Guarded.map, List.map_map]
  rfl

/-- Each worker that was made is idle, in a guard or gone. -/
theorem spread (custody : (g.map unrecorded).Custody r.ledger) :
    Pool.Spread (idleNumbers g) (guardNumbers g) (r.gone.map number) r.made := by
  have spread := custody.spread
  rw [numbers_idle, held_eq] at spread
  exact spread

/-! ### What is in guards -/

namespace Placed

theorem isLent (placed : Placed lent g r) {name : String} {worker : Registered C}
    (found : g.guards.lookup name = some worker) : Lent lent worker := by
  have all : ∀ worker ∈ g.guards.map Prod.snd, Lent lent worker :=
    List.forall_mem_map.mpr placed.guards
  exact all worker ((Pool.Guarded.perm_without found).mem_iff.mpr List.mem_cons_self)

theorem release (placed : Placed lent g r) (how : Pool.Release) (name : String) :
    Placed lent (g.release (b.register p).factory how name r).1
      (g.release (b.register p).factory how name r).2 := by
  unfold Pool.Guarded.release
  cases found : g.guards.lookup name with
  | none => exact placed
  | some worker =>
      have isLent := placed.isLent found
      have others : ∀ guard ∈ Pool.Guarded.without name g.guards, Lent lent guard.2 :=
        fun guard member =>
          placed.guards guard ((Pool.Guarded.without_sublist name g.guards).subset member)
      cases how with
      | checkin => exact ⟨placed.arranged.giveBack isLent, others⟩
      | invalidate => exact ⟨placed.arranged.invalidate isLent, others⟩

theorem checkout (placed : Placed lent g r)
    (spread : Pool.Spread (idleNumbers g) (guardNumbers g) (r.gone.map number) r.made)
    (name : String) :
    let left := g.checkout (b.register p).factory name r
    Placed (lent ++ left.1.objects.map number) left.2.1 left.2.2 := by
  have borrowed := placed.arranged.borrow (b := b) (p := p) spread
  unfold Pool.Guarded.checkout
  generalize g.pool.borrow (b.register p).factory r = left at borrowed ⊢
  rcases left with ⟨loan, pool, r⟩
  have guards := fun guard member => (placed.guards guard member).append (loan.objects.map number)
  cases loan with
  | refused error => exact ⟨borrowed.2, guards⟩
  | waits => exact ⟨borrowed.2, guards⟩
  | lent worker =>
      have isLent := borrowed.1 worker (List.mem_singleton_self worker)
      have inHand : Placed (lent ++ [number worker]) { g with pool } r := ⟨borrowed.2, guards⟩
      have released := inHand.release (b := b) (p := p) .checkin name
      exact ⟨released.arranged, List.forall_mem_cons.mpr ⟨isLent, released.guards⟩⟩

/-- Workers are not moved by messages, whatever comes of them. -/
theorem process (placed : Placed lent g r) (name : String) (message : Message) :
    Placed lent (use (b.register p) (.process name message) g r).1
      (use (b.register p) (.process name message) g r).2 := by
  simp only [use]
  cases found : g.get? name with
  | none => exact placed
  | some worker =>
      have isLent := placed.isLent found
      have sound : Register.Sound lent ((b.register p).work worker message r).2 :=
        ⟨placed.arranged.sound.known, placed.arranged.sound.refused, placed.arranged.sound.gone⟩
      have worked : Lent lent ((b.register p).work worker message r).1 :=
        ⟨isLent.started, isLent.known, isLent.alive.admitted, isLent.alive.unclosed⟩
      exact ⟨⟨placed.arranged.idle, sound⟩, Pool.Guarded.forall_update placed.guards worked⟩

end Placed

/-! ### What each use does -/

/-- Each use of a crew keeps every worker in one place. -/
theorem custody_use (distinct : g.Distinct) (custody : (g.map unrecorded).Custody r.ledger)
    (u : Use) :
    ((use (b.register p) u g r).1.map unrecorded).Custody (use (b.register p) u g r).2.ledger := by
  cases u with
  | warmup size =>
      refine WorkerPlan.fillUp_keeps (P := fun pool (r : Register ω C) =>
        (pool.map unrecorded).Custody (g.map unrecorded).held r.ledger) ?_ size custody
      intro pool r custody
      -- Custody is known of the numbered factory, of which the register tells more.
      have added := Pool.Custody.add custody (workerFactory b p)
      rw [Pool.add_map (ledger_projection b p)] at added
      exact added
  | pool u =>
      have used := Pool.Guarded.custody_use custody (workerFactory b p) u
      rw [Pool.Guarded.use_map (ledger_projection b p)] at used
      exact used
  | process name message =>
      simp only [use]
      cases found : g.get? name with
      | none => exact custody
      | some worker =>
          have sameHeld : ((g.update name ((b.register p).work worker message r).1).map
              unrecorded).held = (g.map unrecorded).held := by
            rw [held_eq, held_eq]
            exact Pool.Guarded.update_read distinct found rfl
          refine ⟨?_, custody.closed_idle⟩
          rw [sameHeld]
          exact custody.spread

/-- Nothing was lent besides. -/
theorem Placed.unlent (placed : Placed lent g r) :
    Placed (lent ++ ([] : List (Registered C)).map number) g r := by
  rw [List.map_nil, List.append_nil]
  exact placed

/-- Each use of a crew leaves everything where it should be, and only a checkout lends. -/
theorem Placed.use (placed : Placed lent g r)
    (spread : Pool.Spread (idleNumbers g) (guardNumbers g) (r.gone.map number) r.made) (u : Use) :
    let left := Crew.use (b.register p) u g r
    Placed (lent ++ (u.lent (b.register p) g r).map number) left.1 left.2 := by
  intro left
  cases u with
  | warmup size =>
      have filled := WorkerPlan.fillUp_keeps (P := Arranged lent)
        (fun _ _ => Arranged.add (b := b) (p := p)) size placed.arranged
      exact Placed.unlent ⟨filled, placed.guards⟩
  | process name message => exact (placed.process name message).unlent
  | pool u =>
      cases u with
      | add => exact Placed.unlent ⟨placed.arranged.add, placed.guards⟩
      | checkout name => exact placed.checkout spread name
      | release how name => exact (placed.release how name).unlent
      | close => exact Placed.unlent ⟨placed.arranged.close, placed.guards⟩

/-- Each use of a crew keeps it in order. -/
theorem Orderly.use (orderly : Orderly lent g r) (u : Use) :
    let left := Crew.use (b.register p) u g r
    Orderly (lent ++ (u.lent (b.register p) g r).map number) left.1 left.2 where
  placed := orderly.placed.use (spread orderly.custody) u
  distinct := distinct_use orderly.distinct u
  custody := custody_use orderly.distinct orderly.custody u

theorem Orderly.session (orderly : Orderly lent g r) (uses : List Use) :
    let left := Crew.session (b.register p) uses g r
    Orderly (lent ++ (Crew.lent (b.register p) uses g r).map number) left.1 left.2 := by
  induction uses generalizing lent g r with
  | nil =>
      simp only [Crew.lent, List.map_nil, List.append_nil]
      exact orderly
  | cons first rest ih =>
      simp only [Crew.lent, List.map_append, ← List.append_assoc]
      exact ih (orderly.use first)

/-- A new pool is in order, with nothing in it. -/
theorem Orderly.new {name : String} {config : Pool.Config} {pool : Pool (Registered C)}
    (made : Pool.new name config = .ok pool) (world : ω) :
    Orderly [] (.ofPool pool) (.blank world) := by
  have custody := Pool.Custody.new (Pool.new_map made unrecorded) world
  obtain ⟨_, rfl⟩ := Pool.new_eq_ok_iff.mp made
  have sound : Register.Sound [] (Register.blank (C := C) world) :=
    ⟨List.forall_mem_nil _, List.forall_mem_nil _, List.forall_mem_nil _⟩
  exact ⟨⟨⟨List.forall_mem_nil _, sound⟩, List.forall_mem_nil _⟩, List.nodup_nil, custody⟩

/-- After any session with a new pool of workers, whatever their services do: the session in the
register is the session of the workers themselves. What lies idle is initialised if it was never
lent and stopped otherwise, what is in guards is started, and what was destroyed is closed and was
closed once; all of these were initialised with success at first. A service that could not be
initialised has heard of nothing else. And each worker that was made is idle, in a guard or
destroyed, in one of these places and there once. -/
theorem session_positions {name : String} {config : Pool.Config} {pool : Pool (Registered C)}
    (made : Pool.new name config = .ok pool) (b : Behaviour ω C) (p : Prototype ω C)
    (uses : List Use) (world : ω) :
    let left := session (b.register p) uses (.ofPool pool) (.blank world)
    let g := left.1
    let r := left.2
    let lent := (Crew.lent (b.register p) uses (.ofPool pool) (.blank world)).map number
    Pool.new name config = .ok (pool.map plain) ∧
      session (b.craft p) uses (.ofPool (pool.map plain)) world = (g.map plain, r.world) ∧
      (∀ w ∈ g.pool.idle,
        (w.state = .initialised ∧ number w ∉ lent) ∨ (w.state = .stopped ∧ number w ∈ lent)) ∧
      (∀ guard ∈ g.guards, guard.2.state = .started) ∧
      (∀ w ∈ r.gone, w.state = .closed ∧ closings w = 1) ∧
      (∀ w ∈ g.pool.idle ++ g.guards.map Prod.snd ++ r.gone,
        [⟨.init, true⟩] <+: w.component.calls) ∧
      (∀ w ∈ r.refused, w.component.calls = [⟨.init, false⟩]) ∧
      ∀ n, (idleNumbers g).count n + (guardNumbers g).count n + (r.gone.map number).count n =
        if n < r.made then 1 else 0 := by
  intro left g r lent
  have orderly : Orderly lent g r := (Orderly.new made world).session uses
  have plainly := session_map (register_projection b p) uses (.ofPool pool) (.blank world)
  have placed := orderly.placed
  have sound := placed.arranged.sound
  refine ⟨Pool.new_map made plain, plainly,
    fun w isIdle => (placed.arranged.idle w isIdle).position,
    fun guard member => (placed.guards guard member).started,
    fun w isGone => ⟨(sound.gone w isGone).closed, (sound.gone w isGone).once⟩, ?_, sound.refused,
    spread orderly.custody⟩
  refine List.forall_mem_append.mpr ⟨List.forall_mem_append.mpr ⟨?_, ?_⟩, ?_⟩
  · exact fun w isIdle => (placed.arranged.idle w isIdle).alive.admitted
  · exact List.forall_mem_map.mpr fun guard member => (placed.guards guard member).alive.admitted
  · exact fun w isGone => (sound.gone w isGone).admitted

end Crew

/-- Services with consecutive numbers, of which every third cannot be initialised. -/
def fickle : Behaviour Nat Nat where
  hooks := ⟨fun event service next =>
    if event = .init ∧ service % 3 = 2 then .refused (.reported "not me") service next
    else .done service next⟩
  uniqueId _ := "fickle"
  process service message next := .done (service, message) next
  isValid _ := true

/-- What they are made from. -/
def fickleOnes : Prototype Nat Nat :=
  ⟨"fickle", fun next => (.ok next, next + 1)⟩

namespace Crew

/-- Of three workers one is destroyed, one has come back and one is lent, and what was asked for
then could not be initialised. -/
theorem session_positions_fickle :
    let pool : Pool (Registered Nat) := ⟨"fickle", .fixed 3, [], 0, 0, false⟩
    let uses : List Use := [.warmup 2, .pool (.checkout "a"), .pool (.checkout "b"),
      .process "a" (.plain "text" .empty), .pool .add, .pool .add,
      .pool (.release .invalidate "a"), .pool (.release .checkin "b"), .pool (.checkout "c")]
    let left := session (fickle.register fickleOnes) uses (.ofPool pool) (.blank 0)
    Pool.new "fickle" (.fixed 3) = .ok pool ∧ left.2.made = 4 ∧
      left.2.refused.map (fun w => w.component.service.object) = [2] ∧
      (∀ w ∈ left.2.refused, w.component.calls = [⟨.init, false⟩]) ∧
      left.2.gone.map number = [0] ∧ (∀ w ∈ left.2.gone, w.state = .closed ∧ closings w = 1) ∧
      guardNumbers left.1 = [2] ∧ ∀ guard ∈ left.1.guards, guard.2.state = .started := by
  intro pool uses left
  have made : Pool.new "fickle" (.fixed 3) = .ok pool := rfl
  obtain ⟨-, -, -, started, gone, -, refused, -⟩ :=
    session_positions made fickle fickleOnes uses 0
  exact ⟨made, by decide, by decide, refused, by decide, gone, by decide, started⟩

end Crew

end Service

end IntegrationHost
