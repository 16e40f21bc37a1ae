import IntegrationHost.Proofs.Pool.Accounting

/-!
# The upkeep of a pool

A factory tends its objects when its calls turn idle objects into lent ones and back, and when the
surroundings keep count of the objects that live: one more when an object is made, one less when it
is destroyed. The idle objects of an open pool are then idle ones indeed, and as many objects live
as the pool counts, whichever calls of the factory fail.
-/

namespace IntegrationHost.Pool

variable {ω T : Type}

/-- The calls of a factory lead from idle objects to lent ones and back, and `Live` counts the
objects. An object that could not be readied is still one of the two. -/
structure Factory.Tends (Idle Lent : T → Prop) (Live : ω → Nat → Prop) (factory : Factory ω T) :
    Prop where
  make_ok : ∀ {world left count object}, Live world count →
    factory.make world = (.ok object, left) → Idle object ∧ Live left (count + 1)
  make_error : ∀ {world left count error}, Live world count →
    factory.make world = (.error error, left) → Live left count
  validate : ∀ object {world count}, Live world count →
    Live (factory.validate object world).2 count
  activate : ∀ {object world count}, Idle object → Live world count →
    Live (factory.activate object world).world count
  activate_ok : ∀ {object world}, Idle object → (factory.activate object world).verdict = .ok () →
    Lent (factory.activate object world).value
  activate_either : ∀ {object world}, Idle object →
    Idle (factory.activate object world).value ∨ Lent (factory.activate object world).value
  passivate : ∀ {object world count}, Idle object ∨ Lent object → Live world count →
    Live (factory.passivate object world).world count
  passivate_ok : ∀ {object world}, Idle object ∨ Lent object →
    (factory.passivate object world).verdict = .ok () → Idle (factory.passivate object world).value
  passivate_either : ∀ {object world}, Idle object ∨ Lent object →
    Idle (factory.passivate object world).value ∨ Lent (factory.passivate object world).value
  destroy : ∀ {object world count}, Idle object ∨ Lent object → Live world (count + 1) →
    Live (factory.destroy object world) count

/-- An open pool of some configuration that has lent `lent` objects: the others are idle, and as
many live as are counted. -/
structure Tended (Idle : T → Prop) (Live : ω → Nat → Prop) (pool : Pool T) (config : Config)
    (lent : Nat) (world : ω) : Prop where
  opened : pool.closed = false
  balanced : pool.Balanced config lent
  idle : ∀ object ∈ pool.idle, Idle object
  live : Live world pool.allocated

variable {Idle Lent : T → Prop} {Live : ω → Nat → Prop} {factory : Factory ω T} {pool : Pool T}
  {config : Config} {lent : Nat} {world : ω}

namespace Tended

theorem new {name : String} (made : Pool.new name config = .ok pool) (none : Live world 0) :
    pool.Tended Idle Live config 0 world := by
  have balanced := Balanced.new made
  obtain ⟨_, rfl⟩ := new_eq_ok_iff.mp made
  exact ⟨rfl, balanced, List.forall_mem_nil Idle, none⟩

section

variable (tends : factory.Tends Idle Lent Live)

include tends

theorem add (tended : pool.Tended Idle Live config lent world) :
    (pool.add factory world).value.Tended Idle Live config lent (pool.add factory world).world := by
  have balanced := tended.balanced.add factory world
  rcases add_cases factory pool world with
    ⟨_, _, eq⟩ | ⟨_, left, called, eq⟩ | ⟨object, left, _, called, _, eq⟩ |
    ⟨object, left, _, _, called, readied, eq⟩ <;> rw [eq] at balanced ⊢
  · exact tended
  · exact ⟨tended.opened, tended.balanced, tended.idle, tends.make_error tended.live called⟩
  · obtain ⟨isIdle, live⟩ := tends.make_ok tended.live called
    have stillLive := tends.passivate (Or.inl isIdle) live
    exact ⟨tended.opened, tended.balanced, tended.idle,
      tends.destroy (tends.passivate_either (Or.inl isIdle)) stillLive⟩
  · obtain ⟨isIdle, live⟩ := tends.make_ok tended.live called
    have laid := tends.passivate_ok (Or.inl isIdle) readied
    have allIdle := List.forall_mem_append.mpr ⟨tended.idle, List.forall_mem_singleton.mpr laid⟩
    exact ⟨tended.opened, balanced, allIdle, tends.passivate (Or.inl isIdle) live⟩

theorem replenish (tended : pool.Tended Idle Live config lent world) :
    (pool.replenish factory world).1.Tended Idle Live config lent
      (pool.replenish factory world).2 := by
  rcases replenish_cases factory pool world with ⟨_, _, eq⟩ | ⟨_, eq⟩ <;> rw [eq]
  · exact tended.add tends
  · exact tended

/-- A lent object is destroyed and counted no longer. -/
theorem vacated (tended : pool.Tended Idle Live config (lent + 1) world) {object : T}
    (either : Idle object ∨ Lent object) :
    { pool with active := pool.active - 1, allocated := pool.allocated - 1 }.Tended Idle Live config
      lent (factory.destroy object world) := by
  refine ⟨tended.opened, tended.balanced.vacated, tended.idle, tends.destroy either ?_⟩
  have allocated_pos := tended.balanced.allocated_pos
  rw [Nat.sub_add_cancel allocated_pos]
  exact tended.live

theorem lend {object : T} (tended : pool.Tended Idle Live config (lent + 1) world)
    (isIdle : Idle object) :
    (∀ o ∈ (pool.lend factory object world).1.objects, Lent o) ∧
      (pool.lend factory object world).2.1.Tended Idle Live config
        (lent + (pool.lend factory object world).1.objects.length)
        (pool.lend factory object world).2.2 := by
  have live := tends.activate isIdle tended.live
  rcases lend_cases factory pool object world with ⟨readied, eq⟩ | ⟨_, _, eq⟩ <;> rw [eq]
  · have isLent := tends.activate_ok isIdle readied
    exact ⟨List.forall_mem_singleton.mpr isLent,
      ⟨tended.opened, tended.balanced, tended.idle, live⟩⟩
  · refine ⟨List.forall_mem_nil _, ?_⟩
    have after : pool.Tended Idle Live config (lent + 1) (factory.activate object world).world :=
      ⟨tended.opened, tended.balanced, tended.idle, live⟩
    exact after.vacated tends (tends.activate_either isIdle)

theorem borrow (tended : pool.Tended Idle Live config lent world) :
    (∀ o ∈ (pool.borrow factory world).1.objects, Lent o) ∧
      (pool.borrow factory world).2.1.Tended Idle Live config
        (lent + (pool.borrow factory world).1.objects.length)
        (pool.borrow factory world).2.2 := by
  rcases borrow_cases factory pool world with
    ⟨_, loan, none, eq⟩ | ⟨object, rest, _, idle_eq, eq⟩ | ⟨_, _, _, called, eq⟩ |
    ⟨object, left, _, _, room, called, eq⟩ <;> rw [eq]
  · rw [none]
    exact ⟨List.forall_mem_nil _, tended⟩
  · have allIdle := tended.idle
    rw [idle_eq] at allIdle
    obtain ⟨isIdle, restIdle⟩ := List.forall_mem_cons.mp allIdle
    have taken : { pool with idle := rest, active := pool.active + 1 }.Tended Idle Live config
        (lent + 1) world :=
      ⟨tended.opened, tended.balanced.taken idle_eq, restIdle, tended.live⟩
    exact taken.lend tends isIdle
  · exact ⟨List.forall_mem_nil _,
      ⟨tended.opened, tended.balanced, tended.idle, tends.make_error tended.live called⟩⟩
  · obtain ⟨isIdle, live⟩ := tends.make_ok tended.live called
    have reserved :
        { pool with active := pool.active + 1, allocated := pool.allocated + 1 }.Tended Idle Live
          config (lent + 1) left :=
      ⟨tended.opened, tended.balanced.reserved room, tended.idle, live⟩
    exact reserved.lend tends isIdle

/-- An object that was looked at is still idle or lent, and one that is fit to be lent again is
idle. -/
theorem inspected {object : T} {count : Nat} (isLent : Lent object) (live : Live world count) :
    (Idle (inspect factory object world).2.1 ∨ Lent (inspect factory object world).2.1) ∧
      ((inspect factory object world).1 = true → Idle (inspect factory object world).2.1) ∧
      Live (inspect factory object world).2.2 count := by
  have stillLive := tends.validate object live
  unfold inspect
  dsimp only
  split
  · refine ⟨tends.passivate_either (Or.inr isLent), ?_, tends.passivate (Or.inr isLent) stillLive⟩
    intro succeeded
    exact tends.passivate_ok (Or.inr isLent) (Attempt.succeeded_iff.mp succeeded)
  · exact ⟨Or.inr isLent, fun unfit => (by cases unfit), stillLive⟩

theorem giveBack {object : T} (tended : pool.Tended Idle Live config (lent + 1) world)
    (isLent : Lent object) :
    (pool.giveBack factory object world).1.Tended Idle Live config lent
      (pool.giveBack factory object world).2 := by
  have balanced := tended.balanced.giveBack factory object world
  obtain ⟨either, fitIdle, live⟩ := inspected tends isLent tended.live
  rcases giveBack_cases factory pool object world with
    ⟨noneLent, _⟩ | ⟨fit, _, _, eq⟩ | eq
  · cases noneLent.symm.trans tended.balanced.active_eq
  · rw [eq] at balanced ⊢
    have allIdle :=
      List.forall_mem_append.mpr ⟨tended.idle, List.forall_mem_singleton.mpr (fitIdle fit)⟩
    exact ⟨tended.opened, balanced, allIdle, live⟩
  · rw [eq]
    have after : pool.Tended Idle Live config (lent + 1) (inspect factory object world).2.2 :=
      ⟨tended.opened, tended.balanced, tended.idle, live⟩
    exact (after.vacated tends either).replenish tends

/-- Destroying idle objects leaves the others alive. -/
theorem destroyAll_live {objects : List T} {others : Nat} (allIdle : ∀ o ∈ objects, Idle o)
    (live : Live world (objects.length + others)) :
    Live (destroyAll factory objects world) others := by
  unfold destroyAll
  induction objects generalizing world with
  | nil =>
      rw [List.length_nil, Nat.zero_add] at live
      exact live
  | cons first rest ih =>
      obtain ⟨isIdle, restIdle⟩ := List.forall_mem_cons.mp allIdle
      rw [List.foldl_cons]
      refine ih restIdle (tends.destroy (Or.inl isIdle) ?_)
      rw [List.length_cons, Nat.add_right_comm] at live
      exact live

/-- Closing a pool leaves alive what is lent. -/
theorem close_live (tended : pool.Tended Idle Live config lent world) :
    Live (pool.close factory world).2 lent := by
  refine destroyAll_live tends tended.idle ?_
  have live := tended.live
  rw [tended.balanced.allocated_eq, tended.balanced.active_eq] at live
  exact live

end

end Tended

/-! ## Factories that do not fail -/

/-- A factory whose objects can all be made and readied. Whether they are fit to be lent again is
left open. -/
structure Factory.Serves (Idle Lent : T → Prop) (factory : Factory ω T) : Prop where
  make : ∀ world, ∃ object left, factory.make world = (.ok object, left) ∧ Idle object
  activate : ∀ object world, Idle object →
    (factory.activate object world).verdict = .ok () ∧ Lent (factory.activate object world).value
  passivate : ∀ object world, Idle object ∨ Lent object →
    (factory.passivate object world).verdict = .ok () ∧ Idle (factory.passivate object world).value

namespace Factory.Serves

variable (serves : factory.Serves Idle Lent)

include serves

/-- Such a factory tends its objects, where nobody counts those alive. -/
theorem tends : factory.Tends Idle Lent (fun _ _ => True) where
  make_ok := by
    intro world left count object _ made
    obtain ⟨other, otherLeft, otherMade, isIdle⟩ := serves.make world
    cases otherMade.symm.trans made
    exact ⟨isIdle, trivial⟩
  make_error _ _ := trivial
  validate _ _ _ _ := trivial
  activate _ _ := trivial
  activate_ok isIdle _ := (serves.activate _ _ isIdle).2
  activate_either isIdle := Or.inr (serves.activate _ _ isIdle).2
  passivate _ _ := trivial
  passivate_ok either _ := (serves.passivate _ _ either).2
  passivate_either either := Or.inl (serves.passivate _ _ either).2
  destroy _ _ := trivial

theorem add_ok (tended : pool.Tended Idle Live config lent world)
    (room : pool.allocated < config.maxActive) :
    (pool.add factory world).verdict = .ok () ∧
      (pool.add factory world).value.allocated = pool.allocated + 1 := by
  obtain ⟨object, left, made, isIdle⟩ := serves.make world
  obtain ⟨readied, _⟩ := serves.passivate object left (Or.inl isIdle)
  have notFull : ¬ pool.config.maxActive ≤ pool.allocated := by
    rw [tended.balanced.config_eq]
    exact Nat.not_le_of_lt room
  simp only [Pool.add, tended.opened, Bool.false_eq_true, if_false, if_neg notFull, made, readied]
  exact ⟨rfl, rfl⟩

theorem lend_lent {object : T} (isIdle : Idle object) (pool : Pool T) (world : ω) :
    ∃ lent, (pool.lend factory object world).1 = .lent lent := by
  obtain ⟨readied, _⟩ := serves.activate object world isIdle
  simp only [Pool.lend, readied]
  exact ⟨_, rfl⟩

/-- Nobody is refused or has to wait as long as not all objects are lent. -/
theorem borrow_lent (tended : pool.Tended Idle Live config lent world)
    (room : lent < config.maxActive) :
    ∃ object, (pool.borrow factory world).1 = .lent object := by
  unfold Pool.borrow
  cases offered : pool.offer with
  | closed =>
      have opened := tended.opened
      rw [offer_eq_closed_iff.mp offered] at opened
      cases opened
  | idle object rest =>
      have isIdle := tended.idle object (by rw [(offer_eq_idle_iff.mp offered).2]; simp)
      exact serves.lend_lent isIdle _ world
  | new =>
      obtain ⟨object, left, made, isIdle⟩ := serves.make world
      simp only [made]
      exact serves.lend_lent isIdle _ left
  | full =>
      obtain ⟨_, noneIdle, allLent⟩ := offer_eq_full_iff.mp offered
      have balanced := tended.balanced
      rw [balanced.config_eq, balanced.allocated_eq, balanced.active_eq, noneIdle] at allLent
      simp only [List.length_nil] at allLent
      omega

end Factory.Serves

/-- An object that cannot be made is not added. -/
theorem add_fails {left : ω} {error : Error} (failed : factory.make world = (.error error, left))
    (pool : Pool T) : ∃ reason, (pool.add factory world).verdict = .error reason := by
  unfold Pool.add
  split
  · exact ⟨_, rfl⟩
  · split
    · exact ⟨_, rfl⟩
    · rw [failed]
      exact ⟨error, rfl⟩

end IntegrationHost.Pool
