import IntegrationHost.Proofs.Pool.Session

/-!
# Factories in more or less detail

Two factories may do the same while the objects and the surroundings of one carry more detail than
those of the other. If leaving out the detail before each call is the same as leaving it out
afterwards, then so it is for a pool with these factories, and for a whole session.
-/

namespace IntegrationHost

variable {ε ω ν α β T U : Type}

/-- An attempt with detail left out of its value and its surroundings. -/
def Attempt.project (f : α → β) (h : ω → ν) (a : Attempt ε ω α) : Attempt ε ν β :=
  ⟨a.verdict, f a.value, h a.world⟩

namespace Pool

/-- The coarse factory does what the fine one does, in less detail. -/
structure Factory.Projection (f : T → U) (h : ω → ν) (fine : Factory ω T) (coarse : Factory ν U) :
    Prop where
  make : ∀ world, coarse.make (h world) = ((fine.make world).1.map f, h (fine.make world).2)
  validate : ∀ object world,
    coarse.validate (f object) (h world) =
      ((fine.validate object world).1, h (fine.validate object world).2)
  activate : ∀ object world,
    coarse.activate (f object) (h world) = (fine.activate object world).project f h
  passivate : ∀ object world,
    coarse.passivate (f object) (h world) = (fine.passivate object world).project f h
  destroy : ∀ object world, coarse.destroy (f object) (h world) = h (fine.destroy object world)

/-- A pool with detail left out of its objects. -/
def map (f : T → U) (pool : Pool T) : Pool U :=
  ⟨pool.name, pool.config, pool.idle.map f, pool.active, pool.allocated, pool.closed⟩

/-- What a pool offers, with detail left out. -/
def Offer.map (f : T → U) : Offer T → Offer U
  | .idle object rest => .idle (f object) (rest.map f)
  | .new => .new
  | .full => .full
  | .closed => .closed

/-- What a borrower gets, with detail left out. -/
def Loan.map (f : T → U) : Loan T → Loan U
  | .lent object => .lent (f object)
  | .refused error => .refused error
  | .waits => .waits

/-- A guarded pool with detail left out of its objects. -/
def Guarded.map (f : T → U) (g : Guarded T) : Guarded U :=
  ⟨g.pool.map f, g.guards.map fun guard => (guard.1, f guard.2)⟩

/-- Nothing is left out. -/
theorem Guarded.map_id (g : Guarded T) : g.map id = g := by
  simp [Guarded.map, Pool.map]

theorem new_map {name : String} {config : Config} {pool : Pool T}
    (made : Pool.new name config = .ok pool) (f : T → U) :
    Pool.new name config = .ok (pool.map f) := by
  obtain ⟨checked, rfl⟩ := new_eq_ok_iff.mp made
  exact new_eq_ok_iff.mpr ⟨checked, rfl⟩

theorem offer_map (f : T → U) (pool : Pool T) : (pool.map f).offer = pool.offer.map f := by
  grind [offer, map, Offer.map]

section

variable {f : T → U} {h : ω → ν} {fine : Factory ω T} {coarse : Factory ν U}
variable (projection : Factory.Projection f h fine coarse)

include projection

theorem destroyAll_map (objects : List T) (world : ω) :
    destroyAll coarse (objects.map f) (h world) = h (destroyAll fine objects world) := by
  unfold destroyAll
  induction objects generalizing world with
  | nil => rfl
  | cons object rest ih =>
      simp only [List.map_cons, List.foldl_cons, projection.destroy]
      exact ih _

theorem add_map (pool : Pool T) (world : ω) :
    (pool.map f).add coarse (h world) = (pool.add fine world).project (map f) h := by
  by_cases closed : pool.closed = true
  · simp [add, map, closed, Attempt.project, Attempt.refused]
  · by_cases full : pool.config.maxActive ≤ pool.allocated
    · simp [add, map, closed, full, Attempt.project, Attempt.refused]
    · rcases made : fine.make world with ⟨error | object, left⟩
      · simp [add, map, closed, full, projection.make, made, Except.map, Attempt.project,
          Attempt.refused]
      · cases readied : (fine.passivate object left).verdict <;>
          simp [add, map, closed, full, projection.make, made, Except.map, projection.passivate,
            readied, projection.destroy, Attempt.project, Attempt.refused, Attempt.done]

theorem replenish_map (pool : Pool T) (world : ω) :
    (pool.map f).replenish coarse (h world) =
      ((pool.replenish fine world).1.map f, h (pool.replenish fine world).2) := by
  unfold replenish
  rw [add_map projection]
  by_cases short : (!pool.closed && pool.allocated < pool.config.minIdle) = true
  · rw [if_pos short, if_pos (by exact short)]
    rfl
  · rw [if_neg short, if_neg (by exact short)]

theorem lend_map (pool : Pool T) (object : T) (world : ω) :
    (pool.map f).lend coarse (f object) (h world) =
      ((pool.lend fine object world).1.map f, (pool.lend fine object world).2.1.map f,
        h (pool.lend fine object world).2.2) := by
  unfold lend
  rw [projection.activate]
  cases readied : (fine.activate object world).verdict <;>
    simp [Attempt.project, readied, projection.destroy, Loan.map, map]

theorem borrow_map (pool : Pool T) (world : ω) :
    (pool.map f).borrow coarse (h world) =
      ((pool.borrow fine world).1.map f, (pool.borrow fine world).2.1.map f,
        h (pool.borrow fine world).2.2) := by
  unfold borrow
  rw [offer_map]
  cases pool.offer with
  | closed => rfl
  | idle object rest =>
      exact lend_map projection { pool with idle := rest, active := pool.active + 1 } object world
  | new =>
      dsimp only
      rw [projection.make]
      rcases fine.make world with ⟨error | object, left⟩
      · rfl
      · exact lend_map projection
          { pool with active := pool.active + 1, allocated := pool.allocated + 1 } object left
  | full =>
      simp only [map]
      cases pool.config.whenExhausted <;> cases pool.config.maxWait <;> rfl

theorem inspect_map (object : T) (world : ω) :
    inspect coarse (f object) (h world) =
      ((inspect fine object world).1, f (inspect fine object world).2.1,
        h (inspect fine object world).2.2) := by
  unfold inspect
  rw [projection.validate]
  rcases fine.validate object world with ⟨_ | _, left⟩
  · rfl
  · simp [projection.passivate, Attempt.project, Attempt.succeeded]

theorem giveBack_map (pool : Pool T) (object : T) (world : ω) :
    (pool.map f).giveBack coarse (f object) (h world) =
      ((pool.giveBack fine object world).1.map f, h (pool.giveBack fine object world).2) := by
  unfold giveBack
  rw [inspect_map projection]
  rcases inspect fine object world with ⟨fit, object, left⟩
  dsimp only
  have sameActive : (pool.map f).active = pool.active := rfl
  have sameRoom :
      (fit && !(pool.map f).closed && (pool.map f).idle.length < (pool.map f).config.maxIdle) =
        (fit && !pool.closed && pool.idle.length < pool.config.maxIdle) := by
    simp [map]
  rw [sameActive, sameRoom]
  split
  · exact congrArg (Prod.mk _) (projection.destroy object left)
  · split
    · simp [map]
    · rw [projection.destroy]
      exact replenish_map projection
        { pool with active := pool.active - 1, allocated := pool.allocated - 1 } _

theorem invalidate_map (pool : Pool T) (object : T) (world : ω) :
    (pool.map f).invalidate coarse (f object) (h world) =
      ((pool.invalidate fine object world).1.map f, h (pool.invalidate fine object world).2) := by
  unfold invalidate
  rw [projection.destroy]
  dsimp only
  have sameActive : (pool.map f).active = pool.active := rfl
  rw [sameActive]
  split
  · rfl
  · exact replenish_map projection
      { pool with active := pool.active - 1, allocated := pool.allocated - 1 } _

theorem close_map (pool : Pool T) (world : ω) :
    (pool.map f).close coarse (h world) =
      ((pool.close fine world).1.map f, h (pool.close fine world).2) := by
  simp only [close, map, destroyAll_map projection, List.map_nil, List.length_map]

namespace Guarded

omit projection in
theorem lookup_map (f : T → U) (guards : List (String × T)) (name : String) :
    (guards.map fun guard => (guard.1, f guard.2)).lookup name = (guards.lookup name).map f := by
  induction guards with
  | nil => rfl
  | cons guard rest ih =>
      rcases guard with ⟨key, object⟩
      cases same : name == key <;> simp [List.lookup_cons, same, ih]

omit projection in
theorem without_map (f : T → U) (guards : List (String × T)) (name : String) :
    without name (guards.map fun guard => (guard.1, f guard.2)) =
      (without name guards).map fun guard => (guard.1, f guard.2) := by
  induction guards with
  | nil => rfl
  | cons guard rest ih => cases same : guard.1 == name <;> simp [without, same, ih]

theorem release_map (how : Release) (g : Guarded T) (name : String) (world : ω) :
    (g.map f).release coarse how name (h world) =
      ((g.release fine how name world).1.map f, h (g.release fine how name world).2) := by
  unfold release
  simp only [map, lookup_map]
  cases g.guards.lookup name with
  | none => rfl
  | some object =>
      cases how with
      | checkin => simp only [Option.map_some, giveBack_map projection, without_map]
      | invalidate => simp only [Option.map_some, invalidate_map projection, without_map]

theorem checkout_map (g : Guarded T) (name : String) (world : ω) :
    (g.map f).checkout coarse name (h world) =
      ((g.checkout fine name world).1.map f, (g.checkout fine name world).2.1.map f,
        h (g.checkout fine name world).2.2) := by
  unfold checkout
  simp only [map, borrow_map projection]
  rcases g.pool.borrow fine world with ⟨object | error | _, pool, left⟩
  · have released := release_map projection .checkin { g with pool } name left
    simp only [map] at released
    simp [keep, released, Loan.map]
  · rfl
  · rfl

theorem use_map (u : Use) (g : Guarded T) (world : ω) :
    use coarse u (g.map f) (h world) =
      ((use fine u g world).1.map f, h (use fine u g world).2) := by
  cases u with
  | add =>
      simp only [use, add, map, add_map projection]
      rfl
  | checkout name => simp only [use, checkout_map projection]
  | release how name => exact release_map projection how g name world
  | close => simp only [use, close, map, close_map projection]

/-- A session in less detail is the session with detail left out afterwards. -/
theorem session_map (uses : List Use) (g : Guarded T) (world : ω) :
    session coarse uses (g.map f) (h world) =
      ((session fine uses g world).1.map f, h (session fine uses g world).2) := by
  induction uses generalizing g world with
  | nil => rfl
  | cons first rest ih =>
      rw [session_cons, session_cons, use_map projection]
      exact ih _ _

end Guarded

end

end Pool

end IntegrationHost
