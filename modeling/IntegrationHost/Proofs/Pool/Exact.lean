import Mathlib.Data.Nat.PSub
import IntegrationHost.Proofs.Pool.Session

/-!
# Exact counting

The operations of a pool once more, with each counter moved where an object is reserved, lent or
given up, and with a counter at zero refusing to go down. Subtraction of natural numbers stops at
zero and so would hide a counter that is moved too often; here such a move leaves no result at all.
-/

namespace IntegrationHost.Pool

variable {ω T : Type}

/-- Count one object less; `lent` says whether it is counted as lent as well. -/
def vacate? (pool : Pool T) (lent : Bool) : Option (Pool T) := do
  let allocated ← pool.allocated.ppred
  let active ← if lent then pool.active.ppred else some pool.active
  return { pool with active, allocated }

/-- Make an object and lay it idle. Its place is reserved before the factory is asked. -/
def add? (factory : Factory ω T) (pool : Pool T) (world : ω) :
    Option (Attempt Error ω (Pool T)) :=
  if pool.closed then some (.refused (.closed pool.name) pool world)
  else if pool.config.maxActive ≤ pool.allocated then
    some (.refused (.exhausted pool.name pool.config.maxActive) pool world)
  else
    let reserved := { pool with allocated := pool.allocated + 1 }
    match factory.make world with
    | (.error error, world) => do
      let pool ← reserved.vacate? false
      return .refused error pool world
    | (.ok object, world) =>
      let readied := factory.passivate object world
      match readied.verdict with
      | .error error => do
        let pool ← reserved.vacate? false
        return .refused error pool (factory.destroy readied.value readied.world)
      | .ok () => some (.done { reserved with idle := pool.idle ++ [readied.value] } readied.world)

/-- Ready an object that is counted as lent. -/
def lend? (factory : Factory ω T) (pool : Pool T) (object : T) (world : ω) :
    Option (Loan T × Pool T × ω) :=
  let readied := factory.activate object world
  match readied.verdict with
  | .ok () => some (.lent readied.value, pool, readied.world)
  | .error error => do
    let pool ← pool.vacate? true
    return (.refused (.activation error.message), pool,
      factory.destroy readied.value readied.world)

/-- Borrow an object. -/
def borrow? (factory : Factory ω T) (pool : Pool T) (world : ω) :
    Option (Loan T × Pool T × ω) :=
  match pool.offer with
  | .closed | .full => some (pool.borrow factory world)
  | .idle object rest =>
    lend? factory { pool with idle := rest, active := pool.active + 1 } object world
  | .new =>
    let reserved := { pool with active := pool.active + 1, allocated := pool.allocated + 1 }
    match factory.make world with
    | (.error error, world) => do
      let pool ← reserved.vacate? true
      return (.refused error, pool, world)
    | (.ok object, world) => lend? factory reserved object world

/-- Make an object for one that was destroyed. -/
def replenish? (factory : Factory ω T) (pool : Pool T) (world : ω) : Option (Pool T × ω) :=
  if !pool.closed && pool.allocated < pool.config.minIdle then
    (pool.add? factory world).map Attempt.left
  else some (pool, world)

/-- Take a lent object back. -/
def giveBack? (factory : Factory ω T) (pool : Pool T) (object : T) (world : ω) :
    Option (Pool T × ω) :=
  let (fit, object, world) := inspect factory object world
  if pool.active = 0 then some (pool, factory.destroy object world)
  else do
    let active ← pool.active.ppred
    if fit && !pool.closed && pool.idle.length < pool.config.maxIdle then
      return ({ pool with idle := pool.idle ++ [object], active }, world)
    else
      let allocated ← pool.allocated.ppred
      replenish? factory { pool with active, allocated } (factory.destroy object world)

/-- Destroy a lent object. -/
def invalidate? (factory : Factory ω T) (pool : Pool T) (object : T) (world : ω) :
    Option (Pool T × ω) :=
  let world := factory.destroy object world
  if pool.active = 0 then some (pool, world)
  else do
    let active ← pool.active.ppred
    let allocated ← pool.allocated.ppred
    replenish? factory { pool with active, allocated } world

/-- Close the pool. -/
def close? (factory : Factory ω T) (pool : Pool T) (world : ω) : Option (Pool T × ω) := do
  let allocated ← pool.allocated.psub pool.idle.length
  return ({ pool with idle := [], allocated, closed := true },
    destroyAll factory pool.idle world)

namespace Guarded

/-- Give up a guard. -/
def release? (factory : Factory ω T) (how : Release) (g : Guarded T) (name : String) (world : ω) :
    Option (Guarded T × ω) :=
  match g.guards.lookup name with
  | none => some (g, world)
  | some object => do
    let left ← match how with
      | .checkin => g.pool.giveBack? factory object world
      | .invalidate => g.pool.invalidate? factory object world
    return (⟨left.1, without name g.guards⟩, left.2)

/-- Borrow an object and keep it under a name, giving up the guard that has the name already. -/
def checkout? (factory : Factory ω T) (g : Guarded T) (name : String) (world : ω) :
    Option (Loan T × Guarded T × ω) := do
  let (loan, pool, world) ← g.pool.borrow? factory world
  match loan with
  | .lent object =>
    let left ← release? factory .checkin { g with pool } name world
    return (.lent object, { left.1 with guards := (name, object) :: left.1.guards }, left.2)
  | loan => return (loan, { g with pool }, world)

/-- Use a guarded pool once. -/
def use? (factory : Factory ω T) : Use → Guarded T → ω → Option (Guarded T × ω)
  | .add, g, world => do
    let added ← g.pool.add? factory world
    return ({ g with pool := added.value }, added.world)
  | .checkout name, g, world => do
    let left ← g.checkout? factory name world
    return left.2
  | .release how name, g, world => g.release? factory how name world
  | .close, g, world => do
    let left ← g.pool.close? factory world
    return ({ g with pool := left.1 }, left.2)

/-- A whole session that counts exactly. -/
def session? (factory : Factory ω T) : List Use → Guarded T → ω → Option (Guarded T × ω)
  | [], g, world => some (g, world)
  | first :: rest, g, world => do
    let left ← use? factory first g world
    session? factory rest left.1 left.2

end Guarded

end IntegrationHost.Pool
