import IntegrationHost.Pool.Basic

/-!
# Guards

A pool together with the objects it has lent. Whoever borrows holds the object in a guard with a
name; giving up a guard returns the object, and so each lent object is in exactly one guard.
-/

namespace IntegrationHost.Pool

/-- A pool and the guards on its objects, the latest first. -/
structure Guarded (T : Type) where
  pool : Pool T
  guards : List (String × T)

/-- How a guard can be given up. -/
inductive Release where
  /-- Return the object. -/
  | checkin
  /-- Destroy the object. -/
  | invalidate
  deriving DecidableEq, Repr

namespace Guarded

variable {ω T : Type}

/-- A pool that has lent nothing. -/
def ofPool (pool : Pool T) : Guarded T := ⟨pool, []⟩

/-- The object in a guard. -/
def get? (g : Guarded T) (name : String) : Option T := g.guards.lookup name

/-- Guards without the first one of a name. -/
def without (name : String) : List (String × T) → List (String × T)
  | [] => []
  | guard :: rest => if guard.1 == name then rest else guard :: without name rest

/-- Change the object in a guard. -/
def update (g : Guarded T) (name : String) (object : T) : Guarded T :=
  { g with guards := g.guards.map fun guard => if guard.1 == name then (name, object) else guard }

/-- Give up a guard. -/
def release (factory : Factory ω T) (how : Release) (g : Guarded T) (name : String) (world : ω) :
    Guarded T × ω :=
  match g.guards.lookup name with
  | none => (g, world)
  | some object =>
    let left := match how with
      | .checkin => g.pool.giveBack factory object world
      | .invalidate => g.pool.invalidate factory object world
    (⟨left.1, without name g.guards⟩, left.2)

/-- Keep a borrowed object under a name; a guard that has the name already is given up. -/
def keep (factory : Factory ω T) (g : Guarded T) (name : String) (object : T) (world : ω) :
    Guarded T × ω :=
  let left := g.release factory .checkin name world
  ({ left.1 with guards := (name, object) :: left.1.guards }, left.2)

/-- Borrow an object and keep it under a name. -/
def checkout (factory : Factory ω T) (g : Guarded T) (name : String) (world : ω) :
    Loan T × Guarded T × ω :=
  match g.pool.borrow factory world with
  | (.lent object, pool, world) =>
    let kept := keep factory { g with pool } name object world
    (.lent object, kept.1, kept.2)
  | (loan, pool, world) => (loan, { g with pool }, world)

/-- Make an object and lay it idle. -/
def add (factory : Factory ω T) (g : Guarded T) (world : ω) : Attempt Error ω (Guarded T) :=
  (g.pool.add factory world).map fun pool => { g with pool }

/-- Close the pool; the guards stay. -/
def close (factory : Factory ω T) (g : Guarded T) (world : ω) : Guarded T × ω :=
  let left := g.pool.close factory world
  ({ g with pool := left.1 }, left.2)

/-- Whether a borrower who comes now has to wait for ever. -/
def wouldWait (g : Guarded T) : Bool :=
  match g.pool.offer, g.pool.config.whenExhausted, g.pool.config.maxWait with
  | .full, .block, none => true
  | _, _, _ => false

end Guarded

end IntegrationHost.Pool
