import IntegrationHost.Attempt
import IntegrationHost.Pool.Config

/-!
# Object pools

A pool lends objects that a factory makes. It never has more than its configuration allows, takes an
object back only when the factory finds it fit, and replaces what it destroys as long as it is open
and short of idle objects. Once closed it lends nothing more and destroys what comes back.
-/

namespace IntegrationHost

/-- How objects of type `T` are made, checked and disposed of, in surroundings `ω`. -/
structure Pool.Factory (ω T : Type) where
  make : ω → Except Pool.Error T × ω
  /-- Whether an object that comes back may be lent again. -/
  validate : T → ω → Bool × ω
  /-- Ready an object to be lent. -/
  activate : T → ω → Attempt Pool.Error ω T
  /-- Ready an object to lie idle. -/
  passivate : T → ω → Attempt Pool.Error ω T
  destroy : T → ω → ω

/-- A pool of objects of type `T`. -/
structure Pool (T : Type) where
  name : String
  config : Pool.Config
  /-- The objects that lie idle, the one that has lain longest first. -/
  idle : List T
  /-- How many objects are lent. -/
  active : Nat
  /-- How many objects there are, idle and lent. -/
  allocated : Nat
  closed : Bool

namespace Pool

variable {ω T : Type}

/-- An open pool with no objects. -/
def new (name : String) (config : Config) : Except Error (Pool T) := do
  config.check
  return ⟨name, config, [], 0, 0, false⟩

/-- Destroy objects one after the other. -/
def destroyAll (factory : Factory ω T) (objects : List T) (world : ω) : ω :=
  objects.foldl (fun world object => factory.destroy object world) world

/-- Make an object and lay it idle. -/
def add (factory : Factory ω T) (pool : Pool T) (world : ω) : Attempt Error ω (Pool T) :=
  if pool.closed then .refused (.closed pool.name) pool world
  else if pool.config.maxActive ≤ pool.allocated then
    .refused (.exhausted pool.name pool.config.maxActive) pool world
  else
    match factory.make world with
    | (.error error, world) => .refused error pool world
    | (.ok object, world) =>
      let readied := factory.passivate object world
      match readied.verdict with
      | .error error => .refused error pool (factory.destroy readied.value readied.world)
      | .ok () =>
        .done { pool with idle := pool.idle ++ [readied.value], allocated := pool.allocated + 1 }
          readied.world

/-- What a pool can do for a borrower at once. -/
inductive Offer (T : Type) where
  /-- Lend the object that has lain idle longest. -/
  | idle (object : T) (rest : List T)
  /-- Make a new object. -/
  | new
  /-- Nothing: every object is in use. -/
  | full
  /-- Nothing any more. -/
  | closed

/-- What the pool can do for a borrower at once. -/
def offer (pool : Pool T) : Offer T :=
  if pool.closed then .closed
  else
    match pool.idle with
    | object :: rest => .idle object rest
    | [] => if pool.allocated < pool.config.maxActive then .new else .full

/-- What a borrower gets. -/
inductive Loan (T : Type) where
  | lent (object : T)
  | refused (error : Error)
  /-- The borrower waits until an object comes back. -/
  | waits

/-- Ready an object that is counted as lent. When that fails the object is destroyed and no longer
counted. -/
def lend (factory : Factory ω T) (pool : Pool T) (object : T) (world : ω) : Loan T × Pool T × ω :=
  let readied := factory.activate object world
  match readied.verdict with
  | .ok () => (.lent readied.value, pool, readied.world)
  | .error error =>
    (.refused (.activation error.message),
      { pool with active := pool.active - 1, allocated := pool.allocated - 1 },
      factory.destroy readied.value readied.world)

/-- Borrow an object. A borrower of an exhausted pool is refused or waits, and one who may only wait
for some time waits just that long in vain, as nobody returns an object meanwhile. -/
def borrow (factory : Factory ω T) (pool : Pool T) (world : ω) : Loan T × Pool T × ω :=
  match pool.offer with
  | .closed => (.refused (.closed pool.name), pool, world)
  | .idle object rest =>
    lend factory { pool with idle := rest, active := pool.active + 1 } object world
  | .new =>
    match factory.make world with
    | (.error error, world) => (.refused error, pool, world)
    | (.ok object, world) =>
      lend factory { pool with active := pool.active + 1, allocated := pool.allocated + 1 } object
        world
  | .full =>
    match pool.config.whenExhausted, pool.config.maxWait with
    | .fail, _ => (.refused (.exhausted pool.name pool.config.maxActive), pool, world)
    | .block, some wait => (.refused (.timeout pool.name wait), pool, world)
    | .block, none => (.waits, pool, world)

/-- Make an object for one that was destroyed, if the pool is open and has too few. Should that fail
the pool goes on with fewer. -/
def replenish (factory : Factory ω T) (pool : Pool T) (world : ω) : Pool T × ω :=
  if !pool.closed && pool.allocated < pool.config.minIdle then (pool.add factory world).left
  else (pool, world)

/-- Check an object that comes back and ready it to lie idle. -/
def inspect (factory : Factory ω T) (object : T) (world : ω) : Bool × T × ω :=
  let checked := factory.validate object world
  if checked.1 then
    let readied := factory.passivate object checked.2
    (readied.succeeded, readied.value, readied.world)
  else (false, object, checked.2)

/-- Take a lent object back. -/
def giveBack (factory : Factory ω T) (pool : Pool T) (object : T) (world : ω) : Pool T × ω :=
  let (fit, object, world) := inspect factory object world
  if pool.active = 0 then (pool, factory.destroy object world)
  else if fit && !pool.closed && pool.idle.length < pool.config.maxIdle then
    ({ pool with idle := pool.idle ++ [object], active := pool.active - 1 }, world)
  else
    replenish factory
      { pool with active := pool.active - 1, allocated := pool.allocated - 1 }
      (factory.destroy object world)

/-- Destroy a lent object. -/
def invalidate (factory : Factory ω T) (pool : Pool T) (object : T) (world : ω) : Pool T × ω :=
  let world := factory.destroy object world
  if pool.active = 0 then (pool, world)
  else
    replenish factory { pool with active := pool.active - 1, allocated := pool.allocated - 1 } world

/-- Close the pool: what lies idle is destroyed now, what is lent when it comes back. -/
def close (factory : Factory ω T) (pool : Pool T) (world : ω) : Pool T × ω :=
  ({ pool with idle := [], allocated := pool.allocated - pool.idle.length, closed := true },
    destroyAll factory pool.idle world)

end Pool

end IntegrationHost
