import IntegrationHost.Pool.Basic
import IntegrationHost.Pool.Executor
import IntegrationHost.Service.Behaviour

/-!
# Worker pools

Services of one prototype, pooled so that several messages can be processed side by side. A worker
is initialised when it is made, started when it is lent, stopped when it comes back and closed when
it is destroyed.
-/

namespace IntegrationHost.Service

open Lifecycle

/-- A service in a pool, managed under its id. -/
abbrev Worker (C : Type) := Managed C

/-- How workers are made, checked and disposed of. -/
def workerFactory {ω C : Type} (b : Behaviour ω C) (prototype : Prototype ω C) :
    Pool.Factory ω (Worker C) where
  make world :=
    match prototype.create world with
    | (.error error, world) => (.error (.creation error.message), world)
    | (.ok service, world) =>
      let asked := (Managed.new (b.uniqueId service) service).request b.hooks .init world
      match asked.verdict with
      | .ok () => (.ok asked.value, asked.world)
      | .error error => (.error (.creation error.message), asked.world)
  validate worker world := (worker.state != .closed && b.isValid worker.component, world)
  activate worker world :=
    (worker.request b.hooks .start world).mapError fun error => .activation error.message
  passivate worker world :=
    (worker.request b.hooks .stop world).mapError fun error => .passivation error.message
  destroy worker world := (worker.request b.hooks .close world).world

/-- A plan for pools and executors of one prototype. -/
structure WorkerPlan (ω C : Type) where
  prototype : Prototype ω C
  size : Nat

namespace WorkerPlan

variable {ω C : Type}

/-- A plan needs a worker. -/
def new (prototype : Prototype ω C) (size : Nat) : Except Pool.Error (WorkerPlan ω C) :=
  if size = 0 then
    .error (.invalidConfig
      ("worker pool for " ++ prototype.describe ++ " needs at least one worker"))
  else .ok ⟨prototype, size⟩

/-- An empty pool of exactly the planned size, whose borrowers wait for ever. -/
def createPool (plan : WorkerPlan ω C) : Except Pool.Error (Pool (Worker C)) :=
  Pool.new (plan.prototype.describe ++ "-workers") (.fixed plan.size)

/-- An executor with a thread for each worker. -/
def createExecutor {α : Type} (plan : WorkerPlan ω C) (lead : String) :
    Except Pool.Error (Pool.Executor α) :=
  Pool.Executor.new (lead ++ "-" ++ plan.prototype.describe) plan.size

/-- Make the workers still to make, given how many are made and how many there shall be. -/
def fillFrom (factory : Pool.Factory ω (Worker C)) (requested created : Nat) :
    Nat → Pool (Worker C) → ω → Attempt Pool.Error ω (Pool (Worker C))
  | 0, pool, world => .done pool world
  | missing + 1, pool, world =>
    let added := pool.add factory world
    match added.verdict with
    | .ok () => fillFrom factory requested (created + 1) missing added.value added.world
    | .error error =>
      .refused (.warmup pool.name created requested error.message) added.value added.world

/-- Make the workers that a pool is short of; the first that cannot be made ends it. -/
def warmup (b : Behaviour ω C) (plan : WorkerPlan ω C) (pool : Pool (Worker C)) (world : ω) :
    Attempt Pool.Error ω (Pool (Worker C)) :=
  let missing := plan.size - pool.allocated
  fillFrom (workerFactory b plan.prototype) missing 0 missing pool world

end WorkerPlan

end IntegrationHost.Service
