import IntegrationHost.Service.Definition
import IntegrationHost.Service.WorkerPool
import IntegrationHost.Text.Search

/-!
# Split-join

A split-join cuts the payload of a message into fragments, has each of them processed by a worker
from its pool, and joins what comes out in the order of the fragments. Either all fragments succeed
or the message stays as it was. The pool and the executor live from `init` to `close`.
-/

namespace IntegrationHost.Service

open Lifecycle

/-- A split-join over services of type `C`. -/
structure SplitJoin (ω C : Type) where
  uniqueId : String
  prototype : Prototype ω C
  poolSize : Nat
  separator : String
  shutdownTimeoutMs : Nat
  pool : Option (Pool (Worker C))
  /-- Its threads; they are at rest between two messages. -/
  executor : Option (Pool.Executor Unit)

namespace SplitJoin

variable {ω C : Type}

/-- A split-join that holds nothing yet. -/
def new (uniqueId : String) (prototype : Prototype ω C) (poolSize : Nat) (separator : String)
    (shutdownTimeoutMs : Nat) : SplitJoin ω C :=
  ⟨uniqueId, prototype, poolSize, separator, shutdownTimeoutMs, none, none⟩

/-- How workers of this split-join are made and disposed of. -/
def factory (b : Behaviour ω C) (s : SplitJoin ω C) : Pool.Factory ω (Worker C) :=
  workerFactory b s.prototype

/-- Close the pool, if there is one. -/
def closePool (b : Behaviour ω C) (s : SplitJoin ω C) (world : ω) : ω :=
  match s.pool with
  | none => world
  | some pool => (pool.close (s.factory b) world).2

/-- Give up threads and workers. -/
def release (b : Behaviour ω C) (s : SplitJoin ω C) (world : ω) : SplitJoin ω C × ω :=
  ({ s with pool := none, executor := none }, s.closePool b world)

/-- Make threads and workers. Should one of the workers fail, those already made are disposed of. -/
def build (b : Behaviour ω C) (s : SplitJoin ω C) (world : ω) :
    Except Pool.Error (Pool (Worker C) × Pool.Executor Unit) × ω :=
  match WorkerPlan.new s.prototype s.poolSize with
  | .error error => (.error error, world)
  | .ok plan =>
    match plan.createPool, plan.createExecutor "split-join" with
    | .error error, _ => (.error error, world)
    | .ok pool, executor =>
      let warmed := plan.warmup b pool world
      match warmed.verdict, executor with
      | .error error, _ =>
        (.error error, (warmed.value.close (s.factory b) warmed.world).2)
      | .ok (), .error error =>
        (.error error, (warmed.value.close (s.factory b) warmed.world).2)
      | .ok (), .ok executor => (.ok (warmed.value, executor), warmed.world)

/-- Build anew; what was held from before is given up first. -/
def takeUp (b : Behaviour ω C) (s : SplitJoin ω C) (world : ω) :
    Attempt Lifecycle.Error ω (SplitJoin ω C) :=
  let (s, world) := s.release b world
  match s.build b world with
  | (.error error, world) => .refused (.reported error.message) s world
  | (.ok (pool, executor), world) =>
    .done { s with pool := some pool, executor := some executor } world

/-- `init` builds, `close` gives up, the other events change nothing. -/
def hooks (b : Behaviour ω C) : Hooks ω (SplitJoin ω C) where
  run
    | .init, s, world => s.takeUp b world
    | .close, s, world => let left := s.release b world; .done left.1 left.2
    | _, s, world => .done s world

/-! ## Processing -/

/-- The fragments of a message, in order. -/
def fragments (separator : String) (message : Message) : List Message :=
  (Text.split separator message.payload).mapIdx message.fragment

/-- Have a worker process a fragment and return the worker, whatever came of it. -/
def processFragment (b : Behaviour ω C) (factory : Pool.Factory ω (Worker C))
    (pool : Pool (Worker C)) (fragment : Message) (world : ω) :
    Except Fault Message × Pool (Worker C) × ω :=
  match pool.borrow factory world with
  | (.refused error, pool, world) => (.error (.error (.pool error)), pool, world)
  | (.waits, pool, world) => (.error .breakdown, pool, world)
  | (.lent worker, pool, world) =>
    let done := b.process worker.component fragment world
    let left := pool.giveBack factory (worker.withComponent done.value.1) done.world
    (done.verdict.map fun _ => done.value.2, left.1, left.2)

/-- Have all fragments processed. A failure does not keep the others from being processed. -/
def processFragments (b : Behaviour ω C) (factory : Pool.Factory ω (Worker C)) :
    List Message → Pool (Worker C) → ω → List (Except Fault Message) × Pool (Worker C) × ω
  | [], pool, world => ([], pool, world)
  | fragment :: rest, pool, world =>
    let first := processFragment b factory pool fragment world
    let others := processFragments b factory rest first.2.1 first.2.2
    (first.1 :: others.1, others.2)

/-- A fragment whose processing broke off is reported as a task that did not complete. -/
def reported (executor : Pool.Executor Unit) : Except Fault Message → Except Error Message
  | .ok fragment => .ok fragment
  | .error (.error error) => .error error
  | .error .breakdown => .error (.pool executor.abortion)

/-- All fragments, or the failure of the first that has one. -/
def collect : List (Except Error Message) → Except Error (List Message)
  | [] => .ok []
  | .error error :: _ => .error error
  | .ok fragment :: rest => (collect rest).map (fragment :: ·)

/-- Join processed fragments into a message. Their metadata go into the message in order, but for
the link back to it. -/
def join (separator : String) (message : Message) (processed : List Message) : Message :=
  { message with
    payload := separator.intercalate (processed.map Message.payload)
    metadata := processed.foldl
      (fun metadata fragment =>
        metadata.update
          (fragment.metadata.entries.filter fun entry => entry.1 != Message.parentKey))
      message.metadata }

/-- Process a message. -/
def process (b : Behaviour ω C) (s : SplitJoin ω C) (message : Message) (world : ω) :
    Processed ω (SplitJoin ω C) :=
  match s.pool, s.executor with
  | some pool, some executor =>
    let (results, pool, world) :=
      processFragments b (s.factory b) (fragments s.separator message) pool world
    let s := { s with pool := some pool }
    match collect (results.map (reported executor)) with
    | .ok processed => .done (s, join s.separator message processed) world
    | .error error => .refused (.error error) (s, message) world
  | _, _ =>
    .refused (.error (.unavailable s.uniqueId "worker pool is not initialised")) (s, message) world

/-- A split-join may be used again while its pool is open. -/
def isValid (s : SplitJoin ω C) : Bool :=
  match s.pool with
  | none => false
  | some pool => !pool.closed

/-- What a split-join does. -/
def behaviour (b : Behaviour ω C) : Behaviour ω (SplitJoin ω C) where
  hooks := hooks b
  uniqueId := uniqueId
  process := process b
  isValid := isValid

end SplitJoin

end IntegrationHost.Service
