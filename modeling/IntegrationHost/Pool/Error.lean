import IntegrationHost.ExternalError

/-!
# Pool failures

Why a pool of objects, or an executor of tasks, did not do what it was asked to.
-/

namespace IntegrationHost.Pool

/-- Why a pool or an executor refused. -/
inductive Error where
  | closed (pool : String)
  | exhausted (pool : String) (capacity : Nat)
  /-- No object came free within the time allowed. -/
  | timeout (pool : String) (waitedMs : Nat)
  | creation (reason : String)
  | activation (reason : String)
  | passivation (reason : String)
  | warmup (pool : String) (created requested : Nat) (reason : String)
  | invalidConfig (reason : String)
  | executorShutdown (executor : String)
  | taskAborted (reason : String)
  /-- The system gave no thread. -/
  | spawn (error : ExternalError)
  deriving DecidableEq, Repr

namespace Error

/-- The kind of a failure, as it is named in reports. -/
def kind : Error → String
  | closed _ => "Closed"
  | exhausted .. => "Exhausted"
  | timeout .. => "Timeout"
  | creation _ => "Creation"
  | activation _ => "Activation"
  | passivation _ => "Passivation"
  | warmup .. => "Warmup"
  | invalidConfig _ => "InvalidConfig"
  | executorShutdown _ => "ExecutorShutdown"
  | taskAborted _ => "TaskAborted"
  | spawn _ => "Spawn"

/-- The wording of a failure. -/
def message : Error → String
  | closed pool => "Pool " ++ pool ++ " is closed"
  | exhausted pool capacity =>
    "Pool " ++ pool ++ " is exhausted (" ++ toString capacity ++ " objects in use)"
  | timeout pool waitedMs =>
    "Timed out after " ++ toString waitedMs ++ "ms waiting for an idle object in pool " ++ pool
  | creation reason => "Failed to create pooled object: " ++ reason
  | activation reason => "Failed to activate pooled object: " ++ reason
  | passivation reason => "Failed to passivate pooled object: " ++ reason
  | warmup pool created requested reason =>
    "Warmup of pool " ++ pool ++ " failed after " ++ toString created ++ " of " ++
      toString requested ++ " objects: " ++ reason
  | invalidConfig reason => "Invalid pool configuration: " ++ reason
  | executorShutdown executor => "Executor " ++ executor ++ " is shut down"
  | taskAborted reason => "Task did not complete: " ++ reason
  | spawn error => "Failed to spawn executor thread: " ++ error.message

/-- The wordings of what lies behind a failure, the nearest first. -/
def causes : Error → List String
  | spawn error => error.message :: error.causes
  | _ => []

end Error

end IntegrationHost.Pool
