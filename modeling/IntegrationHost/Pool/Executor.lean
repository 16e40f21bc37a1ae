import IntegrationHost.Pool.Error

/-!
# Executors

A fixed number of threads that work off a queue of tasks. A task may wait at a gate until somebody
opens it, and holds its thread meanwhile. Shutting down waits for the tasks that can still finish;
when some cannot, those in the queue are thrown away.
-/

namespace IntegrationHost.Pool

/-- What a task does: wait at its gate, if it has one, and then yield a value or break off. -/
structure Task (α : Type) where
  gate : Option String
  /-- There is none when the task breaks off. -/
  result : Option α

/-- A task that was handed in, under the number of its handle. -/
structure Job (α : Type) where
  handle : Nat
  task : Task α

/-- An executor of tasks that yield values of type `α`. -/
structure Executor (α : Type) where
  name : String
  threads : Nat
  /-- The jobs that hold a thread. -/
  running : List (Job α)
  /-- The jobs that no thread has taken yet, in order. -/
  queued : List (Job α)
  /-- How jobs ended, by handle. -/
  ended : List (Nat × Option α)
  /-- The number of the next handle. -/
  next : Nat
  openGates : List String
  shut : Bool

namespace Executor

variable {α : Type}

/-- An executor at work needs a thread. -/
def new (name : String) (threads : Nat) : Except Error (Executor α) :=
  if threads = 0 then
    .error (.invalidConfig ("executor " ++ name ++ " needs at least one thread"))
  else .ok ⟨name, threads, [], [], [], 0, [], false⟩

/-- Whether a job still has to wait at its gate. -/
def waits (e : Executor α) (job : Job α) : Bool :=
  match job.task.gate with
  | none => false
  | some gate => !e.openGates.contains gate

/-- Note how a job ended. -/
def finish (e : Executor α) (job : Job α) : Executor α :=
  { e with ended := (job.handle, job.task.result) :: e.ended }

/-- Let the free threads work off queued jobs, in order, until every thread is held or no job is
left. -/
def workOff (e : Executor α) : List (Job α) → Executor α
  | [] => { e with queued := [] }
  | job :: rest =>
    if e.threads ≤ e.running.length then { e with queued := job :: rest }
    else if e.waits job then workOff { e with running := e.running ++ [job] } rest
    else workOff (e.finish job) rest

/-- Let every job go on that can. -/
def settle (e : Executor α) : Executor α :=
  let going := e.running.filter fun job => !e.waits job
  let rested := { e with running := e.running.filter e.waits }
  let e := going.foldl finish rested
  e.workOff e.queued

/-- Hand in a task. The answer is the handle to collect its value with. -/
def submit (e : Executor α) (task : Task α) : Except Error Nat × Executor α :=
  if e.shut then (.error (.executorShutdown e.name), e)
  else
    (.ok e.next, settle { e with queued := e.queued ++ [⟨e.next, task⟩], next := e.next + 1 })

/-- Open a gate for good. -/
def openGate (e : Executor α) (gate : String) : Executor α :=
  settle { e with openGates := gate :: e.openGates }

/-- What waiting for a job comes to. -/
inductive Joined (α : Type) where
  | value (a : α)
  | failed (error : Error)
  /-- The job does not end. -/
  | waits

/-- How a task is reported that broke off or was thrown away. -/
def abortion (e : Executor α) : Error :=
  .taskAborted ("task on executor " ++ e.name ++ " panicked or was discarded")

/-- Collect the value of a job. It has none when the task broke off or was thrown away. -/
def join (e : Executor α) (handle : Nat) : Joined α :=
  match e.ended.lookup handle with
  | some (some a) => .value a
  | some none => .failed e.abortion
  | none =>
    if (e.running ++ e.queued).any (·.handle == handle) then .waits else .failed e.abortion

/-- Shut down: take no more tasks, and throw away those in the queue when some job does not end. The
answer is whether all of them ended. -/
def shutdown (e : Executor α) : Bool × Executor α :=
  if e.shut then (true, e)
  else if e.running.isEmpty && e.queued.isEmpty then (true, { e with shut := true })
  else (false, { e with queued := [], shut := true })

end Executor

end IntegrationHost.Pool
