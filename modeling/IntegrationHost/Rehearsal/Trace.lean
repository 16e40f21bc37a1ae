import IntegrationHost.Service.Behaviour

/-!
# What happens in a rehearsal

Surroundings in which components act out a script. They keep what is called and what is logged, the
latest first, and count what the script counts.
-/

namespace IntegrationHost.Rehearsal

/-- What has happened. -/
structure Trace where
  calls : List String
  logs : List Service.LogLine
  /-- How many services were made. -/
  created : Nat
  /-- How many calls of `init` reached the services made. -/
  inits : Nat
  /-- How many calls of `close` reached the services made. -/
  closes : Nat
  /-- The callbacks called so far, each with the object it was called for. -/
  callbacks : List (String × Nat)
  /-- The number of the next object. -/
  nextObject : Nat

namespace Trace

/-- Nothing has happened. -/
def empty : Trace := ⟨[], [], 0, 0, 0, [], 0⟩

instance : Inhabited Trace := ⟨empty⟩

/-- Note a call. -/
def call (t : Trace) (what : String) : Trace := { t with calls := what :: t.calls }

/-- Begin another scene: nothing is called or logged in it yet. -/
def nextScene (t : Trace) : Trace := { t with calls := [], logs := [] }

/-- How often a callback was called for an object. -/
def count (t : Trace) (callback : String) (object : Nat) : Nat :=
  t.callbacks.count (callback, object)

/-- Note the call of a callback for an object. -/
def callback (t : Trace) (name : String) (object : Nat) : Trace :=
  { t.call (name ++ " " ++ toString object) with callbacks := (name, object) :: t.callbacks }

/-- What was logged in the scene, a line `service|text` each, in the order of the lines. -/
def logLines (t : Trace) : List String :=
  (t.logs.map fun line => line.service ++ "|" ++ line.text).mergeSort fun a b => decide (a ≤ b)

end Trace

instance : Service.Journal Trace where
  log line t := { t with logs := line :: t.logs }

end IntegrationHost.Rehearsal
