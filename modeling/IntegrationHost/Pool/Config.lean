import IntegrationHost.Json.Access
import IntegrationHost.Pool.Error

/-!
# Pool sizes

How many objects a pool may have, how many of them it keeps idle, and what a borrower gets when all
of them are in use.
-/

namespace IntegrationHost.Pool

/-- What a borrower gets from a pool whose objects are all in use. -/
inductive WhenExhausted where
  /-- The borrower waits. -/
  | block
  /-- The borrower is refused. -/
  | fail
  deriving DecidableEq, Repr

/-- The word for what a borrower gets. -/
def WhenExhausted.name : WhenExhausted → String
  | block => "block"
  | fail => "fail"

/-- What a borrower gets by the word for it. -/
def WhenExhausted.ofName? (word : String) : Option WhenExhausted :=
  [block, fail].find? fun choice => choice.name == word

/-- The bounds of a pool. -/
structure Config where
  maxActive : Nat
  minIdle : Nat
  maxIdle : Nat
  /-- How long a borrower waits, in milliseconds; for ever when there is no such bound. -/
  maxWait : Option Nat
  whenExhausted : WhenExhausted
  deriving DecidableEq, Repr

namespace Config

/-- A pool of exactly `size` objects whose borrowers wait for ever. -/
def fixed (size : Nat) : Config := ⟨size, size, size, none, .block⟩

/-- A pool may hold at least one object, and no more idle ones than objects. -/
def check (c : Config) : Except Error Unit :=
  if c.maxActive = 0 then .error (.invalidConfig "max_active must be at least 1")
  else if c.maxActive < c.minIdle ∨ c.maxActive < c.maxIdle then
    .error (.invalidConfig
      ("idle bounds (" ++ toString c.minIdle ++ ".." ++ toString c.maxIdle ++
        ") exceed max_active " ++ toString c.maxActive))
  else .ok ()

/-- Bounds as an object. -/
def toJson (c : Config) : Json :=
  .ofMembers
    [("max_active", .ofNat c.maxActive), ("min_idle", .ofNat c.minIdle),
      ("max_idle", .ofNat c.maxIdle), ("max_wait_ms", .ofOption (c.maxWait.map .ofNat)),
      ("when_exhausted", .ofString c.whenExhausted.name)]

/-- Read bounds, or the one size of a fixed pool. -/
def ofJson? (json : Json) : Option Config :=
  if json.has "fixed" then some (.fixed (json.naturalAt "fixed"))
  else (WhenExhausted.ofName? (json.textAt "when_exhausted")).map fun choice =>
    ⟨json.naturalAt "max_active", json.naturalAt "min_idle", json.naturalAt "max_idle",
      (json.get "max_wait_ms").natural?, choice⟩

end Config

end IntegrationHost.Pool
