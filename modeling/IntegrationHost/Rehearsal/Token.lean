import IntegrationHost.Json.Access
import IntegrationHost.Pool.Basic
import IntegrationHost.Rehearsal.Trace

/-!
# Tokens

Numbered objects for pools, and a factory of them whose callbacks follow a script: for each callback
and each object, what happens the first time, the second time and so on.
-/

namespace IntegrationHost.Rehearsal

/-- An object and how often it was used. -/
structure Token where
  id : Nat
  uses : Nat
  deriving DecidableEq, Repr

namespace Token

/-- What the script has for this call of a callback for an object, and the trace with the call. -/
def scripted (script : Json) (callback : String) (object : Nat) (t : Trace) : Json × Trace :=
  (((script.get callback).listAt (toString object))[t.count callback object]?.getD .null,
    t.callback callback object)

/-- A factory of tokens. A token that cannot be made uses up its number. -/
def factory (script : Json) : Pool.Factory Trace Token where
  make t :=
    let id := t.nextObject
    let (line, t) := scripted script "make" id { t with nextObject := id + 1 }
    match line.string? with
    | some reason => (.error (.creation reason), t)
    | none => (.ok ⟨id, 0⟩, t)
  validate token t :=
    let (line, t) := scripted script "validate" token.id t
    (line.bool?.getD true, t)
  activate token t :=
    let (line, t) := scripted script "activate" token.id t
    match line.string? with
    | some reason => .refused (.activation reason) token t
    | none => .done token t
  passivate token t :=
    let (line, t) := scripted script "passivate" token.id t
    match line.string? with
    | some reason => .refused (.passivation reason) token t
    | none => .done token t
  destroy token t := (scripted script "destroy" token.id t).2

end Token

end IntegrationHost.Rehearsal
