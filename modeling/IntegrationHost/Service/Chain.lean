import IntegrationHost.Service.Behaviour

/-!
# Service lists

A service made of further services, which it drives together and runs over each message in order. It
runs them whatever states they are in.
-/

namespace IntegrationHost.Service

open Lifecycle

/-- Services of type `C` in a row, under an id. -/
structure Chain (C : Type) where
  uniqueId : String
  services : Members C

namespace Chain

variable {ω C : Type}

/-- A list of new services. -/
def new (b : Behaviour ω C) (uniqueId : String) (services : List C) : Chain C :=
  ⟨uniqueId, services.map fun s => .new (b.uniqueId s) s⟩

/-- Events are passed on to all services of the list. -/
def hooks (b : Behaviour ω C) : Hooks ω (Chain C) :=
  .ofPart services (fun members chain => { chain with services := members })
    (Members.hooks b.hooks fun _ => true)

/-- Run every service over a message. -/
def process (b : Behaviour ω C) (chain : Chain C) (message : Message) (world : ω) :
    Processed ω (Chain C) :=
  (processAll b chain.services message world).map fun left =>
    ({ chain with services := left.1 }, left.2)

/-- What a list of services does. -/
def behaviour (b : Behaviour ω C) : Behaviour ω (Chain C) where
  hooks := hooks b
  uniqueId := uniqueId
  process := process b
  isValid chain := chain.services.all fun m => b.isValid m.component

end Chain

end IntegrationHost.Service
