import IntegrationHost.Lifecycle.Members
import IntegrationHost.Message
import IntegrationHost.Service.Error

/-!
# What services do

A service is a component with a lifecycle that processes messages. What the services of one type do
is gathered in a record, so that everything built of services can be built of any kind of them.
-/

namespace IntegrationHost.Service

open Lifecycle

/-- What is left when a service has processed a message: the service and the message, as far as they
got. -/
abbrev Processed (ω C : Type) := Attempt Fault ω (C × Message)

/-- What the services of type `C` do in surroundings `ω`. Only processing can break off without an
answer; the making of a service, its events and its check are taken to answer. -/
structure Behaviour (ω C : Type) where
  hooks : Hooks ω C
  uniqueId : C → String
  process : C → Message → ω → Processed ω C
  /-- Whether a service may be used for another message. -/
  isValid : C → Bool

/-- From what services are made, and how it is called in the names of pools and threads. -/
structure Prototype (ω C : Type) where
  describe : String
  create : ω → Except Error C × ω

/-- A line that a service logs. -/
structure LogLine where
  service : String
  text : String
  deriving DecidableEq, Repr

/-- Surroundings that keep what services log. -/
class Journal (ω : Type) where
  log : LogLine → ω → ω

/-- Run services over a message in order, up to the first that fails. -/
def processAll {ω C : Type} (b : Behaviour ω C) : Members C → Message → ω →
    Attempt Fault ω (Members C × Message)
  | [], message, world => .done ([], message) world
  | m :: rest, message, world =>
    let done := b.process m.component message world
    let first := m.withComponent done.value.1
    match done.verdict with
    | .error fault => .refused fault (first :: rest, done.value.2) done.world
    | .ok () =>
      (processAll b rest done.value.2 done.world).map fun left => (first :: left.1, left.2)

end IntegrationHost.Service
