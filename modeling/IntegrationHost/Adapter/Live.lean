import IntegrationHost.Adapter.Definition
import IntegrationHost.Service.Live

/-!
# Live adapters

An adapter drives its channels, a channel its workflows, a workflow its services. Each level passes
its own events on to the level below; an adapter starts only the channels that start with it.
Messages go to the first started workflow of a name.
-/

namespace IntegrationHost

open Lifecycle Service

/-- A chain of services of type `C` at work. -/
structure Workflow (C : Type) where
  uniqueId : String
  channelId : String
  services : Members C

/-- Workflows that are started and stopped together. -/
structure Channel (C : Type) where
  uniqueId : String
  autoStart : Bool
  workflows : Members (Workflow C)

/-- The whole of an adapter. -/
structure Adapter (C : Type) where
  uniqueId : String
  channels : Members (Channel C)

variable {ω C : Type}

namespace Workflow

/-- A workflow of a channel, with services still to be managed under their ids. -/
def new (b : Behaviour ω C) (channelId uniqueId : String) (services : List C) : Workflow C :=
  ⟨uniqueId, channelId, services.map fun s => .new (b.uniqueId s) s⟩

/-- Events are passed on to all services. -/
def hooks (b : Behaviour ω C) : Hooks ω (Workflow C) :=
  .ofPart services (fun members workflow => { workflow with services := members })
    (Members.hooks b.hooks fun _ => true)

/-- Mark a message with the workflow and its channel. -/
def mark (w : Workflow C) (message : Message) : Message :=
  (message.add Message.workflowKey w.uniqueId).add Message.channelKey w.channelId

/-- Run every service over a message, up to the first that fails. -/
def process (b : Behaviour ω C) (w : Workflow C) (message : Message) (world : ω) :
    Attempt Fault ω (Workflow C × Message) :=
  (processAll b w.services (w.mark message) world).map fun left =>
    ({ w with services := left.1 }, left.2)

end Workflow

namespace Channel

/-- Events are passed on to all workflows. -/
def hooks (b : Behaviour ω C) : Hooks ω (Channel C) :=
  .ofPart workflows (fun members channel => { channel with workflows := members })
    (Members.hooks (Workflow.hooks b) fun _ => true)

end Channel

namespace Adapter

/-- Events are passed on to the channels; only those that start with their adapter are started. -/
def hooks (b : Behaviour ω C) : Hooks ω (Adapter C) :=
  .ofPart channels (fun members adapter => { adapter with channels := members })
    (Members.hooks (Channel.hooks b) fun channel => channel.component.autoStart)

/-- The first member of a name if it is started, with what stands before and behind it. -/
def started? {D : Type} (name : String) (members : Members D) :
    Option (Members D × Managed D × Members D) :=
  match members.span fun m => m.name != name with
  | (before, m :: behind) => if m.state = .started then some (before, m, behind) else none
  | (_, []) => none

/-- Have a message processed by the first started workflow of a name, if the channels have one. In
each started channel only the first workflow of the name is looked at. -/
def route (b : Behaviour ω C) (name : String) (message : Message) (world : ω) :
    Members (Channel C) → Option (Attempt Fault ω (Members (Channel C) × Message))
  | [] => none
  | m :: rest =>
    let found := if m.state = .started then started? name m.component.workflows else none
    match found with
    | some (before, workflow, behind) =>
      let done := workflow.component.process b message world
      some (done.map fun left =>
        let workflows := before ++ workflow.withComponent left.1 :: behind
        (m.withComponent { m.component with workflows } :: rest, left.2))
    | none => (route b name message world rest).map fun done =>
        done.map fun left => (m :: left.1, left.2)

/-- Process a message in the workflow of a name. -/
def process (b : Behaviour ω C) (a : Adapter C) (workflow : String) (message : Message)
    (world : ω) : Attempt Fault ω (Adapter C × Message) :=
  match route b workflow message world a.channels with
  | some done => done.map fun left => ({ a with channels := left.1 }, left.2)
  | none =>
    .refused
      (.error (.unavailable workflow ("no started workflow in adapter " ++ a.uniqueId)))
      (a, message) world

end Adapter

/-! ## From definitions -/

/-- An adapter whose services are of some level. -/
structure LiveAdapter (ω : Type) where
  level : Nat
  adapter : Adapter (Live ω Simple level)

namespace AdapterDefinition

/-- The rank of an adapter is at least that of each of its services. -/
theorem rank_le {d : AdapterDefinition} {channel : ChannelDefinition}
    {workflow : WorkflowDefinition} {service : Service.Definition} (hc : channel ∈ d.channels)
    (hw : workflow ∈ channel.workflows) (hs : service ∈ workflow.services) :
    service.rank ≤ d.rank :=
  Definition.rank_le_rankAll
    (List.mem_flatMap.2 ⟨channel, hc, List.mem_flatMap.2 ⟨workflow, hw, hs⟩⟩)

/-- The adapter of a definition, with services of the level that is its rank. -/
def instantiate {ω : Type} [Journal ω] (d : AdapterDefinition) : Adapter (Live ω Simple d.rank) :=
  ⟨d.id, d.channels.attach.map fun channel =>
    .new channel.1.id
      ⟨channel.1.id, channel.1.autoStart, channel.1.workflows.attach.map fun workflow =>
        .new workflow.1.id
          (.new (Live.behaviour (Simple.behaviour ω) d.rank) channel.1.id workflow.1.id
            (workflow.1.services.attach.map fun service =>
              service.1.instantiate d.rank (rank_le channel.2 workflow.2 service.2)))⟩⟩

end AdapterDefinition

namespace LiveAdapter

variable {ω : Type} [Journal ω]

/-- The adapter of a definition. -/
def ofDefinition (d : AdapterDefinition) : LiveAdapter ω := ⟨d.rank, d.instantiate⟩

/-- What the services of an adapter do. -/
def services (level : Nat) : Behaviour ω (Live ω Simple level) :=
  Live.behaviour (Simple.behaviour ω) level

/-- What an adapter does at each event. -/
def hooks : Hooks ω (LiveAdapter ω) where
  run event a world :=
    ((Adapter.hooks (services a.level)).run event a.adapter world).map fun adapter =>
      ⟨a.level, adapter⟩

/-- Process a message in the workflow of a name. -/
def process (a : LiveAdapter ω) (workflow : String) (message : Message) (world : ω) :
    Attempt Fault ω (LiveAdapter ω × Message) :=
  (a.adapter.process (services a.level) workflow message world).map fun left =>
    (⟨a.level, left.1⟩, left.2)

/-- The channels with their ids, states and whether they start with the adapter. -/
def channels (a : LiveAdapter ω) : List (String × State × Bool) :=
  a.adapter.channels.map fun m => (m.name, m.state, m.component.autoStart)

end LiveAdapter

end IntegrationHost
