import IntegrationHost.Service.Equality

/-!
# Adapter definitions

The configuration of an adapter: channels, which hold workflows, which hold services. Ids may be
missing from a definition; that is for the check to report, together with everything else that is
wrong.
-/

namespace IntegrationHost

/-- A chain of services under an id. -/
structure WorkflowDefinition where
  uniqueId : Option String
  services : List Service.Definition
  deriving DecidableEq

/-- Workflows that are started and stopped together. -/
structure ChannelDefinition where
  uniqueId : Option String
  /-- Whether the channel starts with its adapter. -/
  autoStart : Bool
  workflows : List WorkflowDefinition
  deriving DecidableEq

/-- The configuration of an adapter. -/
structure AdapterDefinition where
  uniqueId : Option String
  channels : List ChannelDefinition
  deriving DecidableEq

namespace WorkflowDefinition

/-- A workflow without id and services. -/
def empty : WorkflowDefinition := ⟨none, []⟩

/-- The id under which the workflow is known. -/
def id (d : WorkflowDefinition) : String := d.uniqueId.getD ""

/-- A workflow as an object. -/
def toJson (d : WorkflowDefinition) : Json :=
  .ofMembers
    (Json.optional "uniqueId" (d.uniqueId.map .ofString) ++
      [("services", .array (Service.Definition.listJson d.services))])

/-- Read a workflow that stands inside `level` arrays and objects. -/
def ofJson? (level : Nat) (json : Json) : Option WorkflowDefinition := do
  let fields ← json.record? ["uniqueId", "services"]
  return {
    uniqueId := ← Json.optional? Json.string? "uniqueId" fields
    services := ← Json.field? (Json.list? (Service.Definition.ofJson? (level + 2))) [] "services"
      fields }

/-- The violations of a workflow at a path. -/
def violations (path : String) (d : WorkflowDefinition) : List Violation :=
  Violation.nonBlank (childPath path "uniqueId") d.uniqueId ++
    Service.Definition.listViolations (childPath path "services") 0 d.services

end WorkflowDefinition

namespace ChannelDefinition

/-- A channel without id and workflows that starts with its adapter. -/
def empty : ChannelDefinition := ⟨none, true, []⟩

/-- The id under which the channel is known. -/
def id (d : ChannelDefinition) : String := d.uniqueId.getD ""

/-- A channel as an object. -/
def toJson (d : ChannelDefinition) : Json :=
  .ofMembers
    (Json.optional "uniqueId" (d.uniqueId.map .ofString) ++
      [("autoStart", .bool d.autoStart),
        ("workflows", .array (d.workflows.map WorkflowDefinition.toJson))])

/-- Read a channel that stands inside `level` arrays and objects. -/
def ofJson? (level : Nat) (json : Json) : Option ChannelDefinition := do
  let fields ← json.record? ["uniqueId", "autoStart", "workflows"]
  return {
    uniqueId := ← Json.optional? Json.string? "uniqueId" fields
    autoStart := ← Json.field? Json.bool? true "autoStart" fields
    workflows := ← Json.field? (Json.list? (WorkflowDefinition.ofJson? (level + 2))) [] "workflows"
      fields }

/-- The violations of the workflows in a list, of which the first has an index. -/
def workflowViolations (path : String) (index : Nat) : List WorkflowDefinition → List Violation
  | [] => []
  | d :: rest => d.violations (itemPath path index) ++ workflowViolations path (index + 1) rest

/-- The violations of a channel at a path. -/
def violations (path : String) (d : ChannelDefinition) : List Violation :=
  Violation.nonBlank (childPath path "uniqueId") d.uniqueId ++
    Violation.repeated (childPath path "workflows")
      (d.workflows.filterMap WorkflowDefinition.uniqueId) ++
    workflowViolations (childPath path "workflows") 0 d.workflows

end ChannelDefinition

namespace AdapterDefinition

/-- An adapter without id and channels. -/
def empty : AdapterDefinition := ⟨none, []⟩

instance : Inhabited AdapterDefinition := ⟨empty⟩

/-- The id under which the adapter is known. -/
def id (d : AdapterDefinition) : String := d.uniqueId.getD ""

/-- An adapter as an object. -/
def toJson (d : AdapterDefinition) : Json :=
  .ofMembers
    (Json.optional "uniqueId" (d.uniqueId.map .ofString) ++
      [("channels", .array (d.channels.map ChannelDefinition.toJson))])

/-- Read an adapter. -/
def ofJson? (json : Json) : Option AdapterDefinition := do
  let fields ← json.record? ["uniqueId", "channels"]
  return {
    uniqueId := ← Json.optional? Json.string? "uniqueId" fields
    channels := ← Json.field? (Json.list? (ChannelDefinition.ofJson? 2)) [] "channels" fields }

/-- The violations of the channels in a list, of which the first has an index. -/
def channelViolations (path : String) (index : Nat) : List ChannelDefinition → List Violation
  | [] => []
  | d :: rest => d.violations (itemPath path index) ++ channelViolations path (index + 1) rest

/-- The violations of an adapter at a path. -/
def violations (path : String) (d : AdapterDefinition) : List Violation :=
  Violation.nonBlank (childPath path "uniqueId") d.uniqueId ++
    Violation.repeated (childPath path "channels")
      (d.channels.filterMap ChannelDefinition.uniqueId) ++
    channelViolations (childPath path "channels") 0 d.channels

/-- The greatest rank of the services of an adapter. -/
def rank (d : AdapterDefinition) : Nat :=
  Service.Definition.rankAll (d.channels.flatMap fun c => c.workflows.flatMap (·.services))

end AdapterDefinition

end IntegrationHost
