import IntegrationHost.Adapter.Definition
import IntegrationHost.Json.Access

/-!
# Drafts of definitions

Definitions put together level by level from a description in JSON. A level without an id has the
one of its type.
-/

namespace IntegrationHost.Rehearsal

/-- The id of a level. -/
def draftId (json : Json) : Option String := json.textAt? "id"

/-- The members of a kind of service: those of an object but for the id, or the fields that an array
lists behind the name of the kind. -/
def kindMembers? : Json → Option (List (Literal × Json))
  | .object members => some (members.filter fun m => m.1 != some "uniqueId")
  | .array (name :: values) => do
    let kind ← Service.Kind.ofJson? name
    if kind.fields.length < values.length then none
    else return (some "type", name) :: (kind.fields.map some).zip values
  | _ => none

/-- A service: its kind under an id; a dash stands for no id. -/
def draftService? (json : Json) : Option Service.Definition := do
  let id := (draftId json).filter (· != "-")
  match ← Service.Definition.ofJsonWithin (json.depth + 1)
      (.object (← kindMembers? (json.get "kind"))) with
  | .simple _ task => return .simple id task
  | .list _ services => return .list id services
  | .splitJoin _ size separator timeout service =>
    return .splitJoin id size separator timeout service

/-- A workflow. -/
def draftWorkflow? (json : Json) : Option WorkflowDefinition := do
  return ⟨draftId json, ← (json.listAt "services").mapM draftService?⟩

/-- A channel; it starts with its adapter unless that is denied. -/
def draftChannel? (json : Json) : Option ChannelDefinition := do
  let autoStart : Bool := match json.get "auto_start" with
    | .bool b => b
    | _ => true
  return ⟨draftId json, autoStart, ← (json.listAt "workflows").mapM draftWorkflow?⟩

/-- An adapter. -/
def draft? (json : Json) : Option AdapterDefinition := do
  return ⟨draftId json, ← (json.listAt "channels").mapM draftChannel?⟩

end IntegrationHost.Rehearsal
