import IntegrationHost.Json.Printer
import IntegrationHost.Json.Reader
import IntegrationHost.Json.Record
import IntegrationHost.Text.Dictionary
import IntegrationHost.Timestamp
import IntegrationHost.Uuid

/-!
# Messages

A message carries a payload of text and metadata under keys. Splitting a message makes fragments,
which inherit the metadata and carry a link back to the message they were cut from.
-/

namespace IntegrationHost

/-- A unit of work. -/
structure Message where
  uniqueId : Uuid
  payload : String
  metadata : Dictionary
  createdAt : Timestamp
  deriving DecidableEq

instance : Inhabited Message := ⟨⟨default, "", .empty, default⟩⟩

namespace Message

/-- The key under which a fragment names the message it was cut from. -/
def parentKey : String := "_parentMessageId"

/-- The key under which a workflow names itself. -/
def workflowKey : String := "_workflowId"

/-- The key under which a workflow names its channel. -/
def channelKey : String := "_channelId"

/-- A message with a payload and metadata whose identity and age do not matter. -/
def plain (payload : String) (metadata : Dictionary) : Message :=
  ⟨default, payload, metadata, default⟩

/-- Put an entry into the metadata. -/
def add (m : Message) (key value : String) : Message :=
  { m with metadata := m.metadata.insert key value }

/-- The fragment of a payload that is the `index`-th cut from a message. It is a message of its own,
with an identifier and a time that nothing else depends on: there is neither chance nor a clock
here, so both are counted on from those of the message. -/
def fragment (m : Message) (index : Nat) (payload : String) : Message where
  uniqueId := m.uniqueId.further (index + 1)
  payload := payload
  metadata := m.metadata.insert parentKey m.uniqueId.text
  createdAt := m.createdAt.later (index + 1)

/-! ## As JSON -/

/-- A message as an object. -/
def toJson (m : Message) : Json :=
  .ofMembers
    [("unique_id", .ofString m.uniqueId.text), ("payload", .ofString m.payload),
      ("metadata", .ofDictionary m.metadata), ("created_at", .ofString m.createdAt.text)]

/-- Read a message; every field has to be there. -/
def ofJson? (json : Json) : Option Message := do
  let fields ← json.record? ["unique_id", "payload", "metadata", "created_at"]
  let uniqueId ← Json.required? (fun v => v.string?.bind Uuid.ofText?) "unique_id" fields
  let payload ← Json.required? Json.string? "payload" fields
  let metadata ← Json.required? Json.dictionary? "metadata" fields
  let createdAt ← Json.required? (fun v => v.string?.bind Timestamp.ofText?) "created_at" fields
  return ⟨uniqueId, payload, metadata, createdAt⟩

end Message

end IntegrationHost
