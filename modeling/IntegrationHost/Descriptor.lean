import IntegrationHost.Json.Basic

/-!
# Descriptions of configurable types

What can stand in a configuration: each type of element with the fields it takes, for tools that
help to write one. The table lists the types in the order of their names.
-/

namespace IntegrationHost

/-- A field of a configurable type. -/
structure FieldDescriptor where
  name : String
  fieldType : String
  required : Bool
  /-- The value that stands in for a missing one, as it is shown. -/
  defaultValue : Option String
  deriving DecidableEq, Repr

/-- A configurable type. -/
structure Descriptor where
  typeName : String
  category : String
  description : String
  fields : List FieldDescriptor
  deriving DecidableEq, Repr

namespace FieldDescriptor

/-- A field that has to be there. -/
def mandatory (name fieldType : String) : FieldDescriptor := ⟨name, fieldType, true, none⟩

/-- A field that may be missing. -/
def optional (name fieldType : String) : FieldDescriptor := ⟨name, fieldType, false, none⟩

/-- A field that may be missing and then has a value. -/
def defaulted (name fieldType value : String) : FieldDescriptor :=
  ⟨name, fieldType, false, some value⟩

/-- The id of a service, which is drawn at random when it is missing. -/
def serviceId : FieldDescriptor := defaulted "uniqueId" "string" "<type>-<random>"

/-- A field as an object. -/
def toJson (f : FieldDescriptor) : Json :=
  .ofMembers
    ([("name", .ofString f.name), ("fieldType", .ofString f.fieldType),
      ("required", .bool f.required)] ++
      Json.optional "defaultValue" (f.defaultValue.map .ofString))

end FieldDescriptor

namespace Descriptor

open FieldDescriptor

/-- A part of an adapter. -/
def part (typeName description : String) (fields : List FieldDescriptor) : Descriptor :=
  ⟨typeName, "adapter", description, fields⟩

/-- A kind of service. -/
def service (typeName description : String) (fields : List FieldDescriptor) : Descriptor :=
  ⟨typeName, "service", description, serviceId :: fields⟩

/-- All types. -/
def all : List Descriptor :=
  [part "adapter" "Top-level processing unit made of channels"
      [mandatory "uniqueId" "string", optional "channels" "channel[]"],
    service "add-metadata" "Adds fixed metadata entries to every message"
      [optional "metadata" "map<string,string>"],
    service "always-fail" "Fails every message" [defaulted "message" "string" ""],
    part "channel" "Group of workflows started and stopped together"
      [mandatory "uniqueId" "string", defaulted "autoStart" "boolean" "true",
        optional "workflows" "workflow[]"],
    service "log-message" "Logs the payload" [defaulted "prefix" "string" ""],
    service "null-service" "Does nothing" [],
    service "replace-text" "Replaces every occurrence of a string in the payload"
      [mandatory "search" "string", defaulted "replacement" "string" ""],
    service "service-list" "Runs nested services in order" [optional "services" "service[]"],
    service "split-join" "Processes payload fragments concurrently with pooled copies of a service"
      [mandatory "poolSize" "integer", defaulted "separator" "string" "\\n",
        defaulted "shutdownTimeoutMs" "integer" "10000", mandatory "service" "service"],
    part "workflow" "Ordered chain of services applied to each message"
      [mandatory "uniqueId" "string", optional "services" "service[]"]]

/-- The names of all types, in order. -/
def names : List String := all.map typeName

/-- The description of a type. -/
def find? (name : String) : Option Descriptor :=
  all.find? fun d => d.typeName == name

/-- A type as an object. -/
def toJson (d : Descriptor) : Json :=
  .ofMembers
    [("typeName", .ofString d.typeName), ("category", .ofString d.category),
      ("description", .ofString d.description),
      ("fields", .array (d.fields.map FieldDescriptor.toJson))]

end Descriptor

end IntegrationHost
