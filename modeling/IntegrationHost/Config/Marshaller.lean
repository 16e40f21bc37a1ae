import IntegrationHost.Adapter.Definition
import IntegrationHost.Config.Error
import IntegrationHost.Json.Printer
import IntegrationHost.Json.Reader

/-!
# Marshallers

How the definition of an adapter is written as text and read from it.
-/

namespace IntegrationHost.Config

/-- Writes and reads definitions of adapters. -/
structure Marshaller where
  marshal : AdapterDefinition → String
  unmarshal : String → Except Error AdapterDefinition

namespace Marshaller

/-- The definition that a JSON text spells. -/
def ofJson (text : String) : Except Error AdapterDefinition :=
  match (Json.read? text).bind AdapterDefinition.ofJson? with
  | some definition => .ok definition
  | none => .error (.unmarshal Error.detail)

/-- Definitions as JSON, one item or member a line. -/
def json : Marshaller := ⟨fun definition => definition.toJson.pretty, ofJson⟩

end Marshaller

end IntegrationHost.Config
