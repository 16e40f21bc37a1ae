import IntegrationHost.Lifecycle.State
import IntegrationHost.Management.ObjectName

/-!
# Management operations

What can be asked of a component by its name, what it answers, and why nothing came of it.
-/

namespace IntegrationHost.Management

/-- What can be asked of a component by name. -/
inductive Operation where
  /-- Bring the component at least as far as an event leads. -/
  | request (event : Lifecycle.Event)
  | getState
  | getConfiguration
  deriving DecidableEq, Repr

namespace Operation

/-- All operations. -/
def all : List Operation :=
  Lifecycle.Event.all.map request ++ [getState, getConfiguration]

/-- The word for an operation. -/
def name : Operation → String
  | request event => "request_" ++ event.name
  | getState => "get_state"
  | getConfiguration => "get_configuration"

/-- The operation that a word stands for. -/
def ofName? (word : String) : Option Operation :=
  all.find? fun operation => operation.name == word

end Operation

/-- What a component answers. -/
inductive Response where
  | done
  | state (state : Lifecycle.State)
  | configuration (text : String)
  deriving DecidableEq, Repr

/-- Why an operation on a management server came to nothing. -/
inductive Error where
  | malformedName (reason : String)
  | notRegistered (name : ObjectName)
  | alreadyRegistered (name : ObjectName)
  | unsupported (name : ObjectName) (operation : Operation)
  /-- The component was reached and failed; only its words are known. -/
  | invocation (text : String)
  deriving DecidableEq

namespace Error

/-- The kind of a failure, as it is named in reports. -/
def kind : Error → String
  | malformedName _ => "MalformedName"
  | notRegistered _ => "NotRegistered"
  | alreadyRegistered _ => "AlreadyRegistered"
  | unsupported .. => "Unsupported"
  | invocation _ => "Invocation"

/-- The failure that a flaw of a name amounts to. -/
def ofFlaw (flaw : ObjectName.Flaw) : Error :=
  malformedName flaw.message

/-- The wording of a failure. -/
def message : Error → String
  | malformedName reason => "Malformed object name: " ++ reason
  | notRegistered name => "[" ++ name.text ++ "] is not registered"
  | alreadyRegistered name => "[" ++ name.text ++ "] is already registered"
  | unsupported name operation =>
    "[" ++ name.text ++ "] does not support " ++ operation.name
  | invocation text => text

end Error

end IntegrationHost.Management
