import IntegrationHost.Config.Settings
import IntegrationHost.Management.Operation

/-!
# Management servers

A server knows components by their names, each name once. Adapters are known by the numbers of
their handles; the handles themselves are kept by the host, as are the components that are strangers
to it.
-/

namespace IntegrationHost.Management

/-- A component on a server. -/
inductive Bean where
  /-- The adapter with the handle of a number. -/
  | adapter (handle : Nat)
  /-- A registry, of which only the settings can be asked for. -/
  | registry (settings : Config.Settings)
  /-- A component of which nothing is known. -/
  | stranger
  deriving DecidableEq

/-- The number of the handle of an adapter. -/
def Bean.handle? : Bean → Option Nat
  | adapter handle => some handle
  | _ => none

/-- A component of which nothing is known. It answers as it likes, and may go by all that it was
asked before. -/
structure Stranger where
  answer : List Operation → Operation → Except Error Response
  /-- What it was asked so far. -/
  asked : List Operation

namespace Stranger

/-- A stranger that agrees to everything. -/
def agreeable : Stranger := ⟨fun _ _ => .ok .done, []⟩

/-- What a stranger answers, and what is left of it. -/
def ask (operation : Operation) (stranger : Stranger) : Except Error Response × Stranger :=
  (stranger.answer stranger.asked operation,
    { stranger with asked := stranger.asked ++ [operation] })

end Stranger

/-- The components on a server, under their names. -/
structure Server where
  beans : List (ObjectName × Bean)
  deriving DecidableEq

namespace Server

/-- A server without components. -/
def empty : Server := ⟨[]⟩

instance : Inhabited Server := ⟨empty⟩

/-- The component of a name. -/
def lookup (s : Server) (name : ObjectName) : Option Bean := s.beans.lookup name

/-- Whether a component of a name is on the server. -/
def knows (s : Server) (name : ObjectName) : Bool := (s.lookup name).isSome

/-- The handle of the adapter of a name. -/
def adapter? (s : Server) (name : ObjectName) : Option Nat :=
  (s.lookup name).bind Bean.handle?

/-- Put a component on the server, under a name that is not taken. -/
def register (s : Server) (name : ObjectName) (bean : Bean) : Except Error Server :=
  if s.knows name then .error (.alreadyRegistered name) else .ok ⟨s.beans ++ [(name, bean)]⟩

/-- Take whatever is under a name off the server. -/
def unregister (s : Server) (name : ObjectName) : Server :=
  ⟨s.beans.filter fun bean => bean.1 != name⟩

/-- Take whatever is under each of some names off the server. -/
def unregisterAll (s : Server) (names : List ObjectName) : Server := names.foldl unregister s

/-- The names of all components. -/
def names (s : Server) : List ObjectName := s.beans.map Prod.fst

end Server

end IntegrationHost.Management
