import IntegrationHost.Text.Dictionary
import IntegrationHost.Text.Search

/-!
# Object names

The name of a component on a management server: a domain, a colon, and pairs `key=value` with commas
between them. The pairs are kept by key, so the order in which they are given does not matter, and
each name has one text.
-/

namespace IntegrationHost

namespace ObjectName

/-- What can be wrong with a name. -/
inductive Flaw where
  | invalidDomain (domain : String)
  | invalidProperty (key value : String)
  | duplicateKey (key : String)
  | noProperties (domain : String)
  | noDomain (text : String)
  | notAPair (text : String)
  deriving DecidableEq, Repr

/-- The wording of a flaw. -/
def Flaw.message : Flaw → String
  | invalidDomain domain => "invalid domain '" ++ domain ++ "'"
  | invalidProperty key value => "invalid key property '" ++ key ++ "=" ++ value ++ "'"
  | duplicateKey key => "duplicate key '" ++ key ++ "'"
  | noProperties domain => "'" ++ domain ++ "' has no key properties"
  | noDomain text => "'" ++ text ++ "' has no domain"
  | notAPair text => "'" ++ text ++ "' is not key=value"

/-- A domain says something and holds none of the marks of a name. -/
def isDomain (domain : String) : Bool :=
  !domain.isEmpty && !Text.hasAny [':', ',', '='] domain

/-- A key or value says something, on one line, and holds none of the marks of a name. -/
def isPart (part : String) : Bool :=
  !part.isEmpty && !Text.hasAny [':', ',', '=', '\n'] part

/-- What a domain and properties have to be. -/
def isValid (domain : String) (properties : Dictionary) : Bool :=
  isDomain domain && !properties.entries.isEmpty &&
    properties.entries.all fun entry => isPart entry.1 && isPart entry.2

end ObjectName

/-- The name of a component. -/
structure ObjectName where
  domain : String
  properties : Dictionary
  valid : ObjectName.isValid domain properties = true
  deriving DecidableEq

namespace ObjectName

/-- Put pairs into a dictionary, as long as they are valid and their keys new. -/
def collect (into : Dictionary) : List (String × String) → Except Flaw Dictionary
  | [] => .ok into
  | (key, value) :: rest =>
    if !isPart key || !isPart value then .error (.invalidProperty key value)
    else if (into.get? key).isSome then .error (.duplicateKey key)
    else collect (into.insert key value) rest

/-- The name with a domain and properties. -/
def new (domain : String) (properties : List (String × String)) : Except Flaw ObjectName :=
  if !isDomain domain then .error (.invalidDomain domain)
  else
    match collect .empty properties with
    | .error flaw => .error flaw
    | .ok properties =>
      if h : isValid domain properties = true then .ok ⟨domain, properties, h⟩
      else .error (.noProperties domain)

/-- The key and value of a pair. -/
def pair? (text : String) : Except Flaw (String × String) :=
  match Text.splitOnce "=" text with
  | some found => .ok found
  | none => .error (.notAPair text)

/-- Read a name. -/
def ofText (text : String) : Except Flaw ObjectName :=
  match Text.splitOnce ":" text with
  | none => .error (.noDomain text)
  | some (domain, rest) => do
    let properties ← (Text.split "," rest).mapM pair?
    new domain properties

/-- Write a name. -/
def text (name : ObjectName) : String :=
  name.domain ++ ":" ++
    ",".intercalate (name.properties.entries.map fun entry => entry.1 ++ "=" ++ entry.2)

/-- The value of a key. -/
def get? (name : ObjectName) (key : String) : Option String := name.properties.get? key

/-- The value of the key `id`. -/
def id? (name : ObjectName) : Option String := name.get? "id"

/-- The domain of the names that the host gives out. -/
def hostDomain : String := "com.adapter.runtime"

/-- The name of an adapter. -/
def adapter (uniqueId : String) : Except Flaw ObjectName :=
  new hostDomain [("type", "Adapter"), ("id", uniqueId)]

/-- The name of a registry. -/
def registry (registryId : String) : Except Flaw ObjectName :=
  new hostDomain [("type", "AdapterRegistry"), ("id", registryId)]

/-- The id of a registry that has none of its own. -/
def defaultRegistryId : String := "AdapterRegistry"

/-- Compare pairs by key, then by value. -/
def comparePairs : List (String × String) → List (String × String) → Ordering
  | [], [] => .eq
  | [], _ :: _ => .lt
  | _ :: _, [] => .gt
  | a :: as, b :: bs =>
    ((compare a.1 b.1).then (compare a.2 b.2)).then (comparePairs as bs)

/-- Names are ordered by domain, then by their pairs. -/
instance : Ord ObjectName where
  compare a b :=
    (compare a.domain b.domain).then (comparePairs a.properties.entries b.properties.entries)

end ObjectName

end IntegrationHost
