import IntegrationHost.Json.Record
import IntegrationHost.Violation

/-!
# Service definitions

The configuration of one service. Five kinds do one simple thing to a message; a service list and a
split-join are made of further services, nested to any depth. A definition can be read from JSON,
written as JSON and checked.
-/

namespace IntegrationHost.Service

/-- What the simple kinds of service do to a message. -/
inductive Task where
  | nothing
  | addMetadata (metadata : Dictionary)
  | replaceText (search replacement : String)
  | logMessage (lead : String)
  | alwaysFail (message : String)
  deriving DecidableEq

/-- The configuration of a service. -/
inductive Definition where
  | simple (uniqueId : Option String) (task : Task)
  | list (uniqueId : Option String) (services : List Definition)
  | splitJoin (uniqueId : Option String) (poolSize : Nat) (separator : Option String)
      (shutdownTimeoutMs : Option Nat) (service : Option Definition)

instance : Inhabited Definition := ⟨.simple none .nothing⟩

/-- The kinds of service, in the order of their numbers. -/
inductive Kind where
  | nullService
  | addMetadata
  | replaceText
  | logMessage
  | alwaysFail
  | serviceList
  | splitJoin
  deriving DecidableEq, Repr

namespace Kind

/-- All kinds. -/
def all : List Kind :=
  [nullService, addMetadata, replaceText, logMessage, alwaysFail, serviceList, splitJoin]

/-- The name of a kind. -/
def name : Kind → String
  | nullService => "null-service"
  | addMetadata => "add-metadata"
  | replaceText => "replace-text"
  | logMessage => "log-message"
  | alwaysFail => "always-fail"
  | serviceList => "service-list"
  | splitJoin => "split-join"

/-- The fields that only this kind has. -/
def fields : Kind → List String
  | nullService => []
  | addMetadata => ["metadata"]
  | replaceText => ["search", "replacement"]
  | logMessage => ["prefix"]
  | alwaysFail => ["message"]
  | serviceList => ["services"]
  | splitJoin => ["poolSize", "separator", "shutdownTimeoutMs", "service"]

/-- A kind is given by its name or by its number. -/
def ofJson? : Json → Option Kind
  | .string (some word) => all.find? fun kind => kind.name == word
  | json => json.nat64?.bind fun index => all[index]?

end Kind

/-- The kind of a task. -/
def Task.kind : Task → Kind
  | .nothing => .nullService
  | .addMetadata _ => .addMetadata
  | .replaceText _ _ => .replaceText
  | .logMessage _ => .logMessage
  | .alwaysFail _ => .alwaysFail

namespace Definition

/-- The configured id. -/
def uniqueId : Definition → Option String
  | simple id _ => id
  | list id _ => id
  | splitJoin id _ _ _ _ => id

/-- The kind of a definition. -/
def kind : Definition → Kind
  | simple _ task => task.kind
  | list _ _ => .serviceList
  | splitJoin _ _ _ _ _ => .splitJoin

/-- How a definition is called in the names of pools and threads. -/
def describe (d : Definition) : String :=
  d.uniqueId.getD d.kind.name

/-- The id of a service made from the definition. Without one that says something a service gets the
name of its kind and eight digits drawn at random, here written as `########`. -/
def resolvedId (d : Definition) : String :=
  match d.uniqueId with
  | some id => if Text.isBlank id then d.kind.name ++ "-########" else id
  | none => d.kind.name ++ "-########"

/-- The separator of a split-join that names none. -/
def defaultSeparator : String := "\n"

/-- How long a split-join waits for its threads, in milliseconds, if it does not say. -/
def defaultShutdownTimeoutMs : Nat := 10000

/-- What a split-join without a nested service runs. -/
def defaultNested : Definition := simple none .nothing

mutual

/-- How many levels of lists and split-joins a definition has. -/
def rank : Definition → Nat
  | simple _ _ => 0
  | list _ services => rankAll services + 1
  | splitJoin _ _ _ _ service => rankOf service + 1

/-- The greatest rank among definitions. -/
def rankAll : List Definition → Nat
  | [] => 0
  | d :: rest => max d.rank (rankAll rest)

/-- The rank of a nested service that may be missing. -/
def rankOf : Option Definition → Nat
  | none => 0
  | some d => d.rank

end

/-! ## As JSON -/

/-- The members that all kinds begin with. -/
def headMembers (id : Option String) (kind : Kind) : List (String × Json) :=
  Json.optional "uniqueId" (id.map .ofString) ++ [("type", .ofString kind.name)]

/-- The members of a task. -/
def taskMembers : Task → List (String × Json)
  | .nothing => []
  | .addMetadata metadata => [("metadata", .ofDictionary metadata)]
  | .replaceText search replacement =>
    [("search", .ofString search), ("replacement", .ofString replacement)]
  | .logMessage lead => [("prefix", .ofString lead)]
  | .alwaysFail message => [("message", .ofString message)]

mutual

/-- A definition as an object. -/
def toJson : Definition → Json
  | simple id task => .ofMembers (headMembers id task.kind ++ taskMembers task)
  | list id services =>
    .ofMembers (headMembers id .serviceList ++ [("services", .array (listJson services))])
  | splitJoin id poolSize separator timeout service =>
    .ofMembers
      (headMembers id .splitJoin ++ [("poolSize", .ofNat poolSize)] ++
        Json.optional "separator" (separator.map .ofString) ++
        Json.optional "shutdownTimeoutMs" (timeout.map .ofNat) ++
        Json.optional "service" (nestedJson service))

/-- Definitions as objects. -/
def listJson : List Definition → List Json
  | [] => []
  | d :: rest => d.toJson :: listJson rest

/-- A nested service as an object. -/
def nestedJson : Option Definition → Option Json
  | none => none
  | some d => some d.toJson

end

/-- How many arrays and objects may stand around each other in a configuration. -/
def nestingLimit : Nat := 127

/-- Read a definition of which no more than `levels` stand around each other. -/
def ofJsonWithin : Nat → Json → Option Definition
  | levels + 1, .object members => do
    let head ← Json.knownMembers? ["uniqueId", "type"] members
    let id ← Json.optional? Json.string? "uniqueId" head
    let kind ← Json.required? Kind.ofJson? "type" head
    let fields ← Json.knownMembers? kind.fields members
    match kind with
    | .nullService => return simple id .nothing
    | .addMetadata =>
      return simple id (.addMetadata (← Json.field? Json.dictionary? .empty "metadata" fields))
    | .replaceText =>
      return simple id
        (.replaceText (← Json.field? Json.string? "" "search" fields)
          (← Json.field? Json.string? "" "replacement" fields))
    | .logMessage => return simple id (.logMessage (← Json.field? Json.string? "" "prefix" fields))
    | .alwaysFail => return simple id (.alwaysFail (← Json.field? Json.string? "" "message" fields))
    | .serviceList =>
      return list id (← Json.field? (Json.list? (ofJsonWithin levels)) [] "services" fields)
    | .splitJoin =>
      return splitJoin id (← Json.field? Json.nat64? 0 "poolSize" fields)
        (← Json.optional? Json.string? "separator" fields)
        (← Json.optional? Json.nat64? "shutdownTimeoutMs" fields)
        (← Json.optional? (ofJsonWithin levels) "service" fields)
  | _, _ => none

/-- Read a definition that stands inside `level` arrays and objects. All of it has to be sound, also
the members that no kind knows. -/
def ofJson? (level : Nat) (json : Json) : Option Definition :=
  if json.isSound && level + json.depth ≤ nestingLimit then ofJsonWithin nestingLimit json
  else none

/-! ## Checking -/

/-- The violations of a task at a path. -/
def taskViolations (path : String) : Task → List Violation
  | .addMetadata metadata =>
    if metadata.keys.any Text.isBlank then
      [⟨childPath path "metadata", "keys may not be blank"⟩]
    else []
  | .replaceText search _ =>
    if search.isEmpty then [⟨childPath path "search", "may not be empty"⟩] else []
  | _ => []

mutual

/-- The violations of a definition at a path. -/
def violations (path : String) : Definition → List Violation
  | simple _ task => taskViolations path task
  | list _ services => listViolations (childPath path "services") 0 services
  | splitJoin _ poolSize separator _ service =>
    (if poolSize < 1 then
      [⟨childPath path "poolSize", "must be greater than or equal to 1"⟩]
    else []) ++
    (if separator = some "" then [⟨childPath path "separator", "may not be empty"⟩] else []) ++
    nestedViolations (childPath path "service") service

/-- The violations of the definitions in a list, of which the first has an index. -/
def listViolations (path : String) (index : Nat) : List Definition → List Violation
  | [] => []
  | d :: rest => d.violations (itemPath path index) ++ listViolations path (index + 1) rest

/-- The violations of the nested service of a split-join, which may not be missing. -/
def nestedViolations (path : String) : Option Definition → List Violation
  | none => [⟨path, "may not be null"⟩]
  | some d => d.violations path

end

end Definition

end IntegrationHost.Service
