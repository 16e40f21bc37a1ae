import IntegrationHost.Json.Token

/-!
# Reading JSON

The second pass, from tokens to a value. Arrays and objects whose end has not come yet wait on a
stack, so the reader takes one step per token, however deep they are nested.
-/

namespace IntegrationHost.Json

/-- An array or object that is not closed yet; what it holds so far is in reverse order. -/
inductive Frame where
  | array (items : List Json)
  /-- The key whose value is being read stands last. -/
  | object (members : List (Literal × Json)) (key : Literal)

/-- What may come next. -/
inductive Phase where
  | value
  | itemOrClose
  | keyOrClose
  | key (members : List (Literal × Json))
  | colon
  | commaOrClose (last : Json)
  deriving Inhabited

/-- The reader between two tokens. -/
structure Reader where
  stack : List Frame
  phase : Phase

namespace Reader

/-- Nothing is read yet. -/
def start : Reader := ⟨[], .value⟩

/-- Read a token where a value has to come. -/
def value? (stack : List Frame) : Token → Option Reader
  | .null => some ⟨stack, .commaOrClose .null⟩
  | .bool b => some ⟨stack, .commaOrClose (.bool b)⟩
  | .number n => some ⟨stack, .commaOrClose (.number n)⟩
  | .string s => some ⟨stack, .commaOrClose (.string s)⟩
  | .arrayOpen => some ⟨.array [] :: stack, .itemOrClose⟩
  | .objectOpen => some ⟨stack, .keyOrClose⟩
  | _ => none

/-- Read a token. -/
def step (r : Reader) (token : Token) : Option Reader :=
  match r.phase, token, r.stack with
  | .value, token, stack => value? stack token
  | .itemOrClose, .arrayClose, .array [] :: stack => some ⟨stack, .commaOrClose (.array [])⟩
  | .itemOrClose, token, stack => value? stack token
  | .keyOrClose, .objectClose, stack => some ⟨stack, .commaOrClose (.object [])⟩
  | .keyOrClose, .string key, stack => some ⟨.object [] key :: stack, .colon⟩
  | .key members, .string key, stack => some ⟨.object members key :: stack, .colon⟩
  | .colon, .colon, stack => some ⟨stack, .value⟩
  | .commaOrClose last, .comma, .array items :: stack =>
    some ⟨.array (last :: items) :: stack, .value⟩
  | .commaOrClose last, .arrayClose, .array items :: stack =>
    some ⟨stack, .commaOrClose (.array (last :: items).reverse)⟩
  | .commaOrClose last, .comma, .object members key :: stack =>
    some ⟨stack, .key ((key, last) :: members)⟩
  | .commaOrClose last, .objectClose, .object members key :: stack =>
    some ⟨stack, .commaOrClose (.object ((key, last) :: members).reverse)⟩
  | _, _, _ => none

/-- Read tokens. -/
def run (r : Reader) : List Token → Option Reader
  | [] => some r
  | token :: tokens => (r.step token).bind fun r => run r tokens

/-- The value read, when nothing is missing. -/
def value (r : Reader) : Option Json :=
  match r.phase, r.stack with
  | .commaOrClose v, [] => some v
  | _, _ => none

end Reader

/-- The value that tokens spell. -/
def ofTokens? (tokens : List Token) : Option Json :=
  (Reader.start.run tokens).bind Reader.value

/-- The value that a text spells. -/
def read? (text : String) : Option Json :=
  (tokens text.toList).bind ofTokens?

end IntegrationHost.Json
