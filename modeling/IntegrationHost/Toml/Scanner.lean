import IntegrationHost.Json.Token

/-!
# Parts of TOML

The smallest parts of a TOML text: blanks, comments and line ends, the four kinds of strings, and
keys. Each scanner looks at the start of the characters and gives back what it found and what
follows it.
-/

namespace IntegrationHost.Toml

/-- A blank inside a line. -/
def isSpace (c : Char) : Bool := c == ' ' || c == '\t'

/-- What follows the blanks of the line. -/
def skipSpace (cs : List Char) : List Char := cs.dropWhile isSpace

/-- What follows a character. -/
def after? (c : Char) : List Char → Option (List Char)
  | x :: rest => if x = c then some rest else none
  | [] => none

/-- A character that may stand in a comment or a string: no control character but the tab. -/
def isPlain (c : Char) : Bool :=
  c == '\t' || decide (0x20 ≤ c.toNat ∧ c.toNat ≠ 0x7f)

/-- What follows blanks, line ends and comments; a comment may be under way already. -/
def skipFiller : Bool → List Char → Option (List Char)
  | _, [] => some []
  | _, '\n' :: rest => skipFiller false rest
  | _, '\r' :: '\n' :: rest => skipFiller false rest
  | true, c :: rest => if isPlain c then skipFiller true rest else none
  | false, c :: rest =>
    if isSpace c then skipFiller false rest
    else if c == '#' then skipFiller true rest
    else some (c :: rest)

/-- What follows the end of the line, when only blanks and a comment come before it. -/
def lineEnd? (cs : List Char) : Option (List Char) :=
  let rest := match skipSpace cs with
    | '#' :: rest => rest.dropWhile isPlain
    | rest => rest
  match rest with
  | [] => some []
  | '\n' :: rest => some rest
  | '\r' :: '\n' :: rest => some rest
  | _ => none

/-! ## Strings -/

/-- The character of hexadecimal digits. -/
def scalar? (digits : List Char) : Option Char := do
  let values ← digits.mapM Json.hexValue?
  let n := values.foldl (fun n v => n * 16 + v) 0
  if h : n.isValidChar then some (Char.ofNatAux n h) else none

/-- The character that stands behind a backslash for another one. -/
def escaped? : Char → Option Char
  | '/' => none
  | c => Json.escaped? c

/-- The character of an escape whose backslash is already read. -/
def escape? : List Char → Option (Char × List Char)
  | 'u' :: rest => do
    if rest.length < 4 then none else return (← scalar? (rest.take 4), rest.drop 4)
  | 'U' :: rest => do
    if rest.length < 8 then none else return (← scalar? (rest.take 8), rest.drop 8)
  | c :: rest => (escaped? c).map fun c => (c, rest)
  | [] => none

/-- A basic string on one line, behind its opening quote. -/
def basic? : Nat → List Char → Option (List Char × List Char)
  | 0, _ => none
  | bound + 1, cs =>
    match cs with
    | [] => none
    | '"' :: rest => some ([], rest)
    | '\\' :: rest => do
      let (c, rest) ← escape? rest
      let (more, rest) ← basic? bound rest
      return (c :: more, rest)
    | c :: rest =>
      if isPlain c then (basic? bound rest).map fun found => (c :: found.1, found.2) else none

/-- A literal string on one line, behind its opening quote. -/
def literal? : List Char → Option (List Char × List Char)
  | [] => none
  | '\'' :: rest => some ([], rest)
  | c :: rest =>
    if isPlain c then (literal? rest).map fun found => (c :: found.1, found.2) else none

/-- What follows a line end at the start, if one is there. -/
def newline? : List Char → Option (List Char)
  | '\n' :: rest => some rest
  | '\r' :: '\n' :: rest => some rest
  | _ => none

/-- What follows the quotes that close a string of several lines, and how many of the quotes belong
to the string: three quotes close it, and two more may stand before them. -/
def closing? (quote : Char) (cs : List Char) : Option (Nat × List Char) :=
  let run := (cs.takeWhile (· == quote)).length
  if run < 3 then none else some (min run 5 - 3, cs.drop (min run 5))

/-- What follows blanks and line ends. -/
def skipLines : List Char → List Char
  | '\n' :: rest => skipLines rest
  | '\r' :: '\n' :: rest => skipLines rest
  | c :: rest => if isSpace c then skipLines rest else c :: rest
  | [] => []

/-- A basic string of several lines, behind its opening quotes. A backslash at the end of a line
joins it to the next text, however many blank lines lie between. -/
def multilineBasic? : Nat → List Char → Option (List Char × List Char)
  | 0, _ => none
  | bound + 1, cs =>
    match closing? '"' cs with
    | some (quotes, rest) => some (List.replicate quotes '"', rest)
    | none =>
      match cs with
      | [] => none
      | '\\' :: rest =>
        if (newline? (skipSpace rest)).isSome then multilineBasic? bound (skipLines rest)
        else do
          let (c, rest) ← escape? rest
          let (more, rest) ← multilineBasic? bound rest
          return (c :: more, rest)
      | c :: rest =>
        match newline? (c :: rest) with
        | some rest => (multilineBasic? bound rest).map fun found => ('\n' :: found.1, found.2)
        | none =>
          if isPlain c then (multilineBasic? bound rest).map fun found => (c :: found.1, found.2)
          else none

/-- A literal string of several lines, behind its opening quotes. -/
def multilineLiteral? : Nat → List Char → Option (List Char × List Char)
  | 0, _ => none
  | bound + 1, cs =>
    match closing? '\'' cs with
    | some (quotes, rest) => some (List.replicate quotes '\'', rest)
    | none =>
      match cs, newline? cs with
      | _, some rest => (multilineLiteral? bound rest).map fun found => ('\n' :: found.1, found.2)
      | [], none => none
      | c :: rest, none =>
        if isPlain c then (multilineLiteral? bound rest).map fun found => (c :: found.1, found.2)
        else none

/-- What follows the line end right behind opening quotes, which is no part of the string. -/
def skipNewline (cs : List Char) : List Char := (newline? cs).getD cs

/-- A string of any kind. -/
def string? : List Char → Option (String × List Char)
  | '"' :: '"' :: '"' :: rest =>
    (multilineBasic? (rest.length + 1) (skipNewline rest)).map fun found =>
      (String.ofList found.1, found.2)
  | '"' :: rest => (basic? (rest.length + 1) rest).map fun found => (String.ofList found.1, found.2)
  | '\'' :: '\'' :: '\'' :: rest =>
    (multilineLiteral? (rest.length + 1) (skipNewline rest)).map fun found =>
      (String.ofList found.1, found.2)
  | '\'' :: rest => (literal? rest).map fun found => (String.ofList found.1, found.2)
  | _ => none

/-! ## Keys -/

/-- A character of a bare key. -/
def isKeyChar (c : Char) : Bool := c.isAlphanum || c == '_' || c == '-'

/-- A key without points. -/
def simpleKey? : List Char → Option (String × List Char)
  | '"' :: rest => (basic? (rest.length + 1) rest).map fun found => (String.ofList found.1, found.2)
  | '\'' :: rest => (literal? rest).map fun found => (String.ofList found.1, found.2)
  | cs =>
    match cs.takeWhile isKeyChar with
    | [] => none
    | key => some (String.ofList key, cs.dropWhile isKeyChar)

/-- Keys with points between them, and blanks around the points, given a bound on their number. -/
def keys? : Nat → List Char → Option (List String × List Char)
  | 0, _ => none
  | bound + 1, cs => do
    let (key, rest) ← simpleKey? (skipSpace cs)
    match skipSpace rest with
    | '.' :: rest => do
      let (more, rest) ← keys? bound rest
      return (key :: more, rest)
    | rest => return ([key], rest)

end IntegrationHost.Toml
