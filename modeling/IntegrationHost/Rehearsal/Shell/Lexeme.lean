import IntegrationHost.Rehearsal.Shell.Script

/-!
# The lexemes of scripts

A script is cut into words and marks. Quotes, a backslash and the letters behind a dollar sign
decide what a word is made of; blanks and marks end it where they stand in no quotes.
-/

namespace IntegrationHost.Rehearsal

/-- A lexeme of a script. -/
inductive Lexeme where
  | word (parts : Word)
  | mark (text : String)
  /-- The number of the channel that is led somewhere next. -/
  | channel (number : Nat)
  /-- Lines that a command is to read. -/
  | text (parts : Word)
  /-- What is wrong with the rest of the script. -/
  | broken (words : String)
  deriving DecidableEq, Repr

/-! ## Words -/

namespace Word

/-- Whether a character ends a word that is not in quotes. -/
def endsWord (c : Char) : Bool := [' ', '\t', '\n', ';', '&', '|', '<', '>', '(', ')'].contains c

/-- Whether a name can begin with a character. -/
def beginsName (c : Char) : Bool := c.isAlpha || c == '_'

/-- Whether a name can go on with a character. -/
def isInName (c : Char) : Bool := c.isAlphanum || c == '_'

/-- Whether characters are a name. -/
def isName (cs : List Char) : Bool :=
  match cs with
  | [] => false
  | c :: cs => beginsName c && cs.all isInName

/-- Whether a character names a value by itself. -/
def isSpecial (c : Char) : Bool := c.isDigit || ['@', '*', '#', '?', '$', '!', '-'].contains c

/-- What stands before the parenthesis that closes, and what follows it. -/
def enclosed : Nat → Option Char → List Char → Option (List Char × List Char)
  | _, _, [] => none
  | depth, some quote, c :: rest =>
    (enclosed depth (if c = quote then none else some quote) rest).map fun (inner, rest) =>
      (c :: inner, rest)
  | depth, none, c :: rest =>
    if c = ')' ∧ depth = 0 then some ([], rest)
    else
      let depth := if c = '(' then depth + 1 else if c = ')' then depth - 1 else depth
      let quote := if c = '\'' ∨ c = '"' then some c else none
      (enclosed depth quote rest).map fun (inner, rest) => (c :: inner, rest)

/-- What stands before the backquote that closes, and what follows it. -/
def backquoted : List Char → Option (List Char × List Char)
  | [] => none
  | '\x60' :: rest => some ([], rest)
  | '\\' :: c :: rest =>
    (backquoted rest).map fun (inner, rest) =>
      (if ['\x60', '\\', '$'].contains c then (c :: inner, rest) else ('\\' :: c :: inner, rest))
  | c :: rest => (backquoted rest).map fun (inner, rest) => (c :: inner, rest)

/-- The part that a dollar sign begins, and what follows it. -/
def dollar (quoted : Bool) (cs : List Char) : Except String (Part × List Char) :=
  match cs with
  | '(' :: rest =>
    match enclosed 0 none rest with
    | some ('(' :: inner, rest) =>
      match inner.getLast? with
      | some ')' => .ok (.result (String.ofList inner.dropLast) quoted, rest)
      | _ => .ok (.output (String.ofList ('(' :: inner)) quoted, rest)
    | some (inner, rest) => .ok (.output (String.ofList inner) quoted, rest)
    | none => .error "end of file unexpected (expecting \")\")"
  | '\x7b' :: rest =>
    match rest.span (· != '\x7d') with
    | (name, _ :: rest) => .ok (.value (String.ofList name) quoted, rest)
    | (_, []) => .error "Missing '\x7d'"
  | c :: rest =>
    if beginsName c then
      .ok (.value (String.ofList (cs.takeWhile isInName)) quoted, cs.dropWhile isInName)
    else if isSpecial c then .ok (.value c.toString quoted, rest)
    else .ok (.letters "$" quoted, cs)
  | [] => .ok (.letters "$" quoted, [])

/-- The parts of a word up to its end, or of what stands in quotes up to the quote that closes, and
what follows. -/
def parts : Nat → Bool → List Char → Except String (Word × List Char)
  | 0, _, _ => .error "Unterminated quoted string"
  | bound + 1, quoted, cs =>
    let before (part : Part) (rest : List Char) : Except String (Word × List Char) := do
      let (word, rest) ← parts bound quoted rest
      return (part :: word, rest)
    match cs with
    | [] => if quoted then .error "Unterminated quoted string" else .ok ([], [])
    | '\\' :: '\n' :: rest => parts bound quoted rest
    | '\\' :: c :: rest =>
      if quoted && !(['"', '\\', '$', '\x60'].contains c) then
        before (.letters (String.ofList ['\\', c]) true) rest
      else before (.letters c.toString true) rest
    | '$' :: rest => do
      let (part, rest) ← dollar quoted rest
      before part rest
    | '\x60' :: rest =>
      match backquoted rest with
      | some (inner, rest) => before (.output (String.ofList inner) quoted) rest
      | none => .error "EOF in backquote substitution"
    | '"' :: rest => do
      if quoted then return ([], rest)
      let (inner, rest) ← parts bound true rest
      let (outer, rest) ← parts bound false rest
      return (.letters "" true :: inner ++ outer, rest)
    | c :: rest =>
      if quoted then before (.letters c.toString true) rest
      else if endsWord c then .ok ([], cs)
      else if c = '\'' then
        match rest.span (· != '\'') with
        | (inner, _ :: rest) => before (.letters (String.ofList inner) true) rest
        | (_, []) => .error "Unterminated quoted string"
      else before (.letters c.toString false) rest

/-- The parts of lines that stand for values, but in which quotes are letters. -/
def partsOfLines : Nat → List Char → Word
  | 0, _ => []
  | bound + 1, cs =>
    match cs with
    | [] => []
    | '\\' :: '\n' :: rest => partsOfLines bound rest
    | '\\' :: c :: rest =>
      if ['\\', '$', '\x60'].contains c then .letters c.toString true :: partsOfLines bound rest
      else .letters (String.ofList ['\\', c]) true :: partsOfLines bound rest
    | '$' :: rest =>
      match dollar true rest with
      | .ok (part, rest) => part :: partsOfLines bound rest
      | .error _ => .letters "$" true :: partsOfLines bound rest
    | c :: rest => .letters c.toString true :: partsOfLines bound rest

/-! ## Lines that are read -/

/-- The lines up to the one that is a given text, and what follows that one. Tabs before a line may
be left out. -/
def linesUpTo (tabs : Bool) (goal : List Char) : Nat → List Char → List Char × List Char
  | 0, _ | _, [] => ([], [])
  | bound + 1, cs =>
    let (line, rest) := cs.span (· != '\n')
    let line := if tabs then line else line.dropWhile (· == '\t')
    if line = goal then ([], rest.drop 1)
    else
      let (more, after) := linesUpTo tabs goal bound (rest.drop 1)
      (line ++ '\n' :: more, after)

/-- The text that a word is, whatever it stands for. -/
def plain (word : Word) : String :=
  String.join (word.map fun
    | .letters text _ => text
    | .value name _ => "$" ++ name
    | _ => "")

/-- Whether some part of a word is in quotes. -/
def hasQuotes (word : Word) : Bool :=
  word.any fun
    | .letters _ quoted => quoted
    | _ => false

end Word

/-! ## Lexemes -/

namespace Lexeme

open Word

/-- A mark that characters begin with, the longest one. -/
def mark? : List Char → Option (String × List Char)
  | ';' :: ';' :: rest => some (";;", rest)
  | '&' :: '&' :: rest => some ("&&", rest)
  | '|' :: '|' :: rest => some ("||", rest)
  | '>' :: '>' :: rest => some (">>", rest)
  | '>' :: '&' :: rest => some (">&", rest)
  | '>' :: '|' :: rest => some (">", rest)
  | '<' :: '&' :: rest => some ("<&", rest)
  | c :: rest => if endsWord c then some (c.toString, rest) else none
  | [] => none

/-- How many lines end in characters before the rest of them. -/
def lineEnds (cs rest : List Char) : Nat := (cs.take (cs.length - rest.length)).count '\n'

/-- The lexeme that a word is before some characters: a digit before a sign for leading somewhere is
the number of a channel. -/
def ofWord (w : Word) (rest : List Char) : Lexeme :=
  match w, rest with
  | [.letters "0" false], '<' :: _ => channel 0
  | [.letters digit false], '>' :: _ =>
    match digit.toList with
    | [c] => if c.isDigit then channel (c.toNat - '0'.toNat) else word w
    | _ => word w
  | _, _ => word w

/-- The lexemes of a script from a line on, each with the line on which it begins and the line on
which it ends. -/
def read : Nat → Nat → List Char → List (Nat × Nat × Lexeme)
  | 0, line, _ => [(line, line, .mark "")]
  | bound + 1, line, cs =>
    match cs with
    | [] => [(line, line, .mark "")]
    | '\\' :: '\n' :: rest => read bound (line + 1) rest
    | '\n' :: rest => (line, line + 1, .mark "\n") :: read bound (line + 1) rest
    | '<' :: '<' :: rest =>
      let (dashes, rest) := rest.span (· == '-')
      match parts (rest.length + 1) false (rest.dropWhile (· == ' ')) with
      | .error words => [(line, line, .broken words)]
      | .ok (goal, rest) =>
        let (before, after) := rest.span (· != '\n')
        let (lines, after) :=
          linesUpTo dashes.isEmpty (plain goal).toList (after.length + 1) (after.drop 1)
        let w := if hasQuotes goal then [.letters (String.ofList lines) true]
          else partsOfLines (lines.length + 1) lines
        (line, line, text w) :: read bound line (before ++ '\n' :: after)
    | c :: rest =>
      if c = ' ' ∨ c = '\t' then read bound line rest
      else if c = '#' then read bound line (rest.dropWhile (· != '\n'))
      else
        match mark? cs with
        | some (sign, rest) => (line, line, .mark sign) :: read bound line rest
        | none =>
          match parts (cs.length + 1) false cs with
          | .error words => [(line, line + cs.count '\n', .broken words)]
          | .ok (w, rest) =>
            let after := line + lineEnds cs rest
            (line, after, ofWord w.join rest) :: read bound after rest

/-- The lexemes of a script. -/
def ofScript (text : String) : List (Nat × Nat × Lexeme) :=
  read (2 * text.length + 2) 1 text.toList

/-- The name of a lexeme in a complaint. -/
def describe : Lexeme → String
  | .mark "" => "end of file"
  | .mark "\n" => "newline"
  | .mark sign =>
    if ["<", ">", ">>", ">&", "<&"].contains sign then "redirection" else "\"" ++ sign ++ "\""
  | .channel _ => "redirection"
  | .text _ => "redirection"
  | .broken words => words
  | .word _ => "word"

end Lexeme

end IntegrationHost.Rehearsal
