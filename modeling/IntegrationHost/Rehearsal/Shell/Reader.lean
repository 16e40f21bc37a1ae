import IntegrationHost.Rehearsal.Shell.Lexeme

/-!
# Reading scripts

A script is read from its lexemes line by line, so that the lines before a fault can be run. Every
function takes the lexemes that are left and gives back those behind what it has read; the bound on
the steps is no less than the number of lexemes with room for the functions between two of them.
-/

namespace IntegrationHost.Rehearsal

/-- Lexemes, each with the line on which it begins and the one on which it ends. -/
abbrev Lexemes := List (Nat × Nat × Lexeme)

namespace Lexemes

/-- The line of the next lexeme. -/
def line (ls : Lexemes) : Nat := (ls.head?.map Prod.fst).getD 1

/-- The mark that comes next, or no mark. -/
def sign? (ls : Lexemes) : Option String :=
  match ls with
  | (_, _, .mark text) :: _ => some text
  | _ => none

/-- The words that stand for more than themselves where a command can begin. -/
def keywords : List String :=
  ["if", "then", "else", "elif", "fi", "do", "done", "while", "until", "for", "case", "esac",
    "\x7b", "\x7d", "!"]

/-- The keyword that comes next, or none. -/
def keyword? (ls : Lexemes) : Option String :=
  match ls with
  | (_, _, .word [.letters text false]) :: _ => if keywords.contains text then some text else none
  | _ => none

/-- Whether the scripts within a command end here. -/
def close (ls : Lexemes) : Bool :=
  match keyword? ls, sign? ls with
  | some word, _ => ["then", "else", "elif", "fi", "do", "done", "esac", "\x7d"].contains word
  | none, some text => ["", ")", ";;"].contains text
  | none, none => false

/-- What follows the ends of lines. -/
def skipLines : Lexemes → Lexemes
  | (_, _, .mark "\n") :: rest => skipLines rest
  | ls => ls

/-- The complaint that the next lexeme is out of place. -/
def unexpected (ls : Lexemes) (goal : Option String) : ScriptFlaw :=
  let hint := match goal with
    | some text => " (expecting \"" ++ text ++ "\")"
    | none => ""
  match ls with
  | (_, line, .broken words) :: _ => ⟨line, "Syntax error: " ++ words⟩
  | (_, line, lexeme) :: _ =>
    let name := match keyword? ls with
      | some word => "\"" ++ word ++ "\""
      | none => lexeme.describe
    ⟨line, "Syntax error: " ++ name ++ " unexpected" ++ hint⟩
  | [] => ⟨1, "Syntax error: end of file unexpected" ++ hint⟩

/-- Go past a keyword. -/
def pass (word : String) (ls : Lexemes) : Except ScriptFlaw Lexemes :=
  if keyword? ls = some word then .ok ls.tail else .error (unexpected ls (some word))

/-- Go past a mark. -/
def passSign (text : String) (ls : Lexemes) : Except ScriptFlaw Lexemes :=
  if sign? ls = some text then .ok ls.tail else .error (unexpected ls (some text))

end Lexemes

namespace ShellScript

open Lexemes

/-! ## Where channels lead -/

/-- What a sign does with a channel, if it leads it somewhere. -/
def redirectOf? (sign : String) (channel : Option Nat) (w : Word) : Option Redirect :=
  match sign with
  | ">" => some (.toFile (channel.getD 1) false w)
  | ">>" => some (.toFile (channel.getD 1) true w)
  | ">&" => some (.toChannel (channel.getD 1) w)
  | "<" => some (.fromFile w)
  | _ => none

/-- Where a channel leads next, if it is led anywhere. -/
def redirect? (ls : Lexemes) : Except ScriptFlaw (Option (Redirect × Lexemes)) :=
  let (channel, rest) := match ls with
    | (_, _, .channel n) :: rest => (some n, rest)
    | ls => (none, ls)
  match rest with
  | (_, _, .text w) :: rest => .ok (some (.fromText w, rest))
  | (_, _, .mark sign) :: after =>
    match redirectOf? sign channel [] with
    | none => .ok none
    | some _ =>
      match after with
      | (_, _, .word w) :: after => .ok ((redirectOf? sign channel w).map fun r => (r, after))
      | after => .error (unexpected after none)
  | _ => .ok none

/-- All that comes next and leads channels somewhere. -/
def redirects : Nat → Lexemes → Except ScriptFlaw (List Redirect × Lexemes)
  | 0, ls => .ok ([], ls)
  | bound + 1, ls => do
    match ← redirect? ls with
    | none => return ([], ls)
    | some (first, ls) =>
      let (more, ls) ← redirects bound ls
      return (first :: more, ls)

/-! ## Simple commands -/

/-- The name and the value of an assignment. -/
def assignment? : Word → Option (String × Word)
  | .letters text false :: more =>
    match text.toList.span (· != '=') with
    | (name, _ :: value) =>
      if Word.isName name then
        some (String.ofList name,
          if value.isEmpty then more else .letters (String.ofList value) false :: more)
      else none
    | _ => none
  | _ => none

/-- A simple command, given what has been read of it. -/
def simpleFrom : Nat → Nat → List (String × Word) → List Word → List Redirect → Lexemes →
    Except ScriptFlaw (ShellScript × Lexemes)
  | 0, _, _, _, _, ls => .error (unexpected ls none)
  | bound + 1, line, values, words, leads, ls => do
    match ← redirect? ls with
    | some (lead, ls) => simpleFrom bound line values words (leads ++ [lead]) ls
    | none =>
      match ls with
      | (_, _, .word w) :: rest =>
        match words, assignment? w with
        | [], some value => simpleFrom bound line (values ++ [value]) [] leads rest
        | _, _ => simpleFrom bound line values (words ++ [w]) leads rest
      | (_, _, .mark "(") :: _ => .error (unexpected ls none)
      | ls =>
        if values.isEmpty && words.isEmpty && leads.isEmpty then .error (unexpected ls none)
        else return (.simple line values words leads, ls)

/-! ## Commands -/

/-- The words of a loop, up to the end of the line. -/
def loopWords : Lexemes → List Word × Lexemes
  | (_, _, .word w) :: rest => let (more, ls) := loopWords rest; (w :: more, ls)
  | ls => ([], ls)

/-- The patterns before a parenthesis that closes. -/
def patterns : Lexemes → Except ScriptFlaw (List Word × Lexemes)
  | (_, _, .word w) :: (_, _, .mark "|") :: rest => do
    let (more, ls) ← patterns rest
    return (w :: more, ls)
  | (_, _, .word w) :: rest => do return ([w], ← passSign ")" rest)
  | ls => .error (unexpected ls none)

mutual

/-- Commands up to the end of the command they stand in. There is at least one. -/
def commands : Nat → Lexemes → Except ScriptFlaw (ShellScript × Lexemes)
  | 0, ls => .error (unexpected ls none)
  | bound + 1, ls => do
    let (first, ls) ← choices bound (skipLines ls)
    let first := if sign? ls = some "&" then .apart false first else first
    if [some ";", some "\n", some "&"].contains (sign? ls) then
      let ls := skipLines ls.tail
      if close ls then return (first, ls)
      let (more, ls) ← commands bound ls
      return (.list first .always more, ls)
    else return (first, ls)

/-- Pipelines of which each depends on how the one before it ended. -/
def choices : Nat → Lexemes → Except ScriptFlaw (ShellScript × Lexemes)
  | 0, ls => .error (unexpected ls none)
  | bound + 1, ls => do
    let (first, ls) ← pipeline bound ls
    choicesFrom bound first ls

/-- What follows a pipeline, depending on how it ended. -/
def choicesFrom : Nat → ShellScript → Lexemes → Except ScriptFlaw (ShellScript × Lexemes)
  | 0, _, ls => .error (unexpected ls none)
  | bound + 1, first, ls => do
    let joint := match sign? ls with
      | some "&&" => some Joint.ifGood
      | some "||" => some .ifBad
      | _ => none
    match joint with
    | none => return (first, ls)
    | some joint =>
      let (second, ls) ← pipeline bound (skipLines ls.tail)
      choicesFrom bound (.list first joint second) ls

/-- Commands of which each reads what the one before it writes. -/
def pipeline : Nat → Lexemes → Except ScriptFlaw (ShellScript × Lexemes)
  | 0, ls => .error (unexpected ls none)
  | bound + 1, ls => do
    if keyword? ls = some "!" then
      let (body, ls) ← pipeline bound ls.tail
      return (.negation body, ls)
    let (first, ls) ← command bound ls
    if sign? ls = some "|" then
      let (second, ls) ← pipeline bound (skipLines ls.tail)
      return (.pipe first second, ls)
    else return (first, ls)

/-- A command. -/
def command : Nat → Lexemes → Except ScriptFlaw (ShellScript × Lexemes)
  | 0, ls => .error (unexpected ls none)
  | bound + 1, ls => do
    let line := ls.line
    let led (body : ShellScript) (ls : Lexemes) : Except ScriptFlaw (ShellScript × Lexemes) := do
      let (leads, ls) ← redirects ls.length ls
      return (if leads.isEmpty then body else .redirected line body leads, ls)
    match keyword? ls, ls with
    | some "if", _ =>
      let (body, ls) ← branches bound ls.tail
      led body ls
    | some "while", _ | some "until", _ =>
      let goal := keyword? ls = some "while"
      let (condition, ls) ← commands bound ls.tail
      let (body, ls) ← doBlock bound ls
      led (.loop goal condition body) ls
    | some "for", _ =>
      match ls.tail with
      | (_, _, .word [.letters name _]) :: rest =>
        let rest := skipLines rest
        match rest with
        | (_, _, .word [.letters "in" false]) :: rest =>
          let (words, rest) := loopWords rest
          if sign? rest = some ";" ∨ sign? rest = some "\n" then
            let (body, ls) ← doBlock bound (skipLines rest.tail)
            led (.each name (some words) body) ls
          else throw (unexpected rest none)
        | rest =>
          let (body, ls) ← doBlock bound
            (if sign? rest = some ";" then skipLines rest.tail else rest)
          led (.each name none body) ls
      | rest => throw (unexpected rest none)
    | some "case", _ =>
      match ls.tail with
      | (_, _, .word w) :: rest =>
        match skipLines rest with
        | (_, _, .word [.letters "in" false]) :: rest =>
          let (body, ls) ← arms bound w (skipLines rest)
          led body ls
        | rest => throw (unexpected rest (some "in"))
      | rest => throw (unexpected rest none)
    | some "\x7b", _ =>
      let (body, ls) ← commands bound ls.tail
      led body (← pass "\x7d" ls)
    | none, (_, _, .mark "(") :: rest =>
      let (body, ls) ← commands bound rest
      led (.apart true body) (← passSign ")" ls)
    | none, (_, _, .word [.letters name false]) :: (_, _, .mark "(") :: rest =>
      let rest ← passSign ")" rest
      let (body, ls) ← command bound (skipLines rest)
      return (.routine name body, ls)
    | none, ls => simpleFrom (ls.length + 1) line [] [] [] ls
    | some _, ls => throw (unexpected ls none)

/-- A condition, what follows from it, and what else. -/
def branches : Nat → Lexemes → Except ScriptFlaw (ShellScript × Lexemes)
  | 0, ls => .error (unexpected ls none)
  | bound + 1, ls => do
    let (condition, ls) ← commands bound ls
    let (good, ls) ← commands bound (← pass "then" ls)
    match keyword? ls with
    | some "elif" =>
      let (bad, ls) ← branches bound ls.tail
      return (.choice condition good bad, ls)
    | some "else" =>
      let (bad, ls) ← commands bound ls.tail
      return (.choice condition good bad, ← pass "fi" ls)
    | _ => return (.choice condition good .nothing, ← pass "fi" ls)

/-- What is done again and again. -/
def doBlock : Nat → Lexemes → Except ScriptFlaw (ShellScript × Lexemes)
  | 0, ls => .error (unexpected ls none)
  | bound + 1, ls => do
    let (body, ls) ← commands bound (← pass "do" ls)
    return (body, ← pass "done" ls)

/-- The scripts behind patterns. -/
def arms : Nat → Word → Lexemes → Except ScriptFlaw (ShellScript × Lexemes)
  | 0, _, ls => .error (unexpected ls none)
  | bound + 1, w, ls => do
    if keyword? ls = some "esac" then return (.nothing, ls.tail)
    let (fitting, ls) ← patterns (if sign? ls = some "(" then ls.tail else ls)
    let ls := skipLines ls
    let (body, ls) ← if close ls then pure (.nothing, ls) else commands bound ls
    if keyword? ls = some "esac" then return (.fit w fitting body .nothing, ls.tail)
    let (others, ls) ← arms bound w (skipLines (← passSign ";;" ls))
    return (.fit w fitting body others, ls)

end

/-! ## Whole scripts -/

/-- The commands of a line. -/
def oneLine : Nat → Lexemes → Except ScriptFlaw (ShellScript × Lexemes)
  | 0, ls => .error (unexpected ls none)
  | bound + 1, ls => do
    let (first, ls) ← choices bound ls
    let first := if sign? ls = some "&" then .apart false first else first
    let ends (ls : Lexemes) : Bool := sign? ls = some "\n" ∨ sign? ls = some ""
    if ends ls then return (first, ls)
    else if sign? ls = some ";" ∨ sign? ls = some "&" then
      if ends ls.tail then return (first, ls.tail)
      let (more, ls) ← oneLine bound ls.tail
      return (.list first .always more, ls)
    else throw (unexpected ls none)

/-- The lines of a script, up to the first fault. -/
def lines : Nat → Lexemes → List ShellScript × Option ScriptFlaw
  | 0, _ => ([], none)
  | bound + 1, ls =>
    let ls := skipLines ls
    if sign? ls = some "" ∨ ls.isEmpty then ([], none)
    else
      match oneLine bound ls with
      | .error flaw => ([], some flaw)
      | .ok (first, ls) =>
        let (more, flaw) := lines bound ls
        (first :: more, flaw)

/-- The lines of a script, up to the first fault. -/
def read (text : String) : List ShellScript × Option ScriptFlaw :=
  let ls := Lexeme.ofScript text
  lines (8 * (ls.length + 1)) ls

end ShellScript

end IntegrationHost.Rehearsal
