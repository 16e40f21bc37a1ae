/-!
# Scripts

What a script for the shell asks for. Words are made of parts, some of which stand for something
that is known only when the script runs. Commands hold words, and stand in lists, in pipelines and
within conditions and loops.
-/

namespace IntegrationHost.Rehearsal

/-- A part of a word. What comes of a part in quotes is never taken apart. -/
inductive Part where
  | letters (text : String) (quoted : Bool)
  | value (name : String) (quoted : Bool)
  /-- What a script writes. -/
  | output (script : String) (quoted : Bool)
  /-- The result of a calculation. -/
  | result (terms : String) (quoted : Bool)
  deriving DecidableEq, Repr

/-- A word. -/
abbrev Word := List Part

/-- Where a channel of a command leads; 0 is what it reads, 1 and 2 are its outputs. -/
inductive Redirect where
  | toFile (channel : Nat) (append : Bool) (path : Word)
  | fromFile (path : Word)
  | fromText (text : Word)
  | toChannel (channel : Nat) (target : Word)
  deriving DecidableEq, Repr

/-- How one command follows another. -/
inductive Joint where
  | always
  | ifGood
  | ifBad
  deriving DecidableEq, Repr

/-- A script. Simple commands remember the line they stand on. -/
inductive ShellScript where
  | nothing
  | simple (line : Nat) (values : List (String × Word)) (words : List Word)
    (redirects : List Redirect)
  | list (first : ShellScript) (joint : Joint) (second : ShellScript)
  | pipe (first second : ShellScript)
  | negation (body : ShellScript)
  /-- What the script does to the shell itself is undone; the shell may wait for its end or not. -/
  | apart (waits : Bool) (body : ShellScript)
  | redirected (line : Nat) (body : ShellScript) (redirects : List Redirect)
  | choice (condition good bad : ShellScript)
  /-- Without words the loop goes through the arguments. -/
  | each (name : String) (words : Option (List Word)) (body : ShellScript)
  | loop (goal : Bool) (condition body : ShellScript)
  /-- The script behind the first pattern that a word fits. -/
  | fit (word : Word) (patterns : List Word) (body others : ShellScript)
  | routine (name : String) (body : ShellScript)
  deriving Repr

/-- A complaint about a script, with the line where it is raised. -/
structure ScriptFlaw where
  line : Nat
  words : String
  deriving DecidableEq, Repr

/-- Put parts together that stand for letters in the same way. -/
def Word.join : Word → Word
  | [] => []
  | .letters a q :: rest =>
    match join rest with
    | .letters b p :: more => if p = q then .letters (a ++ b) q :: more
      else .letters a q :: .letters b p :: more
    | more => .letters a q :: more
  | part :: rest => part :: join rest

end IntegrationHost.Rehearsal
