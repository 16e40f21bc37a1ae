import IntegrationHost.Config.VersionControl
import IntegrationHost.Rehearsal.Shell.Basic
import IntegrationHost.Rehearsal.Shell.Condition

/-!
# Commands of the shell

The commands that are no programs and run no scripts: they write, ask, and change the state of the
shell itself.
-/

namespace IntegrationHost.Rehearsal.Shell

/-- A status that a script asks for, as the end of a command. -/
def leave (flow : Flow) (command : String) (words : List String) (s : Shell) : Shell :=
  match words with
  | [] => { s with flow }
  | word :: _ =>
    match Printing.decimal? word with
    | some n =>
      if 0 ≤ n ∧ n ≤ 2147483647 then { s with flow, status := n.toNat % 256 }
      else s.giveUp (command ++ ": Illegal number: " ++ word)
    | none => s.giveUp (command ++ ": Illegal number: " ++ word)

/-- Turn an option of the shell on or off. -/
def turn (s : Shell) (on : Bool) : Char → Shell
  | 'e' => { s with strict := on }
  | 'u' => { s with wary := on }
  | 'x' => { s with traced := on }
  | _ => s

/-- The letter of an option that has a name. -/
def optionNamed? : String → Option Char
  | "errexit" => some 'e'
  | "nounset" => some 'u'
  | "xtrace" => some 'x'
  | "noglob" | "noclobber" | "allexport" | "verbose" | "notify" => some 'n'
  | _ => none

/-- Set options of the shell, or its arguments. -/
def setOptions : List String → Shell → Shell
  | [], s => s.ending 0
  | sign :: name :: words, s =>
    match optionNamed? name, sign.toList with
    | some c, [sign, 'o'] => setOptions words (s.turn (sign == '-') c)
    | none, ['-', 'o'] => s.giveUp ("set: Illegal option -o " ++ name)
    | _, _ => setLetters sign s (name :: words) (setOptions (name :: words))
  | [sign], s => setLetters sign s [] (setOptions [])
where
  /-- Set options by a word that is their letters, and go on. -/
  setLetters (word : String) (s : Shell) (words : List String) (next : Shell → Shell) : Shell :=
    match word.toList with
    | ['-', '-'] => { s with arguments := words, status := 0 }
    | sign :: letters =>
      if sign = '-' ∨ sign = '+' then
        match letters.find? fun c => !"aefhmnuvxbCIiVEsp".toList.contains c with
        | some c => s.giveUp ("set: Illegal option " ++ String.ofList [sign, c])
        | none => next (letters.foldl (fun s c => s.turn (sign == '-') c) s)
      else { s with arguments := word :: words, status := 0 }
    | [] => { s with arguments := word :: words, status := 0 }

/-- The number of a signal that is given by its number or its name. -/
def signal? (text : String) : Option Nat :=
  let upper := String.ofList (text.toList.map Char.toUpper)
  match text.toNat? with
  | some n => some n
  | none =>
    ((Config.signalNames.zipIdx).find? fun (name, _) => name = upper || name = "SIG" ++ upper).map
      fun (_, n) => n + 1

/-- Send a signal to a process. Some signals are passed over. -/
def send (signal : Nat) (words : List String) (s : Shell) : Shell :=
  match words with
  | [] =>
    s.fail ("kill: Usage: kill [-s sigspec | -signum | -sigspec] [pid | job]... or\n" ++
      "kill -l [exitstatus]")
  | word :: _ =>
    if word = ownNumber then
      if [0, 17, 18, 23, 28].contains signal then s.ending 0
      else { s with flow := .killed signal }
    else if (Printing.decimal? word).isSome then (s.fail "kill: No such process\n").ending 1
    else s.fail ("kill: Illegal number: " ++ word)

/-- Send a signal. -/
def kill (words : List String) (s : Shell) : Shell :=
  match words with
  | "-s" :: name :: words =>
    match signal? name with
    | some n => send n words s
    | none => s.fail ("kill: invalid signal number or name: " ++ name)
  | word :: words =>
    match word.toList with
    | '-' :: name =>
      match signal? (String.ofList name) with
      | some n => send n words s
      | none => s.fail ("kill: invalid signal number or name: " ++ String.ofList name)
    | _ => send 15 (word :: words) s
  | [] => send 15 [] s

/-- Read a line into names. The last one takes all that is left. -/
def readLine (names : List String) (s : Shell) : Shell :=
  let names := if names.head? = some "-r" then names.tail else names
  let (line, rest) := s.input.span (· != 10)
  let words := (Text.split " " (Text.ofBytes line)).filter (· != "")
  let s := { s with input := rest.drop 1, status := if rest.isEmpty then 1 else 0 }
  (names.zipIdx).foldl (fun s (name, n) =>
    s.setValue name
      (if n + 1 = names.length then " ".intercalate (words.drop n) else (words[n]?).getD "")) s

/-- The commands that end the script when they fail. -/
def isSpecialCommand (name : String) : Bool :=
  [":", ".", "break", "continue", "eval", "exec", "exit", "export", "readonly", "return", "set",
    "shift", "times", "trap", "unset"].contains name

/-- Set the name before an equals sign to what follows it. -/
def assign (s : Shell) (word : String) : Shell :=
  match Text.splitOnce "=" word with
  | some (name, text) => s.setValue name text
  | none => s

/-- Go into a directory. -/
def goTo (path : String) (s : Shell) : Shell :=
  match s.files.directory s.directory path with
  | .ok directory => { s with directory, status := 0 }
  | .error _ => s.fail ("cd: can't cd to " ++ path)

/-- Give up some arguments. -/
def shift (words : List String) (s : Shell) : Shell :=
  match Printing.decimal? (words.head?.getD "1") with
  | some n =>
    if n < 0 then s.giveUp ("shift: Illegal number: " ++ toString n)
    else if s.arguments.length < n.toNat then s.giveUp "shift: can't shift that many"
    else { s with arguments := s.arguments.drop n.toNat, status := 0 }
  | none => s.giveUp ("shift: Illegal number: " ++ words.head?.getD "")

/-- Find out whether a condition holds. -/
def ask (command : String) (words : List String) (s : Shell) : Shell :=
  match Condition.holds s.directory s.files (words.length + 1) words with
  | .ok answer => s.ending (if answer then 0 else 1)
  | .error words => s.fail (command ++ ": " ++ words)

/-- A command of the shell that runs no script, if there is one of the name. -/
def builtin? (name : String) (words : List String) (s : Shell) : Option Shell :=
  match name, words with
  | "echo", words => some ((s.give (Printing.echo words) s.out).ending 0)
  | "printf", [] => some (s.fail "printf: usage: printf format [arg ...]")
  | "printf", format :: words =>
    let (bytes, complaint?) := Printing.printf format words
    let s := match complaint? with
      | some words => (s.fail ("printf: " ++ words)).ending 1
      | none => s.ending 0
    some (s.give bytes s.out)
  | "true", _ | ":", _ | "trap", _ | "wait", _ | "times", _ => some (s.ending 0)
  | "false", _ => some (s.ending 1)
  | "exit", words => some (leave .leaving "exit" words s)
  | "return", words => some (leave .returning "return" words s)
  | "break", _ => some { s with flow := if s.loops = 0 then .on else .breaking false, status := 0 }
  | "continue", _ =>
    some { s with flow := if s.loops = 0 then .on else .breaking true, status := 0 }
  | "set", words => some (setOptions words s)
  | "cd", path :: _ => some (goTo path s)
  | "cd", [] => some (s.ending 0)
  | "test", words => some (ask "test" words s)
  | "[", words =>
    some (if words.getLast? = some "]" then ask "[" words.dropLast s else s.fail "[: missing ]")
  | "kill", words => some (kill words s)
  | "shift", words => some (shift words s)
  | "export", words | "readonly", words | "local", words =>
    some ((words.foldl assign s).ending 0)
  | "unset", words =>
    some { s with values := s.values.filter fun value => !words.contains value.1, status := 0 }
  | "read", words => some (readLine words s)
  | _, _ => none

end IntegrationHost.Rehearsal.Shell
