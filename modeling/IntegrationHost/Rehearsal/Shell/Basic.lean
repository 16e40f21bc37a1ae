import IntegrationHost.Rehearsal.Shell.Script
import IntegrationHost.Rehearsal.Tools

/-!
# The shell

The state of a shell between two commands: where it is, the files, the values of names, where the
channels lead, and what has been written. Nothing here runs a script.
-/

namespace IntegrationHost.Rehearsal

/-- Where an output leads. -/
inductive Sink where
  | out
  | err
  | nowhere
  | file (directory : Place) (path : String)
  deriving DecidableEq

/-- How a script goes on. -/
inductive Flow where
  | on
  | leaving
  | returning
  /-- The loop around ends, or goes on with its next turn. -/
  | breaking (again : Bool)
  | killed (signal : Nat)
  deriving DecidableEq

/-- A shell at work in a directory. -/
structure Shell where
  name : String
  arguments : List String
  values : List (String × String)
  routines : List (String × ShellScript)
  directory : Place
  files : Files
  input : List UInt8
  out : Sink
  err : Sink
  /-- What has been written to its output. -/
  written : List UInt8
  /-- What has been written to its error output. -/
  complaint : List UInt8
  status : Nat
  line : Nat
  /-- Whether a command that fails ends the script, unless what follows depends on it. -/
  strict : Bool
  /-- Whether a name that stands for nothing ends the script. -/
  wary : Bool
  /-- Whether commands are shown before they are run. -/
  traced : Bool
  /-- How many loops there are around. -/
  loops : Nat
  flow : Flow

namespace Shell

/-- A shell at its start. -/
def start (directory : Place) (input : List UInt8) (files : Files) : Shell where
  name := "sh"
  arguments := []
  values := []
  routines := []
  directory := directory
  files := files
  input := input
  out := .out
  err := .err
  written := []
  complaint := []
  status := 0
  line := 0
  strict := false
  wary := false
  traced := false
  loops := 0
  flow := .on

/-- The number under which a process knows itself. No script can tell it from another one. -/
def ownNumber : String := "1"

/-! ## Writing -/

/-- Write bytes somewhere. A file has been opened before. -/
def give (s : Shell) (bytes : List UInt8) : Sink → Shell
  | .out => { s with written := s.written ++ bytes }
  | .err => { s with complaint := s.complaint ++ bytes }
  | .nowhere => s
  | .file directory path =>
    let before := match s.files.content directory path with
      | .ok content => content.bytes
      | .error _ => []
    match s.files.write directory path (.ofBytes (before ++ bytes)) with
    | .ok files => { s with files }
    | .error _ => s

/-- Write what a program writes. -/
def utter (s : Shell) : Utterance → Shell
  | .out bytes => s.give bytes s.out
  | .err bytes => s.give bytes s.err

/-- End a command with a status. -/
def ending (status : Nat) (s : Shell) : Shell := { s with status }

/-- Complain in the words of the shell. -/
def complainAt (s : Shell) (line : Nat) (words : String) : Shell :=
  s.give (Text.bytes (s.name ++ ": " ++ toString line ++ ": " ++ words ++ "\n")) s.err

/-- A command fails. -/
def fail (s : Shell) (words : String) : Shell := (s.complainAt s.line words).ending 2

/-- A command fails that ends the script by that. -/
def giveUp (s : Shell) (words : String) : Shell := { s.fail words with flow := .leaving }

/-- Let a program be run: it sees the directory, what is to be read, and the files. -/
def letRun (s : Shell) (tool : Tool) (words : List String) : Shell :=
  let deed := tool s.directory s.input words s.files
  ((deed.written.foldl utter { s with files := deed.files })).ending deed.status

/-! ## Values -/

/-- What a name stands for, if it stands for anything. -/
def value? (s : Shell) (name : String) : Option String :=
  match name with
  | "?" => some (toString s.status)
  | "#" => some (toString s.arguments.length)
  | "$" => some ownNumber
  | "0" => some s.name
  | "@" | "*" => some (" ".intercalate s.arguments)
  | "-" => some (if s.strict then "e" else "")
  | name =>
    if name.toList.all Char.isDigit then
      match name.toNat? with
      | some n => s.arguments[n - 1]?
      | none => none
    else s.values.lookup name

/-- Let a name stand for a text. -/
def setValue (s : Shell) (name text : String) : Shell :=
  { s with values := (name, text) :: s.values.filter fun value => value.1 != name }

/-! ## Opening files -/

/-- Why a file cannot be opened. -/
def refusal (making : Bool) (path : String) (fault : Files.Fault) : String :=
  let why := match fault with
    | .missing | .notDirectory => if making then "Directory nonexistent" else "No such file"
    | fault => fault.words
  (if making then "cannot create " else "cannot open ") ++ path ++ ": " ++ why

/-- Open a file for writing, as it is or anew. The failure is a complaint. -/
def openSink (s : Shell) (append : Bool) (path : String) : Except String (Sink × Files) :=
  match path with
  | "/dev/null" => .ok (.nowhere, s.files)
  | "/dev/stdout" => .ok (s.out, s.files)
  | "/dev/stderr" => .ok (s.err, s.files)
  | path =>
    match append, s.files.lookup s.directory path with
    | true, .ok (.file _) => .ok (.file s.directory path, s.files)
    | _, .error .notDirectory => .error (refusal true path .notDirectory)
    | _, _ =>
      match s.files.write s.directory path (.text "") with
      | .ok files => .ok (.file s.directory path, files)
      | .error fault => .error (refusal true path fault)

/-- The bytes of a file that is to be read. The failure is a complaint. -/
def openSource (s : Shell) (path : String) : Except String (List UInt8) :=
  if path = "/dev/null" then .ok []
  else
    match s.files.content s.directory path with
    | .ok content => .ok content.bytes
    | .error .directory => .ok []
    | .error fault => .error (refusal false path fault)

/-! ## Patterns -/

/-- Letters, each with whether it is in quotes. -/
abbrev Letters := List (Char × Bool)

/-- Whether characters fit a pattern, in which a star stands for any number of them and a question
mark for one, unless they are in quotes. -/
def fits : Letters → List Char → Bool
  | [], cs => cs.isEmpty
  | ('*', false) :: ps, [] => fits ps []
  | ('*', false) :: ps, c :: cs => fits ps (c :: cs) || fits (('*', false) :: ps) cs
  | _ :: _, [] => false
  | (p, quoted) :: ps, c :: cs => ((p == '?' && !quoted) || p == c) && fits ps cs
termination_by ps cs => ps.length + cs.length

/-- The text that letters are. -/
def spell (letters : Letters) : String := String.ofList (letters.map Prod.fst)

/-- The paths in a directory that fit a pattern, sorted. A name with a dot in front is only found by
a pattern with one. -/
def pathsThatFit (s : Shell) (letters : Letters) : List String :=
  let last := (letters.reverse.takeWhile fun letter => letter.1 != '/').reverse
  let before := spell (letters.take (letters.length - last.length))
  match s.files.directory s.directory (if before.isEmpty then "." else before) with
  | .ok place =>
    let hidden (name : String) : Bool := Text.startsWith name "."
    let dotted := (last.head?.map Prod.fst) == some '.'
    ((s.files.names place).filter fun name =>
      fits last name.toList && hidden name == dotted).map (before ++ ·)
  | .error _ => []

/-- The words that letters stand for: the paths that fit them as a pattern, if there are any. -/
def wordsOf (s : Shell) (letters : Letters) : List String :=
  let isPattern := letters.any fun letter => !letter.2 && (letter.1 == '*' || letter.1 == '?')
  match if isPattern then s.pathsThatFit letters else [] with
  | [] => [spell letters]
  | paths => paths

end Shell

end IntegrationHost.Rehearsal
