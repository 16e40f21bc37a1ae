import IntegrationHost.Rehearsal.Shell.Builtin
import IntegrationHost.Rehearsal.Shell.Expansion

/-!
# Running scripts

A script changes the state of the shell. What a command does is given for a runner of the scripts
within it, so that only one function, which has a bound on its depth, calls itself.
-/

namespace IntegrationHost.Rehearsal.Shell

/-! ## Programs -/

/-- What another shell does with its arguments. -/
def runShell (run : Runner) (words : List String) (s : Shell) : Shell :=
  match words with
  | "-e" :: words => runShell run words { s with strict := true }
  | "-ec" :: text :: words =>
    runText run text
      { s with strict := true, name := words.head?.getD s.name, arguments := words.tail }
  | "-c" :: text :: words =>
    runText run text { s with name := words.head?.getD s.name, arguments := words.tail }
  | ["-c"] =>
    (s.give (Text.bytes (s.name ++ ": 0: -c requires an argument\n")) s.err).ending 2
  | path :: words =>
    match s.files.content s.directory path with
    | .ok content =>
      runText run (Text.ofBytes content.bytes) { s with name := path, arguments := words }
    | .error _ =>
      s.give (Text.bytes (s.name ++ ": 0: cannot open " ++ path ++ ": No such file\n")) s.err
        |>.ending 2
  | [] => runText run (Text.ofBytes s.input) { s with input := [] }

/-- What is said of a program that was killed by a signal. -/
def obituaries : List (Nat × String) :=
  [(1, "Hangup"), (3, "Quit"), (4, "Illegal instruction"), (6, "Aborted"), (7, "Bus error"),
    (8, "Floating point exception"), (9, "Killed"), (10, "User defined signal 1"),
    (11, "Segmentation fault"), (12, "User defined signal 2"), (14, "Alarm clock"),
    (15, "Terminated")]

/-- Run a program by its name or its path. -/
def runProgram (run : Runner) (command name : String) (words : List String) (s : Shell) : Shell :=
  let known := Tool.nameAt name
  if known = some "sh" then
    let fresh := { start s.directory s.input s.files with
      out := s.out, err := s.err, written := s.written, complaint := s.complaint,
      values := s.values, name }
    let t := runShell run words fresh
    let s := { s with files := t.files, written := t.written, complaint := t.complaint }
    match t.flow with
    | .killed signal =>
      ((obituaries.lookup signal).elim s fun words =>
        s.give (Text.bytes (words ++ "\n")) s.err).ending (128 + signal)
    | _ => s.ending t.status
  else
    match known.bind Tool.ofName?, s.files.lookup s.directory name with
    | some tool, _ => s.letRun tool words
    | none, .ok _ =>
      if Text.hasAny ['/'] name then
        (s.fail (command ++ name ++ ": Permission denied")).ending 126
      else (s.fail (command ++ name ++ ": not found")).ending 127
    | none, .error _ => (s.fail (command ++ name ++ ": not found")).ending 127

/-! ## Commands -/

/-- Run a command that is made of words. -/
def dispatch (run : Runner) (name : String) (words : List String) (s : Shell) : Shell :=
  match s.routines.lookup name, name, words with
  | some body, _, words =>
    let t := run false body { s with arguments := words }
    { t with
      arguments := s.arguments
      flow := if t.flow = .returning then .on else t.flow }
  | none, "eval", words => runText run (" ".intercalate words) (s.ending 0)
  | none, "exec", [] => s.ending 0
  | none, "exec", name :: words =>
    { runProgram run "exec: " name words s with flow := .leaving }
  | none, ".", path :: _ =>
    match s.files.content s.directory path with
    | .ok content =>
      let t := runText run (Text.ofBytes content.bytes) (s.ending 0)
      { t with flow := if t.flow = .returning then .on else t.flow }
    | .error _ => s.giveUp (".: cannot open " ++ path ++ ": No such file")
  | none, "command", name :: words => (s.builtin? name words).getD (runProgram run "" name words s)
  | none, name, words => (s.builtin? name words).getD (runProgram run "" name words s)

/-- Set names to what words become. -/
def setAll (run : Runner) (values : List (String × Word)) (s : Shell) : Shell :=
  values.foldl (fun s (name, word) =>
    let (text, s) := expandWhole run word s
    s.setValue name text) s

/-- Whether some part of words is what a script writes. -/
def asksForOutput (values : List (String × Word)) : Bool :=
  values.any fun (_, word) => word.any fun
    | .output _ _ => true
    | _ => false

/-- Run a simple command. -/
def runSimple (run : Runner) (values : List (String × Word)) (words : List Word)
    (redirects : List Redirect) (s : Shell) : Shell :=
  let (words, s) := expandAll run words s
  let s := if s.traced && !words.isEmpty then
      s.give (Text.bytes ("+ " ++ " ".intercalate words ++ "\n")) s.err
    else s
  if s.flow ≠ .on then s
  else
    match lead run redirects s, words with
    | .error (complaint, t), words =>
      let t := (leadBack redirects s t).fail complaint
      if (words.head?.map isSpecialCommand).getD false then { t with flow := .leaving } else t
    | .ok t, [] =>
      let t := setAll run values t
      leadBack redirects s (if asksForOutput values then t else t.ending 0)
    | .ok t, name :: words =>
      let u := dispatch run name words (setAll run values t)
      let u := if isSpecialCommand name || values.isEmpty then u else { u with values := s.values }
      if name = "exec" && words.isEmpty then u else leadBack redirects s u

/-- End a script that is strict, if a command failed and nothing depends on it. -/
def heed (depends : Bool) (s : Shell) : Shell :=
  if s.strict && !depends && s.status != 0 && s.flow == .on then { s with flow := .leaving } else s

/-- Run the body of a loop once. What comes of it is whether the loop goes on, and the state. -/
def turnLoop (act : Shell → Shell) (before : Shell) : Bool × Shell :=
  let s := act { before with loops := before.loops + 1 }
  let s := { s with loops := before.loops }
  match s.flow with
  | .on => (true, s)
  | .breaking true => (true, { s with flow := .on })
  | .breaking false => (false, { s with flow := .on })
  | _ => (false, s)

/-- Run a script, given what runs the scripts in it. -/
def step (run : Runner) : Runner
  | _, .nothing, s => s.ending 0
  | depends, .simple line values words redirects, s =>
    heed depends (runSimple run values words redirects { s with line })
  | depends, .list first joint second, s =>
    let s := run (depends || joint != .always) first s
    let goesOn := match joint with
      | .always => true
      | .ifGood => s.status == 0
      | .ifBad => s.status != 0
    if s.flow = .on && goesOn then run depends second s else s
  | depends, .pipe first second, s =>
    let (bytes, t) := s.capture (run true first)
    if t.flow ≠ .on then t
    else
      let u := { t with input := bytes }.within (run true second)
      heed depends { u with input := s.input }
  | _, .negation body, s =>
    let s := run true body s
    if s.flow = .on then s.ending (if s.status = 0 then 1 else 0) else s
  | depends, .apart waits body, s =>
    let t := s.within (run depends body)
    if waits then heed depends t else t.ending 0
  | depends, .redirected line body redirects, s =>
    match lead run redirects { s with line } with
    | .error (complaint, t) => heed depends ((leadBack redirects s t).fail complaint)
    | .ok t => leadBack redirects s (run depends body t)
  | depends, .choice condition good bad, s =>
    let s := run true condition s
    if s.flow ≠ .on then s else run depends (if s.status = 0 then good else bad) s
  | depends, .each name words? body, s =>
    let (words, s) := match words? with
      | some words => expandAll run words s
      | none => (s.arguments, s)
    (words.foldl (fun (goesOn, s) word =>
      if goesOn then turnLoop (run depends body) (s.setValue name word) else (goesOn, s))
      (decide (s.flow = .on), s.ending 0)).2
  | depends, .loop goal condition body, s =>
    let (goesOn, s) := turnLoop (run true condition) s
    if !goesOn then s
    else if (s.status == 0) != goal then s.ending 0
    else
      let (goesOn, s) := turnLoop (run depends body) s
      if goesOn then run depends (.loop goal condition body) s else s
  | depends, .fit word patterns body others, s =>
    let (text, s) := expandWhole run word s
    if patterns.any fun p => fits (pattern run p s) text.toList then run depends body s
    else run depends others s
  | _, .routine name body, s =>
    { s with routines := (name, body) :: s.routines, status := 0 }

/-- Run a script that is nested no deeper than a bound; one that is ends there. -/
def runUpTo : Nat → Runner
  | 0, _, _, s => { s with flow := .leaving }
  | bound + 1, depends, script, s => step (runUpTo bound) depends script s

/-- The bound on scripts in scripts and on the turns of loops. -/
def depth : Nat := 10000

/-- What becomes of a shell that is given some arguments. -/
def ofArguments (name : String) (words : List String) (directory : Place) (files : Files) : Shell :=
  runShell (runUpTo depth) words { start directory [] files with name }

/-- How a shell ended. -/
def howEnded (s : Shell) : Config.Ending :=
  match s.flow with
  | .killed signal => .signal signal
  | _ => .status s.status

end IntegrationHost.Rehearsal.Shell
