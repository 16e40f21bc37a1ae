import IntegrationHost.Rehearsal.Shell.Basic
import IntegrationHost.Rehearsal.Shell.Calculation
import IntegrationHost.Rehearsal.Shell.Reader

/-!
# Expansion

What the words of a script become when it runs, and where its channels are led. Scripts within words
are run by a runner that is given, so that nothing here calls itself.
-/

namespace IntegrationHost.Rehearsal

/-- What runs a script. It is told whether something depends on how the script ends. -/
abbrev Runner := Bool → ShellScript → Shell → Shell

namespace Shell

/-! ## Whole texts and scripts apart -/

/-- Run the lines of a text, up to a fault in it. -/
def runText (run : Runner) (text : String) (s : Shell) : Shell :=
  let (lines, flaw?) := ShellScript.read text
  let s := lines.foldl (fun s line => if s.flow = .on then run false line s else s) s
  match flaw?, s.flow with
  | some flaw, .on => { (s.complainAt flaw.line flaw.words).ending 2 with flow := .leaving }
  | _, _ => s

/-- Do something in a shell of its own, of which only the files, what was written and the status
remain. -/
def within (s : Shell) (act : Shell → Shell) : Shell :=
  let t := act s
  { s with
    files := t.files
    written := t.written
    complaint := t.complaint
    status := t.status
    flow := match t.flow with
      | .killed signal => .killed signal
      | _ => s.flow }

/-- Do something in a shell of its own, and keep what it writes to its output. -/
def capture (s : Shell) (act : Shell → Shell) : List UInt8 × Shell :=
  let t := { s with written := [], out := .out }.within act
  (t.written, { t with written := s.written, out := s.out })

/-! ## Words -/

/-- Words under way: those that are complete, the last first, and the one that goes on. -/
structure Fields where
  closed : List Letters
  opened? : Option Letters

namespace Fields

/-- Add letters to the last word. -/
def add (f : Fields) (letters : Letters) : Fields :=
  { f with opened? := some (f.opened?.getD [] ++ letters) }

/-- End the last word. -/
def close (f : Fields) : Fields :=
  match f.opened? with
  | some letters => ⟨letters :: f.closed, none⟩
  | none => f

/-- Add text as it stands. -/
def addText (f : Fields) (quoted : Bool) (text : String) : Fields :=
  f.add (text.toList.map fun c => (c, quoted))

/-- Add text that is taken apart at blanks. -/
def addApart (f : Fields) (text : String) : Fields :=
  text.toList.foldl (fun f c =>
    if c == ' ' || c == '\t' || c == '\n' then f.close else f.add [(c, false)]) f

/-- Add texts that are words of their own. -/
def addEach (f : Fields) : List String → Fields
  | [] => if f.opened? = some [] then { f with opened? := none } else f
  | [text] => f.addText true text
  | text :: texts => (f.addText true text).close.addEach texts

end Fields

/-- The number that a name stands for in a calculation. -/
def numberOf (s : Shell) (name : String) : Int :=
  (Printing.decimal? ((s.value? name).getD "")).getD 0

/-- The text that parts stand for which ask for nothing but values. -/
def plainText (s : Shell) (text : String) : String :=
  String.join ((Word.partsOfLines (text.length + 1) text.toList).map fun
    | .letters text _ => text
    | .value name _ => (s.value? name).getD ""
    | _ => "")

/-- The text that is asked for by what stands behind a dollar sign: that of a name, its length, or
with a sign behind the name what takes its place if it stands for nothing, or for something. A colon
makes an empty text count as nothing. -/
def valueOf (asked : String) (s : Shell) : String × Shell :=
  let cs := asked.toList
  let isWhole (cs : List Char) : Bool :=
    match cs with
    | [c] => Word.isSpecial c || Word.beginsName c
    | cs => Word.isName cs || (!cs.isEmpty && cs.all Char.isDigit)
  let (name, rest) := cs.span Word.isInName
  let value? := s.value? (String.ofList name)
  let filled? := value?.filter fun text => !text.isEmpty
  if isWhole cs then
    match s.value? asked with
    | some text => (text, s)
    | none =>
      if s.wary && asked != "@" && asked != "*" then
        ("", s.giveUp (asked ++ ": parameter not set"))
      else ("", s)
  else
    match cs, rest with
    | '#' :: name, _ => (toString ((s.value? (String.ofList name)).getD "").length, s)
    | _, ':' :: '-' :: word => (filled?.getD (s.plainText (String.ofList word)), s)
    | _, '-' :: word => (value?.getD (s.plainText (String.ofList word)), s)
    | _, ':' :: '+' :: word => (if filled?.isSome then s.plainText (String.ofList word) else "", s)
    | _, '+' :: word => (if value?.isSome then s.plainText (String.ofList word) else "", s)
    | _, ':' :: '=' :: word =>
      let text := filled?.getD (s.plainText (String.ofList word))
      (text, s.setValue (String.ofList name) text)
    | _, _ => ("", s.giveUp "Bad substitution")

/-- The text that a part of a word stands for. -/
def textOf (run : Runner) (part : Part) (s : Shell) : String × Shell :=
  if s.flow ≠ .on then ("", s)
  else
    match part with
    | .letters text _ => (text, s)
    | .value asked _ => valueOf asked s
    | .output script _ =>
      let (bytes, s) := s.capture (runText run script)
      let cs := (Text.ofBytes bytes).toList.filter (· != '\x00')
      (String.ofList (cs.reverse.dropWhile (· == '\n')).reverse, s)
    | .result terms _ =>
      match Calculation.result s.numberOf terms with
      | .ok n => (toString n, s)
      | .error words =>
        ("", s.giveUp ("arithmetic expression: " ++ words ++ ": \"" ++ terms ++ "\""))

/-- Whether a part is in quotes. -/
def isQuoted : Part → Bool
  | .letters _ quoted => quoted
  | .value _ quoted => quoted
  | .output _ quoted => quoted
  | .result _ quoted => quoted

/-- The words that a word becomes. -/
def expand (run : Runner) (word : Word) (s : Shell) : List String × Shell :=
  let (fields, s) := word.foldl (fun ((fields : Fields), s) part =>
    match part with
    | .value "@" true => (fields.addEach s.arguments, s)
    | .letters text quoted => (fields.addText quoted text, s)
    | part =>
      let (text, s) := textOf run part s
      (if isQuoted part then fields.addText true text else fields.addApart text, s)) (⟨[], none⟩, s)
  (fields.close.closed.reverse.flatMap s.wordsOf, s)

/-- The words that words become. -/
def expandAll (run : Runner) (words : List Word) (s : Shell) : List String × Shell :=
  words.foldl (fun (done, s) word =>
    let (more, s) := expand run word s
    (done ++ more, s)) ([], s)

/-- The text that a word becomes where it is not taken apart. -/
def expandWhole (run : Runner) (word : Word) (s : Shell) : String × Shell :=
  word.foldl (fun (text, s) part =>
    let (more, s) := textOf run part s
    (text ++ more, s)) ("", s)

/-- The pattern that a word becomes. -/
def pattern (run : Runner) (word : Word) (s : Shell) : Letters :=
  word.flatMap fun part => (textOf run part s).1.toList.map fun c => (c, isQuoted part)

/-! ## Channels -/

/-- Lead a channel somewhere. The failure is a complaint. -/
def leadOne (run : Runner) (s : Shell) : Redirect → Except (String × Shell) Shell
  | .toFile channel append path =>
    let (path, s) := expandWhole run path s
    match s.openSink append path with
    | .error words => .error (words, s)
    | .ok (sink, files) =>
      let s := { s with files }
      match channel with
      | 1 => .ok { s with out := sink }
      | 2 => .ok { s with err := sink }
      | _ => .ok s
  | .fromFile path =>
    let (path, s) := expandWhole run path s
    match s.openSource path with
    | .error words => .error (words, s)
    | .ok input => .ok { s with input }
  | .fromText text =>
    let (text, s) := expandWhole run text s
    .ok { s with input := Text.bytes text }
  | .toChannel channel target =>
    let (target, s) := expandWhole run target s
    let sink? := match target with
      | "1" => some s.out
      | "2" => some s.err
      | "-" => some .nowhere
      | _ => none
    match sink?, channel with
    | none, _ => .error (target ++ ": Bad file descriptor", s)
    | some sink, 1 => .ok { s with out := sink }
    | some sink, 2 => .ok { s with err := sink }
    | some _, _ => .ok s

/-- Lead channels somewhere, one after the other. -/
def lead (run : Runner) (redirects : List Redirect) (s : Shell) : Except (String × Shell) Shell :=
  redirects.foldlM (leadOne run) s

/-- Have the channels lead where they led in an earlier state, after some of them were led
elsewhere. -/
def leadBack (redirects : List Redirect) (before s : Shell) : Shell :=
  let readElsewhere := redirects.any fun
    | .fromFile _ => true
    | .fromText _ => true
    | _ => false
  { s with
    out := before.out
    err := before.err
    input := if readElsewhere then before.input else s.input }

end Shell

end IntegrationHost.Rehearsal
