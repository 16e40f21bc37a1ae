import IntegrationHost.Rehearsal.Shell.Printing
import IntegrationHost.Files

/-!
# Conditions

What `test` and `[` find out about texts, numbers and files. A condition that makes no sense is a
failure of its own.
-/

namespace IntegrationHost.Rehearsal.Condition

/-- What a word asks about another one, if it is such a word. -/
def one? (directory : Place) (f : Files) (operator word : String) : Option Bool :=
  let found := (f.lookup directory word).toOption
  match operator with
  | "-n" => some !word.isEmpty
  | "-z" => some word.isEmpty
  | "-e" | "-r" | "-w" => some found.isSome
  | "-d" | "-x" => some (found == some .directory)
  | "-f" => some (match found with
    | some (.file _) => true
    | _ => false)
  | "-s" => some (match found with
    | some (.file content) => !content.bytes.isEmpty
    | some .directory => true
    | none => false)
  | "-h" | "-L" | "-p" | "-b" | "-S" | "-u" | "-g" | "-k" | "-t" => some false
  | _ => none

/-- A number in a condition. -/
def number (word : String) : Except String Int :=
  match Printing.decimal? word with
  | some n => .ok n
  | none => .error ("Illegal number: " ++ word)

/-- What a word asks about the words around it, if it is such a word. -/
def two? (left operator right : String) : Option (Except String Bool) :=
  let compare (holds : Int → Int → Bool) : Option (Except String Bool) :=
    some (do return holds (← number left) (← number right))
  match operator with
  | "=" => some (.ok (left == right))
  | "!=" => some (.ok (left != right))
  | "<" => some (.ok (left < right))
  | ">" => some (.ok (right < left))
  | "-eq" => compare (· == ·)
  | "-ne" => compare (· != ·)
  | "-lt" => compare (decide <| · < ·)
  | "-le" => compare (decide <| · ≤ ·)
  | "-gt" => compare (decide <| · > ·)
  | "-ge" => compare (decide <| · ≥ ·)
  | _ => none

/-- The words before and after the first occurrence of a word. -/
def around? (mark : String) : List String → Option (List String × List String)
  | [] => none
  | word :: rest =>
    if word = mark then some ([], rest)
    else (around? mark rest).map fun (before, after) => (word :: before, after)

/-- Whether a condition holds, or why it makes no sense. A bound no less than the number of its
words is given. -/
def holds (directory : Place) (f : Files) : Nat → List String → Except String Bool
  | 0, _ => .ok false
  | bound + 1, words =>
    let parts? (mark : String) (join : Bool → Bool → Bool) : Option (Except String Bool) :=
      (around? mark words.tail).map fun (before, after) => do
        let left ← holds directory f bound (words.head?.toList ++ before)
        let right ← holds directory f bound after
        return join left right
    match words with
    | [] => .ok false
    | [word] => .ok !word.isEmpty
    | [operator, word] =>
      if operator = "!" then .ok word.isEmpty
      else
        match one? directory f operator word with
        | some answer => .ok answer
        | none => .error (operator ++ ": unexpected operator")
    | left :: operator :: rest =>
      match rest, (rest.head?.bind fun right => two? left operator right) with
      | [_], some answer => answer
      | _, _ =>
        match parts? "-o" (· || ·) <|> parts? "-a" (· && ·) with
        | some answer => answer
        | none =>
          if left = "!" then (holds directory f bound (operator :: rest)).map (!·)
          else if left = "(" && rest.getLast? = some ")" then
            holds directory f bound (operator :: rest.dropLast)
          else .error (left ++ ": unexpected operator")

end IntegrationHost.Rehearsal.Condition
