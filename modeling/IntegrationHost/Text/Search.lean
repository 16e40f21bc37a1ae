/-!
# Searching text

Leftmost occurrences of one text in another, and the three operations built on them: cutting once,
cutting everywhere, and replacing everywhere. All work on lists of characters; the functions on
`String` only wrap them.
-/

namespace IntegrationHost.Text

/-- What follows `start` when the characters begin with it. -/
def after? : List Char → List Char → Option (List Char)
  | [], cs => some cs
  | _ :: _, [] => none
  | x :: start, c :: cs => if x = c then after? start cs else none

/-- The characters before and after the leftmost occurrence of `mark`. -/
def cut? (mark : List Char) : List Char → Option (List Char × List Char)
  | [] => if mark.isEmpty then some ([], []) else none
  | c :: cs =>
    match after? mark (c :: cs) with
    | some rest => some ([], rest)
    | none => (cut? mark cs).map fun found => (c :: found.1, found.2)

/-- The pieces between the occurrences of `mark` among the characters behind the first `skip`. -/
def piecesBehind (mark : List Char) : Nat → List Char → List (List Char)
  | _, [] => [[]]
  | skip + 1, _ :: cs => piecesBehind mark skip cs
  | 0, c :: cs =>
    if (after? mark (c :: cs)).isSome then [] :: piecesBehind mark (mark.length - 1) cs
    else
      match piecesBehind mark 0 cs with
      | [] => [[c]]
      | piece :: more => (c :: piece) :: more

/-- The pieces between the non-overlapping occurrences of `mark`, taken from the left. An empty
`mark` stands before, between and behind all characters. -/
def pieces (mark cs : List Char) : List (List Char) :=
  if mark.isEmpty then [] :: cs.map (fun c => [c]) ++ [[]] else piecesBehind mark 0 cs

/-- The parts of a text around the leftmost occurrence of `mark`. -/
def splitOnce (mark s : String) : Option (String × String) :=
  (cut? mark.toList s.toList).map fun found => (String.ofList found.1, String.ofList found.2)

/-- The pieces of a text between the occurrences of `mark`. -/
def split (mark s : String) : List String :=
  (pieces mark.toList s.toList).map String.ofList

/-- The text with every occurrence of `search` replaced. -/
def replace (search replacement s : String) : String :=
  replacement.intercalate (split search s)

/-- The rest of a text that begins with `start`. -/
def stripStart? (start s : String) : Option String :=
  (after? start.toList s.toList).map String.ofList

/-- Whether a text begins with another one. -/
def startsWith (s start : String) : Bool :=
  (stripStart? start s).isSome

/-- Whether a text ends with `tail`. -/
def endsWith (s tail : String) : Bool :=
  (after? tail.toList.reverse s.toList.reverse).isSome

/-- Whether one of the characters of a text is among `marks`. -/
def hasAny (marks : List Char) (s : String) : Bool :=
  s.toList.any marks.contains

end IntegrationHost.Text
