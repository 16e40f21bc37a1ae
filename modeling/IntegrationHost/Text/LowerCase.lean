import IntegrationHost.Text.Letters

/-!
# Lower case

How a text is put into lower case. Two letters need more than the table of capitals: the dotted
capital I becomes two characters, and a capital sigma that ends a word becomes a final one.
-/

namespace IntegrationHost.Text

/-- Whether a run holds a code point. -/
def holdsCapital (n : Nat) (run : Nat × Nat × Nat × Int) : Bool :=
  decide (run.1 ≤ n ∧ n ≤ run.2.1) && (n - run.1) % run.2.2.1 == 0

/-- The small letter of a capital; every other character stands for itself. -/
def lowerChar (c : Char) : Char :=
  match capitals.find? (holdsCapital c.toNat) with
  | some run => Char.ofNat ((c.toNat : Int) + run.2.2.2).toNat
  | none => c

/-- Whether a letter comes next, perhaps behind marks. -/
def letterFollows (rest : List Char) : Bool :=
  (rest.dropWhile (isIn marksInWords)).head?.any (isIn casedLetters)

/-- Characters in lower case, given whether a letter stands before them, perhaps before marks. -/
def lowerFrom (behindLetter : Bool) : List Char → List Char
  | [] => []
  | c :: rest =>
    let lowered :=
      if c == 'İ' then ['i', '\u0307']
      else if c == 'Σ' && behindLetter && !letterFollows rest then ['ς']
      else [lowerChar c]
    lowered ++ lowerFrom (if isIn marksInWords c then behindLetter else isIn casedLetters c) rest

/-- A text in lower case. -/
def lower (s : String) : String :=
  String.ofList (lowerFrom false s.toList)

end IntegrationHost.Text
