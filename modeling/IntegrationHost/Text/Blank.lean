/-!
# Blank characters

The characters with the Unicode property `White_Space`, and what the rest of the library does with
them: trimming, telling a blank text from one that says something, and cutting a line into words.
-/

namespace IntegrationHost.Text

/-- The code points with the property `White_Space`, as closed ranges in ascending order. -/
def blankRanges : List (Nat × Nat) :=
  [(0x09, 0x0d), (0x20, 0x20), (0x85, 0x85), (0xa0, 0xa0), (0x1680, 0x1680), (0x2000, 0x200a),
    (0x2028, 0x2029), (0x202f, 0x202f), (0x205f, 0x205f), (0x3000, 0x3000)]

/-- A character that separates words and is cut off by trimming. -/
def isBlankChar (c : Char) : Bool :=
  blankRanges.any fun range => decide (range.1 ≤ c.toNat ∧ c.toNat ≤ range.2)

/-- Characters without the blanks in front of them. -/
def trimStart (cs : List Char) : List Char :=
  cs.dropWhile isBlankChar

/-- Characters without the blanks behind them. -/
def trimEnd (cs : List Char) : List Char :=
  (cs.reverse.dropWhile isBlankChar).reverse

/-- A text without the blanks around it. -/
def trim (s : String) : String :=
  String.ofList (trimEnd (trimStart s.toList))

/-- A text that holds nothing but blanks. -/
def isBlank (s : String) : Bool :=
  s.toList.all isBlankChar

/-- The words among characters, given the letters already read of the word under way. -/
def wordsFrom : List Char → List Char → List String
  | [], [] => []
  | word, [] => [String.ofList word.reverse]
  | word, c :: cs =>
    if isBlankChar c then
      match word with
      | [] => wordsFrom [] cs
      | word => String.ofList word.reverse :: wordsFrom [] cs
    else wordsFrom (c :: word) cs

/-- The longest runs of characters that are not blank, in order. -/
def words (s : String) : List String :=
  wordsFrom [] s.toList

end IntegrationHost.Text
