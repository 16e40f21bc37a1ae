import IntegrationHost.Json.Basic
import IntegrationHost.Text.Search

/-!
# JSON tokens

A text is read in two passes; this is the first, from characters to tokens. White space between
tokens is dropped. A string literal is read as code units first, and pairs of surrogates are put
together after that.
-/

namespace IntegrationHost.Json

/-- The smallest parts of a JSON text that mean something. -/
inductive Token where
  | arrayOpen
  | arrayClose
  | objectOpen
  | objectClose
  | comma
  | colon
  | null
  | bool (value : Bool)
  | number (value : Numeral)
  | string (value : Literal)
  deriving DecidableEq

/-- White space between tokens. -/
def isSpace (c : Char) : Bool :=
  c == ' ' || c == '\t' || c == '\n' || c == '\r'

/-- The value of a hexadecimal digit. -/
def hexValue? (c : Char) : Option Nat :=
  if '0' ≤ c ∧ c ≤ '9' then some (c.toNat - '0'.toNat)
  else if 'a' ≤ c ∧ c ≤ 'f' then some (c.toNat - 'a'.toNat + 10)
  else if 'A' ≤ c ∧ c ≤ 'F' then some (c.toNat - 'A'.toNat + 10)
  else none

/-- The code unit of four hexadecimal digits. -/
def hexUnit? (a b c d : Char) : Option Nat := do
  let a ← hexValue? a
  let b ← hexValue? b
  let c ← hexValue? c
  let d ← hexValue? d
  return ((a * 16 + b) * 16 + c) * 16 + d

/-- The character that stands for itself or for a control character behind a backslash. -/
def escaped? : Char → Option Char
  | '"' => some '"'
  | '\\' => some '\\'
  | '/' => some '/'
  | 'b' => some '\x08'
  | 'f' => some '\x0c'
  | 'n' => some '\n'
  | 'r' => some '\r'
  | 't' => some '\t'
  | _ => none

/-- The code units of a string literal whose opening quote is already read, and what follows it.
Control characters have to be escaped. -/
def literalUnits : List Char → Option (List Nat × List Char)
  | [] => none
  | '"' :: rest => some ([], rest)
  | '\\' :: 'u' :: a :: b :: c :: d :: rest => do
    let unit ← hexUnit? a b c d
    let more ← literalUnits rest
    return (unit :: more.1, more.2)
  | '\\' :: c :: rest => do
    let c ← escaped? c
    let more ← literalUnits rest
    return (c.toNat :: more.1, more.2)
  | c :: rest =>
    if c.toNat < 0x20 || c == '\\' then none
    else (literalUnits rest).map fun more => (c.toNat :: more.1, more.2)

/-- The first half of a surrogate pair. -/
def isHighSurrogate (unit : Nat) : Bool := decide (0xd800 ≤ unit ∧ unit < 0xdc00)

/-- The second half of a surrogate pair. -/
def isLowSurrogate (unit : Nat) : Bool := decide (0xdc00 ≤ unit ∧ unit < 0xe000)

/-- The characters of code units; there are none when a surrogate stands alone. -/
def unitsText : List Nat → Option (List Char)
  | [] => some []
  | unit :: rest =>
    if isHighSurrogate unit then
      match rest with
      | low :: rest =>
        if isLowSurrogate low then
          (unitsText rest).map
            (Char.ofNat (0x10000 + (unit - 0xd800) * 0x400 + (low - 0xdc00)) :: ·)
        else none
      | [] => none
    else if isLowSurrogate unit then none
    else (unitsText rest).map (Char.ofNat unit :: ·)

/-- Whether a character is a decimal digit. -/
def isDigit (c : Char) : Bool := decide ('0' ≤ c ∧ c ≤ '9')

/-- The digits at the start, at least one, and what follows them. -/
def digits? (cs : List Char) : Option (List Char × List Char) :=
  match cs.takeWhile isDigit with
  | [] => none
  | digits => some (digits, cs.dropWhile isDigit)

/-- The digits before the point: zero, or digits that do not start with zero. -/
def wholeDigits? : List Char → Option (Nat × List Char)
  | '0' :: rest => some (0, rest)
  | cs => (digits? cs).map fun found => (Numeral.digitsValue 0 found.1, found.2)

/-- The point and the digits behind it, if there is a point. -/
def fraction? : List Char → Option (Option (List Char) × List Char)
  | '.' :: rest => (digits? rest).map fun found => (some found.1, found.2)
  | cs => some (none, cs)

/-- The exponent, if there is one. -/
def exponent? : List Char → Option (Option (Bool × Nat) × List Char)
  | c :: rest =>
    if c == 'e' || c == 'E' then
      let signed := match rest with
        | '-' :: digits => (true, digits)
        | '+' :: digits => (false, digits)
        | digits => (false, digits)
      (digits? signed.2).map fun found =>
        (some (signed.1, Numeral.digitsValue 0 found.1), found.2)
    else some (none, c :: rest)
  | [] => some (none, [])

/-- The number at the start, without its sign. -/
def unsigned? (negative : Bool) (cs : List Char) : Option (Numeral × List Char) := do
  let (whole, cs) ← wholeDigits? cs
  let (fraction, cs) ← fraction? cs
  let (exponent, cs) ← exponent? cs
  return (⟨negative, whole, fraction, exponent⟩, cs)

/-- The token at the start, where no white space is, and what follows it. -/
def token? : List Char → Option (Token × List Char)
  | [] => none
  | '[' :: rest => some (.arrayOpen, rest)
  | ']' :: rest => some (.arrayClose, rest)
  | '\x7b' :: rest => some (.objectOpen, rest)
  | '\x7d' :: rest => some (.objectClose, rest)
  | ',' :: rest => some (.comma, rest)
  | ':' :: rest => some (.colon, rest)
  | '"' :: rest =>
    (literalUnits rest).map fun found => (.string ((unitsText found.1).map String.ofList), found.2)
  | '-' :: rest => (unsigned? true rest).map fun found => (.number found.1, found.2)
  | 'n' :: rest => (Text.after? "ull".toList rest).map fun rest => (.null, rest)
  | 't' :: rest => (Text.after? "rue".toList rest).map fun rest => (.bool true, rest)
  | 'f' :: rest => (Text.after? "alse".toList rest).map fun rest => (.bool false, rest)
  | cs => (unsigned? false cs).map fun found => (.number found.1, found.2)

/-- The tokens of characters, of which no more than `bound` are left. -/
def tokensWithin : Nat → List Char → Option (List Token)
  | 0, cs => if cs.isEmpty then some [] else none
  | bound + 1, cs =>
    match cs with
    | [] => some []
    | c :: rest =>
      if isSpace c then tokensWithin bound rest
      else do
        let (token, rest) ← token? (c :: rest)
        let tokens ← tokensWithin bound rest
        return token :: tokens

/-- The tokens of a text. Each takes at least one character, so the bound is never met. -/
def tokens (cs : List Char) : Option (List Token) :=
  tokensWithin cs.length cs

end IntegrationHost.Json
