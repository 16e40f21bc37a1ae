import IntegrationHost.Text.Blank
import IntegrationHost.Text.Digits
import IntegrationHost.Text.Lossy

/-!
# Printing

What `echo` and `printf` write: letters, escapes that begin with a backslash, and for `printf`
places in its format that arguments are put in.
-/

namespace IntegrationHost.Rehearsal.Printing

/-- The character of an escape that is one letter. -/
def escape? : Char → Option UInt8
  | '\\' => some 92
  | 'a' => some 7
  | 'b' => some 8
  | 'f' => some 12
  | 'n' => some 10
  | 'r' => some 13
  | 't' => some 9
  | 'v' => some 11
  | _ => none

/-- Whether a character is an octal digit. -/
def isOctal (c : Char) : Bool := '0' ≤ c && c ≤ '7'

/-- The number that digits spell. -/
def spelled (base : Nat) (digits : List Char) : Nat :=
  digits.foldl (fun n c =>
    n * base + (if c.isDigit then c.toNat - '0'.toNat else c.toLower.toNat - 'a'.toNat + 10)) 0

/-- The byte of up to three octal digits. -/
def octal (digits : List Char) : UInt8 := UInt8.ofNat (spelled 8 digits)

/-- The byte of an escape, behind the backslash, and how many characters it takes. -/
def escapeAt (cs : List Char) : Option (UInt8 × Nat) :=
  match cs with
  | [] => none
  | c :: _ =>
    if isOctal c then
      let digits := (cs.take 3).takeWhile isOctal
      some (octal digits, digits.length)
    else (escape? c).map fun byte => (byte, 1)

/-- Bytes, and whether nothing more is to be written. -/
abbrev Written := List UInt8 × Bool

/-- Text with the escapes of arguments: a zero before octal digits is not one of them, and `\c` ends
all writing. The first characters may have been read already. -/
def argument : Nat → List Char → Written
  | _, [] => ([], false)
  | skip + 1, _ :: rest => argument skip rest
  | 0, '\\' :: 'c' :: _ => ([], true)
  | 0, '\\' :: '0' :: rest =>
    let digits := (rest.take 3).takeWhile isOctal
    let (more, ends) := argument (digits.length + 1) ('0' :: rest)
    (octal digits :: more, ends)
  | 0, c :: rest =>
    match if c = '\\' then escapeAt rest else none with
    | some (byte, taken) =>
      let (more, ends) := argument taken rest
      (byte :: more, ends)
    | none =>
      let (more, ends) := argument 0 rest
      (Text.bytes c.toString ++ more, ends)

/-- What `echo` writes. -/
def echo (words : List String) : List UInt8 :=
  let (line, words) := match words with
    | "-n" :: words => ("", words)
    | words => ("\n", words)
  let (bytes, ends) := argument 0 (" ".intercalate words).toList
  if ends then bytes else bytes ++ Text.bytes line

/-- A place in a format. -/
structure Field where
  left : Bool
  zeros : Bool
  width : Nat
  precision : Option Nat
  kind : Char

/-- The place that a percent sign begins, and what follows it. -/
def field? (cs : List Char) : Option (Field × List Char) :=
  let isFlag (c : Char) : Bool := ['-', '+', ' ', '0', '#'].contains c
  let (flags, rest) := cs.span isFlag
  let (width, rest) := rest.span Char.isDigit
  let (precision, rest) := match rest with
    | '.' :: rest => let (digits, rest) := rest.span Char.isDigit; (some (spelled 10 digits), rest)
    | rest => (none, rest)
  match rest with
  | [] => none
  | kind :: rest =>
    some (⟨flags.contains '-', flags.contains '0', spelled 10 width, precision, kind⟩, rest)

/-- Bytes brought to the width of a place. -/
def Field.pad (f : Field) (numeric : Bool) (bytes : List UInt8) : List UInt8 :=
  let missing := f.width - bytes.length
  if f.left then bytes ++ List.replicate missing 32
  else if f.zeros && numeric then
    match bytes with
    | 45 :: digits => 45 :: List.replicate missing 48 ++ digits
    | digits => List.replicate missing 48 ++ digits
  else List.replicate missing 32 ++ bytes

/-- A decimal number, with blanks around it. -/
def decimal? (text : String) : Option Int :=
  let (negative, digits) := Text.sign (Text.trim text).toList
  if digits.isEmpty || !digits.all Char.isDigit then none
  else some (if negative then -spelled 10 digits else spelled 10 digits)

/-- An integer as `printf` reads it, and whether the whole text spells it. -/
def integer (text : String) : Int × Bool :=
  let (negative, digits) := Text.sign (text.toList.dropWhile (· == ' '))
  let (size, rest) := match digits with
    | '0' :: 'x' :: digits =>
      let isHex (c : Char) : Bool := c.isDigit || ('a' ≤ c.toLower && c.toLower ≤ 'f')
      (spelled 16 (digits.takeWhile isHex), digits.dropWhile isHex)
    | '0' :: digits => (spelled 8 (digits.takeWhile isOctal), digits.dropWhile isOctal)
    | digits => (spelled 10 (digits.takeWhile Char.isDigit), digits.dropWhile Char.isDigit)
  (if negative then -size else size, rest.isEmpty && digits.any Char.isDigit)

/-- What a format comes to: the bytes, the arguments that are left, whether any was asked for, and a
complaint. -/
structure Progress where
  bytes : List UInt8
  left : List String
  asked : Bool
  complaint : Option String
  ends : Bool

/-- What an argument comes to in a place. -/
def Field.fill (f : Field) (text : String) : Written × Option String :=
  let plain (bytes : List UInt8) : Written × Option String :=
    ((f.pad false ((f.precision.map bytes.take).getD bytes), false), none)
  let number (show? : Int → List Char) : Written × Option String :=
    let (n, good) := integer text
    ((f.pad true (Text.bytes (String.ofList (show? n))), false),
      if good || text.isEmpty then none else some (text ++ ": expected numeric value"))
  let natural (base : Nat) (n : Int) : List Char :=
    Nat.toDigits base (if n < 0 then (18446744073709551616 + n).toNat else n.toNat)
  match f.kind with
  | 's' => plain (Text.bytes text)
  | 'c' => plain ((Text.bytes text).take 1)
  | 'b' =>
    let (bytes, ends) := argument 0 text.toList
    ((f.pad false bytes, ends), none)
  | 'd' | 'i' => number fun n => (toString n).toList
  | 'u' => number (natural 10)
  | 'o' => number (natural 8)
  | 'x' => number (natural 16)
  | 'X' => number fun n => (natural 16 n).map Char.toUpper
  | kind => (([], true), some ("%" ++ kind.toString ++ ": invalid directive"))

/-- Go through a format once. -/
def pass : Nat → List Char → Progress → Progress
  | 0, _, p => p
  | bound + 1, cs, p =>
    if p.ends then p
    else
      match cs with
      | [] => p
      | '%' :: '%' :: rest => pass bound rest { p with bytes := p.bytes ++ [37] }
      | '%' :: rest =>
        match field? rest with
        | none => { p with complaint := some "missing format character", ends := true }
        | some (field, rest) =>
          let ((bytes, ends), complaint) := field.fill (p.left.head?.getD "")
          pass bound rest
            ⟨p.bytes ++ bytes, p.left.tail, true, p.complaint <|> complaint, ends⟩
      | c :: rest =>
        match if c = '\\' then escapeAt rest else none with
        | some (byte, taken) => pass bound (rest.drop taken) { p with bytes := p.bytes ++ [byte] }
        | none => pass bound rest { p with bytes := p.bytes ++ Text.bytes c.toString }

/-- Go through a format until no arguments are left. -/
def passes (format : List Char) : Nat → Progress → Progress
  | 0, p => p
  | bound + 1, p =>
    let p := pass (format.length + 1) format p
    if p.ends || !p.asked || p.left.isEmpty then p else passes format bound p

/-- What `printf` writes, and what it complains about. -/
def printf (format : String) (words : List String) : List UInt8 × Option String :=
  let p := passes format.toList (words.length + 1) ⟨[], words, false, none, false⟩
  (p.bytes, p.complaint)

end IntegrationHost.Rehearsal.Printing
