/-!
# Bytes as text

Bytes in UTF-8 read as text whatever they are. Where they spell no character, every beginning of one
that breaks off, and every byte that begins none, stands for one replacement character.
-/

namespace IntegrationHost.Text

/-- A character of which some bytes are read: what they say, how many more are to come, and the
bounds of the next one. -/
structure Partial where
  value : Nat
  left : Nat
  least : Nat
  greatest : Nat

/-- What is known after a byte. -/
inductive Reading where
  | char (c : Char)
  | started (p : Partial)
  | broken

/-- Read the first byte of a character. The second one has narrower bounds where a longer form than
needed, half of a surrogate pair or a code point too large would come out. -/
def firstByte (b : Nat) : Reading :=
  if b < 0x80 then .char (Char.ofNat b)
  else if b < 0xc2 then .broken
  else if b < 0xe0 then .started ⟨b - 0xc0, 1, 0x80, 0xbf⟩
  else if b < 0xf0 then
    .started ⟨b - 0xe0, 2, if b = 0xe0 then 0xa0 else 0x80, if b = 0xed then 0x9f else 0xbf⟩
  else if b < 0xf5 then
    .started ⟨b - 0xf0, 3, if b = 0xf0 then 0x90 else 0x80, if b = 0xf4 then 0x8f else 0xbf⟩
  else .broken

/-- Read a further byte of a character, if it can be one. -/
def Partial.next? (p : Partial) (b : Nat) : Option Reading :=
  if p.least ≤ b ∧ b ≤ p.greatest then
    let value := p.value * 64 + (b - 0x80)
    some (if p.left ≤ 1 then .char (Char.ofNat value)
      else .started ⟨value, p.left - 1, 0x80, 0xbf⟩)
  else none

/-- The characters of bytes, behind the beginning of one. -/
def lossyFrom : Option Partial → List UInt8 → List Char
  | none, [] => []
  | some _, [] => ['\ufffd']
  | p, b :: rest =>
    let carried := p.bind fun p => p.next? b.toNat
    let before := if p.isSome && carried.isNone then ['\ufffd'] else []
    before ++
      match carried.getD (firstByte b.toNat) with
      | .char c => c :: lossyFrom none rest
      | .started p => lossyFrom (some p) rest
      | .broken => '\ufffd' :: lossyFrom none rest

/-- The text of bytes. -/
def ofBytes (bytes : List UInt8) : String := String.ofList (lossyFrom none bytes)

/-- The bytes of a text. -/
def bytes (s : String) : List UInt8 := s.toUTF8.toList

end IntegrationHost.Text
