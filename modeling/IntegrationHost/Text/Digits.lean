/-!
# Signs and bounds

What the spellings of numbers have in common: a sign in front, and whole numbers that have to fit 64
bits.
-/

namespace IntegrationHost.Text

/-- A sign, which may be missing, and what follows it. The sign is `true` for minus. -/
def sign : List Char → Bool × List Char
  | '-' :: rest => (true, rest)
  | '+' :: rest => (false, rest)
  | rest => (false, rest)

/-- The least size that only a negative number of 64 bits can have. -/
def int64Bound : Nat := 9223372036854775808

/-- A whole number from its sign and size, if it fits 64 bits. -/
def int64? (negative : Bool) (size : Nat) : Option Int :=
  if negative then (if size ≤ int64Bound then some (-size) else none)
  else if size < int64Bound then some size else none

end IntegrationHost.Text
