import IntegrationHost.Rehearsal.Shell.Printing

/-!
# Calculations

Whole numbers, names of values, signs, the four operations and the remainder, in parentheses or not.
Products come before sums, and operations of one rank go from the left.
-/

namespace IntegrationHost.Rehearsal.Calculation

/-- What follows blanks. -/
def skipBlanks (cs : List Char) : List Char :=
  cs.dropWhile fun c => c == ' ' || c == '\t' || c == '\n'

/-- The result of a product, a quotient or a remainder. -/
def times (operator : Char) (left right : Int) : Except String Int :=
  if operator = '*' then .ok (left * right)
  else if right = 0 then .error "division by zero"
  else if operator = '/' then .ok (left.tdiv right)
  else .ok (left.tmod right)

mutual

/-- A sum and what follows it. -/
def sum (value : String → Int) : Nat → List Char → Except String (Int × List Char)
  | 0, _ => .error "expecting primary"
  | bound + 1, cs => do
    let (left, cs) ← product value bound cs
    sumFrom value bound left cs

/-- What is added to a number, or taken from it. -/
def sumFrom (value : String → Int) : Nat → Int → List Char → Except String (Int × List Char)
  | 0, _, _ => .error "expecting primary"
  | bound + 1, left, cs =>
    match skipBlanks cs with
    | operator :: rest =>
      if operator = '+' ∨ operator = '-' then do
        let (right, cs) ← product value bound rest
        sumFrom value bound (if operator = '+' then left + right else left - right) cs
      else .ok (left, operator :: rest)
    | [] => .ok (left, [])

/-- A product and what follows it. -/
def product (value : String → Int) : Nat → List Char → Except String (Int × List Char)
  | 0, _ => .error "expecting primary"
  | bound + 1, cs => do
    let (left, cs) ← factor value bound cs
    productFrom value bound left cs

/-- What a number is multiplied with or divided by. -/
def productFrom (value : String → Int) : Nat → Int → List Char → Except String (Int × List Char)
  | 0, _, _ => .error "expecting primary"
  | bound + 1, left, cs =>
    match skipBlanks cs with
    | operator :: rest =>
      if ['*', '/', '%'].contains operator then do
        let (right, cs) ← factor value bound rest
        productFrom value bound (← times operator left right) cs
      else .ok (left, operator :: rest)
    | [] => .ok (left, [])

/-- A number, a name or something in parentheses, behind its signs, and what follows it. -/
def factor (value : String → Int) : Nat → List Char → Except String (Int × List Char)
  | 0, _ => .error "expecting primary"
  | bound + 1, cs =>
    match skipBlanks cs with
    | '-' :: rest => do
      let (n, cs) ← factor value bound rest
      return (-n, cs)
    | '+' :: rest => factor value bound rest
    | '(' :: rest => do
      let (n, cs) ← sum value bound rest
      match skipBlanks cs with
      | ')' :: rest => return (n, rest)
      | _ => .error "expecting ')'"
    | '$' :: rest => factor value bound rest
    | c :: rest =>
      let (name, after) := (c :: rest).span fun c => c.isAlphanum || c == '_'
      if c.isDigit then
        match Printing.integer (String.ofList name) with
        | (n, true) => .ok (n, after)
        | _ => .error "expecting EOF"
      else if name.isEmpty then .error "expecting primary"
      else .ok (value (String.ofList name), after)
    | [] => .error "expecting primary"

end

/-- The result of a calculation, given the numbers that names stand for. -/
def result (value : String → Int) (terms : String) : Except String Int := do
  if (skipBlanks terms.toList).isEmpty then return 0
  let (n, rest) ← sum value (4 * terms.length + 4) terms.toList
  if (skipBlanks rest).isEmpty then return n
  else .error "expecting EOF"

end IntegrationHost.Rehearsal.Calculation
