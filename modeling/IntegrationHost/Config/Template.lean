import IntegrationHost.Config.Error
import IntegrationHost.Text.Dictionary
import IntegrationHost.Text.Search

/-!
# Templates

Text with references to variables, written as the name of the variable between `$\x7b` and `\x7d`.
Every reference is replaced by the value of its variable, once and from left to right; values are
not looked through again. An opening mark without a closing one is plain text.
-/

namespace IntegrationHost.Config.Template

/-- The mark that opens a reference. -/
def opening : List Char := ['$', '\x7b']

/-- The mark that closes a reference. -/
def closing : List Char := ['\x7d']

/-- The text before the first reference, the name it refers to, and the text behind it. -/
def reference? (cs : List Char) : Option (List Char × List Char × List Char) := do
  let (before, rest) ← Text.cut? opening cs
  let (name, behind) ← Text.cut? closing rest
  return (before, name, behind)

/-- Replace the references among characters, of which there are no more than `bound`. The failure
names the first variable that is not defined. -/
def fillWithin (bindings : Dictionary) : Nat → List Char → Except String (List Char)
  | 0, cs => .ok cs
  | bound + 1, cs =>
    match reference? cs with
    | none => .ok cs
    | some (before, name, behind) =>
      match bindings.get? (String.ofList name) with
      | none => .error (String.ofList name)
      | some value => do
        let rest ← fillWithin bindings bound behind
        return before ++ value.toList ++ rest

/-- Replace every reference. Each takes at least one character, so the bound is never met. -/
def fill (bindings : Dictionary) (text : String) : Except String String :=
  (fillWithin bindings text.length text.toList).map String.ofList

end IntegrationHost.Config.Template
