import IntegrationHost.Json.Basic
import IntegrationHost.Text.Blank

/-!
# Violations

What is wrong with a configuration. A rule that is broken makes one violation, which names the place
by the path of fields that leads there; a check reports all violations in document order.
-/

namespace IntegrationHost

/-- A broken rule and where it is broken. -/
structure Violation where
  path : String
  message : String
  deriving DecidableEq, Repr

/-- The path of a field of the element at a path. -/
def childPath (parent child : String) : String :=
  if parent.isEmpty then child else parent ++ "." ++ child

/-- The path of an item of the list at a path. -/
def itemPath (path : String) (index : Nat) : String :=
  path ++ "[" ++ toString index ++ "]"

namespace Violation

/-- The wording of a violation. -/
def text (v : Violation) : String :=
  "Adapter Validation Error: [" ++ v.path ++ "]=[" ++ v.message ++ "]"

/-- The wording of violations, one a line. -/
def lines (violations : List Violation) : String :=
  "\n".intercalate (violations.map text)

/-- A violation as an object. -/
def toJson (v : Violation) : Json :=
  .ofMembers [("path", .ofString v.path), ("message", .ofString v.message)]

/-- Violations as an array. -/
def listJson (violations : List Violation) : Json :=
  .array (violations.map toJson)

/-- A value that has to be there and say something. -/
def nonBlank (path : String) : Option String → List Violation
  | none => [⟨path, "may not be null"⟩]
  | some value => if Text.isBlank value then [⟨path, "may not be blank"⟩] else []

/-- Ids, of which those in `seen` stand before and those in `reported` stand there twice already:
each id is reported where it comes for the second time. -/
def repeatedFrom (path : String) (seen reported : List String) : List String → List Violation
  | [] => []
  | id :: ids =>
    if seen.contains id then
      if reported.contains id then repeatedFrom path seen reported ids
      else ⟨path, "duplicate uniqueId " ++ id⟩ :: repeatedFrom path seen (id :: reported) ids
    else repeatedFrom path (id :: seen) reported ids

/-- Ids that have to be different from one another. -/
def repeated (path : String) (ids : List String) : List Violation :=
  repeatedFrom path [] [] ids

end Violation

end IntegrationHost
