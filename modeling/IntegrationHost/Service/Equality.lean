import IntegrationHost.Service.Definition

/-!
# Equality of service definitions

Two definitions are compared level by level; `same_iff` says that the comparison is equality.
-/

namespace IntegrationHost.Service.Definition

mutual

/-- Compare two definitions. -/
def same : Definition → Definition → Bool
  | simple id task, simple id' task' => id == id' && decide (task = task')
  | list id services, list id' services' => id == id' && sameList services services'
  | splitJoin id size separator timeout service, splitJoin id' size' separator' timeout' service' =>
    id == id' && size == size' && separator == separator' && timeout == timeout' &&
      sameNested service service'
  | _, _ => false

/-- Compare two lists of definitions. -/
def sameList : List Definition → List Definition → Bool
  | [], [] => true
  | d :: rest, d' :: rest' => d.same d' && sameList rest rest'
  | _, _ => false

/-- Compare two nested services. -/
def sameNested : Option Definition → Option Definition → Bool
  | none, none => true
  | some d, some d' => d.same d'
  | _, _ => false

end

mutual

/-- Definitions that compare as the same are equal. -/
theorem same_iff : ∀ d d' : Definition, d.same d' = true ↔ d = d'
  | simple id task, d' => by cases d' <;> simp [same]
  | list id services, d' => by
    cases d' with
    | list id' services' => simp [same, sameList_iff services services']
    | _ => simp [same]
  | splitJoin id size separator timeout service, d' => by
    cases d' with
    | splitJoin id' size' separator' timeout' service' =>
      simp [same, sameNested_iff service service', and_assoc]
    | _ => simp [same]

/-- Lists of definitions that compare as the same are equal. -/
theorem sameList_iff : ∀ ds ds' : List Definition, sameList ds ds' = true ↔ ds = ds'
  | [], ds' => by cases ds' <;> simp [sameList]
  | d :: rest, ds' => by
    cases ds' with
    | nil => simp [sameList]
    | cons d' rest' => simp [sameList, same_iff d d', sameList_iff rest rest']

/-- Nested definitions that compare as the same are equal. -/
theorem sameNested_iff : ∀ o o' : Option Definition, sameNested o o' = true ↔ o = o'
  | none, o' => by cases o' <;> simp [sameNested]
  | some d, o' => by
    cases o' with
    | none => simp [sameNested]
    | some d' => simp [sameNested, same_iff d d']

end

instance : DecidableEq Definition := fun d d' => decidable_of_iff _ (same_iff d d')

end IntegrationHost.Service.Definition
