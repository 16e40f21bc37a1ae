import IntegrationHost.Management.Server
import IntegrationHost.Proofs.Text.Dictionary

/-!
# Names and what servers know by them

The names that the host gives out say what kind of component they are for, so that no adapter has
the name of a registry; one is made for every id that is a part of a name, and for no other. A
server that a component is put on, or taken off, knows the others by their names as before.
-/

namespace IntegrationHost

namespace ObjectName

/-- Pairs that could be collected were put in one after the other. -/
theorem collect_ok {into properties : Dictionary} {pairs : List (String × String)}
    (collected : collect into pairs = .ok properties) : properties = into.update pairs := by
  induction pairs generalizing into with
  | nil =>
      cases collected
      rfl
  | cons pair rest ih =>
      rcases pair with ⟨key, value⟩
      unfold collect at collected
      split at collected
      · cases collected
      · split at collected
        · cases collected
        · exact ih collected

/-- The properties of a name are those that it was made from. -/
theorem properties_of_new {domain : String} {pairs : List (String × String)} {name : ObjectName}
    (made : new domain pairs = .ok name) : name.properties = Dictionary.empty.update pairs := by
  unfold new at made
  split at made
  · cases made
  · cases collected : collect .empty pairs with
    | error flaw =>
        rw [collected] at made
        cases made
    | ok properties =>
        rw [collected] at made
        dsimp only at made
        split at made
        · cases made
          exact collect_ok collected
        · cases made

/-- The key under which a name says what kind of component it is for. -/
def typeKey : String := "type"

theorem type_of_new {type id : String} {name : ObjectName}
    (made : new hostDomain [(typeKey, type), ("id", id)] = .ok name) :
    name.get? typeKey = some type := by
  have different : typeKey ≠ "id" := by decide
  simp only [get?, properties_of_new made, Dictionary.update, List.foldl_cons, List.foldl_nil,
    Dictionary.get?_insert, if_neg different, if_true]

theorem type_of_adapter {id : String} {name : ObjectName} (made : adapter id = .ok name) :
    name.get? typeKey = some "Adapter" :=
  type_of_new made

theorem type_of_registry {id : String} {name : ObjectName} (made : registry id = .ok name) :
    name.get? typeKey = some "AdapterRegistry" :=
  type_of_new made

section

variable {type id : String} (typePart : isPart type = true)

include typePart

/-- A name that the host gives out is made when its id is a part of a name. -/
theorem exists_given (part : isPart id = true) :
    ∃ name, new hostDomain [(typeKey, type), ("id", id)] = .ok name := by
  have idPart : isPart "id" = true ∧ isPart typeKey = true := by decide
  have domainGiven : isDomain hostDomain = true := by decide
  have collected : collect .empty [(typeKey, type), ("id", id)] =
      .ok ((Dictionary.empty.insert typeKey type).insert "id" id) := by
    have free : ((Dictionary.empty.insert typeKey type).get? "id").isSome = false := by rfl
    have empty : (Dictionary.empty.get? typeKey).isSome = false := by rfl
    simp [collect, typePart, part, idPart, free, empty]
  have valid :
      isValid hostDomain ((Dictionary.empty.insert typeKey type).insert "id" id) = true := by
    have entries_eq : ((Dictionary.empty.insert typeKey type).insert "id" id).entries =
        [("id", id), (typeKey, type)] := by
      rfl
    simp [isValid, entries_eq, domainGiven, typePart, part, idPart]
  refine ⟨⟨_, _, valid⟩, ?_⟩
  unfold new
  rw [domainGiven, collected]
  exact dif_pos valid

/-- It is not made when its id is none. -/
theorem given_of_not_isPart (notPart : isPart id = false) :
    new hostDomain [(typeKey, type), ("id", id)] = .error (.invalidProperty "id" id) := by
  have keyPart : isPart typeKey = true := by decide
  have domainGiven : isDomain hostDomain = true := by decide
  have empty : (Dictionary.empty.get? typeKey).isSome = false := by rfl
  simp [new, domainGiven, collect, typePart, notPart, keyPart, empty]

end

end ObjectName

namespace Management.Server

variable {s server : Server} {name other : ObjectName} {bean : Bean}

/-- A component is put on a server that knows none of its name, and behind all others. -/
theorem register_eq_ok_iff :
    s.register name bean = .ok server ↔
      s.knows name = false ∧ server = ⟨s.beans ++ [(name, bean)]⟩ := by
  unfold register
  cases s.knows name with
  | true => simp
  | false => simp [eq_comm]

theorem lookup_register (registered : s.register name bean = .ok server) (other : ObjectName) :
    server.lookup other = if other = name then some bean else s.lookup other := by
  obtain ⟨unknown, rfl⟩ := register_eq_ok_iff.mp registered
  have none : s.beans.lookup name = none := by
    simpa [knows, lookup] using unknown
  simp only [lookup, List.lookup_append, Dictionary.lookup_entry]
  by_cases same : other = name
  · rw [same, none, if_pos rfl, if_pos rfl]
    rfl
  · rw [if_neg same, if_neg same]
    exact Option.or_none

theorem lookup_unregister (s : Server) (name other : ObjectName) :
    (s.unregister name).lookup other = if other = name then none else s.lookup other :=
  Dictionary.lookup_without s.beans name other

/-- Of the components that are put on a server only adapters are found as such. -/
theorem adapter?_register_bean (registered : s.register name bean = .ok server)
    (other : ObjectName) :
    server.adapter? other = if other = name then bean.handle? else s.adapter? other := by
  unfold adapter?
  rw [lookup_register registered]
  split <;> rfl

/-- An adapter that is put on a server is known by its name. -/
theorem adapter?_register {n : Nat} (registered : s.register name (.adapter n) = .ok server)
    (other : ObjectName) :
    server.adapter? other = if other = name then some n else s.adapter? other :=
  adapter?_register_bean registered other

theorem adapter?_unregister (s : Server) (name other : ObjectName) :
    (s.unregister name).adapter? other = if other = name then none else s.adapter? other := by
  unfold adapter?
  rw [lookup_unregister]
  split <;> rfl

/-- Where no component is known, no adapter is. -/
theorem adapter?_of_unknown (unknown : s.knows name = false) : s.adapter? name = none := by
  rw [knows, Option.isSome_eq_false_iff, Option.isNone_iff_eq_none] at unknown
  rw [adapter?, unknown]
  rfl

theorem knows_register (registered : s.register name bean = .ok server) (other : ObjectName) :
    server.knows other = true ↔ other = name ∨ s.knows other = true := by
  unfold knows
  rw [lookup_register registered]
  by_cases same : other = name
  · simp [same]
  · simp [same]

theorem knows_unregister (s : Server) (name other : ObjectName) :
    (s.unregister name).knows other = true ↔ other ≠ name ∧ s.knows other = true := by
  unfold knows
  rw [lookup_unregister]
  by_cases same : other = name
  · simp [same]
  · simp [same]

end Management.Server

end IntegrationHost
