import IntegrationHost.Proofs.Management.Server
import IntegrationHost.Registry.Reload
import Mathlib.Logic.Function.Basic

/-!
# Registries that agree with their servers

A registry keeps a list of names and a table of locations, its server keeps a table of components,
and each handle keeps whether its adapter was destroyed. The four agree as long as nobody else puts
anything on the server: what one operation changes in one of them it changes in the others, wherever
it breaks off.
-/

namespace IntegrationHost

open Lifecycle

variable {ω A : Type}

/-! ## Marks of handles -/

/-- The name of a handle, and whether its adapter was destroyed. -/
def Host.mark? (h : Host ω A) (n : Nat) : Option (ObjectName × Bool) :=
  h.handles[n]?.map fun handle => (handle.name, handle.destroyed)

namespace Host

variable {h : Host ω A} {n : Nat} {name : ObjectName} {destroyed : Bool}

theorem mark?_eq_some_iff :
    h.mark? n = some (name, destroyed) ↔
      ∃ handle, h.handles[n]? = some handle ∧ handle.name = name ∧
        handle.destroyed = destroyed := by
  simp only [mark?, Option.map_eq_some_iff, Prod.mk.injEq]

theorem mark?_lt {mark : ObjectName × Bool} (marked : h.mark? n = some mark) :
    n < h.handles.length := by
  obtain ⟨handle, found, _⟩ := Option.map_eq_some_iff.mp marked
  exact (List.getElem?_eq_some_iff.mp found).1

theorem mark?_setHandle {handle changed : Handle A} (found : h.handles[n]? = some handle)
    (m : Nat) :
    (h.setHandle n changed).mark? m =
      if m = n then some (changed.name, changed.destroyed) else h.mark? m := by
  have within := (List.getElem?_eq_some_iff.mp found).1
  simp only [mark?, setHandle, List.getElem?_set]
  by_cases same : n = m
  · rw [if_pos same, if_pos same.symm, if_pos within]
    rfl
  · rw [if_neg same, if_neg (Ne.symm same)]

theorem mark?_addHandle (h : Host ω A) (handle : Handle A) (m : Nat) :
    (h.addHandle handle).2.mark? m =
      if m = h.handles.length then some (handle.name, handle.destroyed) else h.mark? m := by
  simp only [mark?, addHandle]
  by_cases last : m = h.handles.length
  · rw [if_pos last, last, List.getElem?_concat_length]
    rfl
  · rw [if_neg last]
    rcases Nat.lt_or_gt_of_ne last with less | greater
    · rw [List.getElem?_append_left less]
    · have beyond : h.handles.length + 1 ≤ m := greater
      rw [List.getElem?_eq_none (by simpa using beyond),
        List.getElem?_eq_none (Nat.le_of_lt greater)]

/-- A request changes no mark. -/
theorem mark?_request (kind : AdapterKind ω A) (event : Event) (n : Nat) (h : Host ω A) (m : Nat) :
    (h.request kind event n).2.mark? m = h.mark? m := by
  unfold request
  cases found : h.handles[n]? with
  | none => rfl
  | some handle =>
      refine (mark?_setHandle found m).trans ?_
      by_cases same : m = n
      · rw [if_pos same, same, mark?, found]
        rfl
      · rw [if_neg same]

theorem length_request (kind : AdapterKind ω A) (event : Event) (n : Nat) (h : Host ω A) :
    (h.request kind event n).2.handles.length = h.handles.length := by
  unfold request
  cases h.handles[n]? with
  | none => rfl
  | some handle => exact List.length_set

theorem servers_request (kind : AdapterKind ω A) (event : Event) (n : Nat) (h : Host ω A) :
    (h.request kind event n).2.servers = h.servers := by
  unfold request
  cases h.handles[n]? <;> rfl

theorem strangers_request (kind : AdapterKind ω A) (event : Event) (n : Nat) (h : Host ω A) :
    (h.request kind event n).2.strangers = h.strangers := by
  unfold request
  cases h.handles[n]? <;> rfl

end Host

namespace Registry

/-! ## What a registry records -/

section

variable (r : Registry ω) (name other : ObjectName)

/-- A registry with one more adapter, and the location that it came from, if it came from one. -/
def enlisted (location : Option Config.Location) : Registry ω :=
  (r.list name).putLocation name location

theorem name_enlisted (location : Option Config.Location) :
    (r.enlisted name location).name = r.name := by
  cases location <;> rfl

theorem server_enlisted (location : Option Config.Location) :
    (r.enlisted name location).server = r.server := by
  cases location <;> rfl

theorem lists_enlisted (location : Option Config.Location) :
    (r.enlisted name location).lists other = if other = name then true else r.lists other := by
  have listed_eq : (r.enlisted name location).listed = r.listed ++ [name] := by
    cases location <;> rfl
  by_cases same : other = name
  · simp [lists, listed_eq, same]
  · simp [lists, listed_eq, same]

theorem location?_enlisted {name : ObjectName} (unlocated : r.location? name = none)
    (other : ObjectName) (location : Option Config.Location) :
    (r.enlisted name location).location? other =
      if other = name then location else r.location? other := by
  by_cases same : other = name
  · subst same
    rw [if_pos rfl]
    cases location with
    | none => exact unlocated
    | some location => simp [enlisted, location?, putLocation]
  · rw [if_neg same]
    cases location with
    | none => rfl
    | some location =>
        simp [enlisted, location?, putLocation, list, Dictionary.lookup_entry, withoutLocation,
          Dictionary.lookup_without, same]

theorem lists_forget :
    (r.forget name).lists other = if other = name then false else r.lists other := by
  by_cases same : other = name
  · simp [lists, forget, delist, removeLocation, same]
  · simp [lists, forget, delist, removeLocation, same]

theorem location?_forget :
    (r.forget name).location? other = if other = name then none else r.location? other :=
  Dictionary.lookup_without r.locations name other

end

/-! ## Consistency -/

/-- A registry, its server and the handles agree on a name, when `origin` tells from which location
the adapter of each handle was created. -/
structure AgreesOn (origin : Nat → Option Config.Location) (r : Registry ω) (h : Host ω A)
    (name : ObjectName) : Prop where
  /-- On the server is what is listed, and perhaps the registry itself. -/
  known : (h.servers r.server).knows name = true → name = r.name ∨ r.lists name = true
  listed : r.lists name = true → ∃ n, (h.servers r.server).adapter? name = some n
  /-- An adapter on the server is there under its own name, listed, and not destroyed. -/
  current : ∀ {n}, (h.servers r.server).adapter? name = some n →
    r.lists name = true ∧ h.mark? n = some (name, false)
  located : ∀ {location}, r.location? name = some location ↔
    ∃ n, (h.servers r.server).adapter? name = some n ∧ origin n = some location

/-- They agree on all names. -/
structure Consistent (origin : Nat → Option Config.Location) (r : Registry ω) (h : Host ω A) :
    Prop where
  self : r.name.get? ObjectName.typeKey = some "AdapterRegistry"
  adapters : ∀ {n name destroyed}, h.mark? n = some (name, destroyed) →
    name.get? ObjectName.typeKey = some "Adapter"
  agrees : ∀ {name}, r.AgreesOn origin h name
  /-- An adapter that was created from a location leaves the server only to be destroyed. -/
  kept : ∀ {n name}, h.mark? n = some (name, false) → origin n ≠ none →
    (h.servers r.server).adapter? name = some n

variable {origin traced : Nat → Option Config.Location} {r left : Registry ω} {h host : Host ω A}
  {name : ObjectName}

/-- What is recorded of a name is all that the agreement on it is about. -/
theorem AgreesOn.congr (agrees : r.AgreesOn origin h name) (name_eq : left.name = r.name)
    (lists_eq : left.lists name = r.lists name)
    (location_eq : left.location? name = r.location? name)
    (adapter_eq :
      (host.servers left.server).adapter? name = (h.servers r.server).adapter? name)
    (known : (host.servers left.server).knows name = true →
      name = r.name ∨ (h.servers r.server).knows name = true)
    (same : ∀ {n}, (h.servers r.server).adapter? name = some n →
      host.mark? n = h.mark? n ∧ traced n = origin n) :
    left.AgreesOn traced host name := by
  constructor
  · intro isKnown
    rw [name_eq, lists_eq]
    rcases known isKnown with isSelf | wasKnown
    · exact Or.inl isSelf
    · exact agrees.known wasKnown
  · intro isListed
    rw [lists_eq] at isListed
    rw [adapter_eq]
    exact agrees.listed isListed
  · intro n found
    rw [adapter_eq] at found
    rw [lists_eq, (same found).1]
    exact agrees.current found
  · intro location
    rw [location_eq, adapter_eq, agrees.located]
    refine exists_congr fun n => and_congr_right fun found => ?_
    rw [(same found).2]

namespace Consistent

section

variable (consistent : r.Consistent origin h)

include consistent

/-- No adapter has the name of the registry. -/
theorem ne_self {n : Nat} {destroyed : Bool} (marked : h.mark? n = some (name, destroyed)) :
    name ≠ r.name := by
  rintro rfl
  have both := consistent.self.symm.trans (consistent.adapters marked)
  simp at both

/-- The name of an adapter that is not listed is not known to the server. -/
theorem unknown {n : Nat} {destroyed : Bool} (marked : h.mark? n = some (name, destroyed))
    (unlisted : r.lists name = false) : (h.servers r.server).knows name = false := by
  cases known : (h.servers r.server).knows name with
  | false => rfl
  | true =>
      rcases consistent.agrees.known known with isSelf | isListed
      · exact absurd isSelf (consistent.ne_self marked)
      · cases unlisted.symm.trans isListed

/-- An adapter that is not listed, and was not destroyed, was not created from a location. -/
theorem untraced {n : Nat} (marked : h.mark? n = some (name, false))
    (unlisted : r.lists name = false) : origin n = none := by
  by_contra fromLocation
  cases unlisted.symm.trans (consistent.agrees.current (consistent.kept marked fromLocation)).1

/-- What is not listed has no location. -/
theorem location?_unlisted (unlisted : r.lists name = false) : r.location? name = none := by
  cases located : r.location? name with
  | none => rfl
  | some location =>
      obtain ⟨n, found, _⟩ := consistent.agrees.located.mp located
      cases unlisted.symm.trans (consistent.agrees.current found).1

/-- An adapter is on the server by one name only. -/
theorem number_ne {other : ObjectName} {n m : Nat} (marked : h.mark? n = some (name, false))
    (different : other ≠ name) (found : (h.servers r.server).adapter? other = some m) : m ≠ n := by
  rintro rfl
  have marks := (consistent.agrees.current found).2.symm.trans marked
  exact different (congrArg Prod.fst (Option.some.inj marks))

/-- The agreement is about the handles that there are. -/
theorem congr (same : ∀ n < h.handles.length, traced n = origin n) : r.Consistent traced h where
  self := consistent.self
  adapters := consistent.adapters
  agrees := by
    intro name
    apply consistent.agrees.congr rfl rfl rfl rfl Or.inr
    intro n found
    exact ⟨rfl, same n (Host.mark?_lt (consistent.agrees.current found).2)⟩
  kept := by
    intro n name marked fromLocation
    rw [same n (Host.mark?_lt marked)] at fromLocation
    exact consistent.kept marked fromLocation

/-- The agreement is about marks and about what the server knows beside the registry. -/
theorem unchanged (marks : ∀ n, host.mark? n = h.mark? n)
    (adapters : ∀ name,
      (host.servers r.server).adapter? name = (h.servers r.server).adapter? name)
    (known : ∀ name, (host.servers r.server).knows name = true →
      name = r.name ∨ (h.servers r.server).knows name = true) :
    r.Consistent origin host where
  self := consistent.self
  adapters := by
    intro n name destroyed marked
    rw [marks] at marked
    exact consistent.adapters marked
  agrees := by
    intro name
    apply consistent.agrees.congr rfl rfl rfl (adapters name) (known name)
    intro n _
    exact ⟨marks n, rfl⟩
  kept := by
    intro n name marked fromLocation
    rw [marks] at marked
    rw [adapters]
    exact consistent.kept marked fromLocation

/-- A new handle of an adapter that the registry does not hold. -/
theorem addHandle {handle : Handle A}
    (isAdapter : handle.name.get? ObjectName.typeKey = some "Adapter")
    (isNew : origin h.handles.length = none) :
    r.Consistent origin (h.addHandle handle).2 where
  self := consistent.self
  adapters := by
    intro n name destroyed marked
    rw [Host.mark?_addHandle] at marked
    by_cases last : n = h.handles.length
    · rw [if_pos last] at marked
      cases marked
      exact isAdapter
    · rw [if_neg last] at marked
      exact consistent.adapters marked
  agrees := by
    intro name
    refine consistent.agrees.congr rfl rfl rfl rfl Or.inr ?_
    intro n found
    have within := Host.mark?_lt (consistent.agrees.current found).2
    rw [Host.mark?_addHandle, if_neg (Nat.ne_of_lt within)]
    exact ⟨rfl, rfl⟩
  kept := by
    intro n name marked fromLocation
    rw [Host.mark?_addHandle] at marked
    by_cases last : n = h.handles.length
    · rw [last] at fromLocation
      exact absurd isNew fromLocation
    · rw [if_neg last] at marked
      exact consistent.kept marked fromLocation

end

/-! ## Coming and going -/

/-- An adapter is listed, put on the server, and remembered with the location it came from. -/
theorem enlist (consistent : r.Consistent origin h) {n : Nat}
    (marked : h.mark? n = some (name, false)) (unlisted : r.lists name = false)
    {server : Management.Server}
    (registered : (h.servers r.server).register name (.adapter n) = .ok server)
    (location : Option Config.Location) :
    (r.enlisted name location).Consistent (Function.update origin n location)
      (h.setServer r.server server) := by
  have server_eq :
      (h.setServer r.server server).servers (r.enlisted name location).server = server := by
    rw [server_enlisted]
    exact if_pos rfl
  have adapter_eq := Management.Server.adapter?_register registered
  have location_eq := r.location?_enlisted (consistent.location?_unlisted unlisted)
  constructor
  · rw [name_enlisted]
    exact consistent.self
  · exact consistent.adapters
  · intro other
    by_cases same : other = name
    · subst same
      constructor
      · intro _
        rw [lists_enlisted, if_pos rfl]
        exact Or.inr rfl
      · intro _
        rw [server_eq, adapter_eq, if_pos rfl]
        exact ⟨n, rfl⟩
      · intro m found
        rw [server_eq, adapter_eq, if_pos rfl] at found
        cases found
        rw [lists_enlisted, if_pos rfl]
        exact ⟨rfl, marked⟩
      · intro place
        rw [location_eq, if_pos rfl, server_eq, adapter_eq, if_pos rfl]
        simp only [Option.some.injEq, exists_eq_left', Function.update_self]
    · apply consistent.agrees.congr
      · exact r.name_enlisted name location
      · rw [lists_enlisted, if_neg same]
      · rw [location_eq, if_neg same]
      · rw [server_eq, adapter_eq, if_neg same]
      · intro known
        rw [server_eq, Management.Server.knows_register registered] at known
        exact Or.inr (known.resolve_left same)
      · intro m found
        exact ⟨rfl, Function.update_of_ne (consistent.number_ne marked same found) _ _⟩
  · intro m other otherMarked fromLocation
    rw [server_eq, adapter_eq]
    by_cases same : m = n
    · subst same
      have marks := otherMarked.symm.trans marked
      rw [if_pos (congrArg Prod.fst (Option.some.inj marks))]
    · rw [Function.update_of_ne same] at fromLocation
      have found := consistent.kept otherMarked fromLocation
      rw [if_neg, found]
      rintro rfl
      cases unlisted.symm.trans (consistent.agrees.current found).1

/-- An adapter is destroyed, taken off the server, and forgotten. -/
theorem drop (consistent : r.Consistent origin h) {n : Nat}
    (found : (h.servers r.server).adapter? name = some n)
    (marks : ∀ m, host.mark? m = if m = n then some (name, true) else h.mark? m)
    (server_eq : host.servers r.server = (h.servers r.server).unregister name) :
    (r.forget name).Consistent origin host := by
  have marked := (consistent.agrees.current found).2
  have adapter_eq : ∀ other, (host.servers (r.forget name).server).adapter? other =
      if other = name then none else (h.servers r.server).adapter? other := by
    intro other
    rw [← Management.Server.adapter?_unregister, ← server_eq]
    rfl
  have knows_iff : ∀ other, (host.servers (r.forget name).server).knows other = true ↔
      other ≠ name ∧ (h.servers r.server).knows other = true := by
    intro other
    rw [← Management.Server.knows_unregister, ← server_eq]
    rfl
  constructor
  · exact consistent.self
  · intro m other destroyed otherMarked
    rw [marks] at otherMarked
    by_cases same : m = n
    · rw [if_pos same] at otherMarked
      cases otherMarked
      exact consistent.adapters marked
    · rw [if_neg same] at otherMarked
      exact consistent.adapters otherMarked
  · intro other
    by_cases same : other = name
    · subst same
      constructor
      · intro known
        exact absurd rfl ((knows_iff other).mp known).1
      · intro isListed
        rw [lists_forget, if_pos rfl] at isListed
        cases isListed
      · intro m stillThere
        rw [adapter_eq, if_pos rfl] at stillThere
        cases stillThere
      · intro place
        rw [location?_forget, if_pos rfl, adapter_eq, if_pos rfl]
        simp
    · apply consistent.agrees.congr
      · rfl
      · rw [lists_forget, if_neg same]
      · rw [location?_forget, if_neg same]
      · rw [adapter_eq, if_neg same]
      · intro known
        exact Or.inr ((knows_iff other).mp known).2
      · intro m otherFound
        rw [marks, if_neg (consistent.number_ne marked same otherFound)]
        exact ⟨rfl, rfl⟩
  · intro m other otherMarked fromLocation
    rw [marks] at otherMarked
    by_cases same : m = n
    · rw [if_pos same] at otherMarked
      cases otherMarked
    · rw [if_neg same] at otherMarked
      have otherFound := consistent.kept otherMarked fromLocation
      rw [adapter_eq, if_neg, otherFound]
      rintro rfl
      exact same (Option.some.inj (otherFound.symm.trans found))

end Consistent

end Registry

end IntegrationHost
