import IntegrationHost.Proofs.Service.Outcome
import IntegrationHost.Proofs.Text.Search
import IntegrationHost.Service.Definition

/-!
# What definitions mean

What a service makes of what is written in a message, read off its definition alone. Neither the
life of the service nor threads and workers come into it, and of the identities of messages only the
text of one, which stands in every fragment as the link to the message that it was cut from.
-/

namespace IntegrationHost

/-! ## Bodies -/

namespace Message.Body

/-- The fragment of a body that a part of the payload makes. -/
def fragment (link part : String) (body : Body) : Body :=
  ⟨part, body.metadata.insert parentKey link⟩

/-- Bodies of fragments joined. What stands in their metadata overwrites what stood in the whole,
but for the link. -/
def join (separator : String) (body : Body) (bodies : List Body) : Body :=
  ⟨separator.intercalate (bodies.map payload),
    bodies.foldl (fun metadata b => metadata.update (b.metadata.erase parentKey).entries)
      body.metadata⟩

end Message.Body

namespace Service

open Message (Body)

/-- What becomes of a body: whether it was processed, and how it was left. -/
structure Effect where
  verdict : Except Error Unit
  body : Body

/-- The body that is left, or the failure. -/
def Effect.answer (effect : Effect) : Except Error Body :=
  effect.verdict.map fun _ => effect.body

/-! ## Meanings -/

/-- What a task makes of a body, under the id of a service. -/
def Task.effect (uniqueId : String) : Task → Body → Effect
  | nothing, body => ⟨.ok (), body⟩
  | logMessage _, body => ⟨.ok (), body⟩
  | addMetadata metadata, body =>
    ⟨.ok (), { body with metadata := body.metadata.update metadata.entries }⟩
  | replaceText search replacement, body =>
    if search.isEmpty then ⟨.error (.failed uniqueId "search text is empty"), body⟩
    else ⟨.ok (), { body with payload := Text.substituted search replacement body.payload }⟩
  | alwaysFail reason, body => ⟨.error (.failed uniqueId reason), body⟩

/-- What becomes of a body of which each part is left to something else: the parts are joined, or
the first failure among them leaves the body alone. -/
def fanOut (nested : Body → Effect) (separator link : String) (body : Body) : Effect :=
  match (Text.parts separator body.payload).mapM fun part =>
      (nested (body.fragment link part)).answer with
  | .ok bodies => ⟨.ok (), body.join separator bodies⟩
  | .error reason => ⟨.error reason, body⟩

namespace Definition

mutual

/-- What a service of a definition makes of a body. -/
def meaning (link : String) : Definition → Body → Effect
  | simple id task => task.effect (simple id task).resolvedId
  | list _ services => meaningAll link services
  | splitJoin _ _ separator _ service =>
    fanOut (meaningOf link service) (separator.getD defaultSeparator) link

/-- What services make of a body one after the other, up to the first that fails. -/
def meaningAll (link : String) : List Definition → Body → Effect
  | [], body => ⟨.ok (), body⟩
  | d :: rest, body =>
    match (d.meaning link body).verdict with
    | .ok () => meaningAll link rest (d.meaning link body).body
    | .error _ => d.meaning link body

/-- What a nested service makes of a body; a missing one leaves it alone. -/
def meaningOf (link : String) : Option Definition → Body → Effect
  | none, body => ⟨.ok (), body⟩
  | some d, body => d.meaning link body

end

theorem meaningOf_eq (link : String) (service : Option Definition) :
    meaningOf link service = (service.getD defaultNested).meaning link := by
  cases service <;> rfl

mutual

/-- Every split-join of the definition, at every depth, has a worker. -/
def Startable : Definition → Prop
  | simple _ _ => True
  | list _ services => AllStartable services
  | splitJoin _ poolSize _ _ service => 0 < poolSize ∧ NestedStartable service

/-- All definitions are startable. -/
def AllStartable : List Definition → Prop
  | [] => True
  | d :: rest => d.Startable ∧ AllStartable rest

/-- A nested service is startable, or there is none. -/
def NestedStartable : Option Definition → Prop
  | none => True
  | some d => d.Startable

end

theorem allStartable_iff {services : List Definition} :
    AllStartable services ↔ ∀ d ∈ services, d.Startable := by
  induction services with
  | nil => simp [AllStartable]
  | cons d rest ih => simp [AllStartable, ih]

theorem nestedStartable_iff {service : Option Definition} :
    NestedStartable service ↔ (service.getD defaultNested).Startable := by
  cases service <;> simp [NestedStartable, defaultNested, Startable]

end Definition

end Service

/-! ## Bodies that agree -/

namespace Message.Body

/-- Every key but that of the link. -/
def Ordinary (key : String) : Prop :=
  key ≠ parentKey

/-- Two bodies with the same payload and the same values under the keys that are seen. -/
structure Agrees (seen : String → Prop) (a b : Body) : Prop where
  payload : a.payload = b.payload
  metadata : ∀ key, seen key → a.metadata.get? key = b.metadata.get? key

variable {seen : String → Prop} {a b : Body}

theorem Agrees.refl (seen : String → Prop) (a : Body) : a.Agrees seen a :=
  ⟨rfl, fun _ _ => rfl⟩

/-- Bodies that agree under all keys are the same. -/
theorem Agrees.eq (agrees : a.Agrees (fun _ => True) b) : a = b := by
  rcases a with ⟨payload, metadata⟩
  rcases b with ⟨otherPayload, otherMetadata⟩
  obtain ⟨payload_eq, metadata_eq⟩ := agrees
  have same : metadata = otherMetadata :=
    Dictionary.ext_get? fun key => metadata_eq key trivial
  dsimp only at payload_eq
  rw [payload_eq, same]

/-- Bodies that are given another payload still agree. -/
theorem Agrees.withPayload (agrees : a.Agrees seen b) (payload : String) :
    ({ a with payload } : Body).Agrees seen { b with payload } :=
  ⟨rfl, agrees.metadata⟩

/-- Bodies that are given further metadata still agree. -/
theorem Agrees.update (agrees : a.Agrees seen b) (more : Dictionary) :
    ({ a with metadata := a.metadata.update more.entries } : Body).Agrees seen
      { b with metadata := b.metadata.update more.entries } := by
  constructor
  · exact agrees.payload
  · intro key isSeen
    simp only [Dictionary.get?_update _ more.ascending, agrees.metadata key isSeen]

/-- Fragments agree but for the links. -/
theorem Agrees.fragment {m : Message} (agrees : m.body.Agrees seen b)
    (ordinary : ∀ key, Ordinary key → seen key) (index : Nat) (link part : String) :
    (m.fragment index part).body.Agrees Ordinary (b.fragment link part) := by
  constructor
  · rfl
  · intro key notLink
    simp only [Message.fragment, Message.body, Body.fragment, Dictionary.get?_insert,
      if_neg notLink]
    exact agrees.metadata key (ordinary key notLink)

/-- Bodies that agree are joined with fragments that agree but for the links. -/
theorem Agrees.join (agrees : a.Agrees seen b) (separator : String) {as bs : List Body}
    (fragments : List.Forall₂ (Agrees Ordinary) as bs) :
    (a.join separator as).Agrees seen (b.join separator bs) := by
  constructor
  · have payloads : as.map Body.payload = bs.map Body.payload := by
      rw [← List.forall₂_eq_eq_eq, List.forall₂_map_left_iff, List.forall₂_map_right_iff]
      exact fragments.imp fun _ _ agree => agree.payload
    simp only [Body.join, payloads]
  · refine List.rel_foldl (P := fun metadata other : Dictionary => ∀ key,
      seen key → metadata.get? key = other.get? key) ?_ agrees.metadata fragments
    intro metadata other same fragment otherFragment agree key isSeen
    simp only [Dictionary.erase, Dictionary.get?_update_without]
    by_cases isLink : key = parentKey
    · rw [if_pos isLink, if_pos isLink]
      exact same key isSeen
    · rw [if_neg isLink, if_neg isLink, agree.metadata key isLink, same key isSeen]

end Message.Body

end IntegrationHost
