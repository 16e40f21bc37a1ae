import IntegrationHost.Proofs.Lifecycle.Initialisation
import IntegrationHost.Proofs.Management.ObjectName
import IntegrationHost.Proofs.Service.Meaning

/-!
# Updates that fragments make to metadata

Fragments start with the metadata of their message, and what they are left with overwrites it in
their order. A fragment that leaves a value as it was writes that value again, and so may undo what
an earlier fragment has made of it. Where no fragment takes values away, an update is lost under a
key exactly when the message had a value there, the last fragment is left with it, and another is
not. What services of definitions write depends neither on the payload nor on the metadata that they
find, and so they lose no update.
-/

namespace IntegrationHost

namespace Message.Body

/-- The value under a key that the last body with another value than before has for it. -/
def updated (key : String) (found : Option String) (bodies : List Body) : Option String :=
  bodies.foldl (fun kept body =>
    if body.metadata.get? key = found then kept else body.metadata.get? key) found

/-! ## Overwriting and updating -/

section

variable {key : String} {found : Option String} {bodies : List Body}

theorem overwritten_concat (bodies : List Body) (last : Body) :
    overwritten key found (bodies ++ [last]) =
      (last.metadata.get? key).or (overwritten key found bodies) := by
  rw [overwritten, List.foldl_concat]
  rfl

theorem updated_concat (bodies : List Body) (last : Body) :
    updated key found (bodies ++ [last]) =
      if last.metadata.get? key = found then updated key found bodies
      else last.metadata.get? key := by
  rw [updated, List.foldl_concat]
  rfl

/-- A value is as it was if no body has another. -/
theorem updated_eq_found_iff :
    updated key found bodies = found ↔ ∀ body ∈ bodies, body.metadata.get? key = found := by
  induction bodies using List.reverseRecOn with
  | nil => exact iff_of_true rfl (List.forall_mem_nil _)
  | append_singleton bodies last ih =>
      rw [updated_concat, List.forall_mem_append, List.forall_mem_singleton]
      by_cases same : last.metadata.get? key = found
      · rw [if_pos same, ih]
        exact (and_iff_left same).symm
      · rw [if_neg same]
        exact iff_of_false same fun all => same all.2

/-- Under a key that is new no update is lost. -/
theorem overwritten_none : overwritten key none bodies = updated key none bodies := by
  induction bodies using List.reverseRecOn with
  | nil => rfl
  | append_singleton bodies last ih =>
      rw [overwritten_concat, updated_concat, ih]
      cases last.metadata.get? key <;> rfl

/-- No update is lost unless the last body has the value from before and another has not. -/
theorem overwritten_eq_updated_iff
    (kept : found ≠ none → ∀ body ∈ bodies, body.metadata.get? key ≠ none) :
    overwritten key found bodies = updated key found bodies ↔
      found = none ∨ (∀ body ∈ bodies, body.metadata.get? key = found) ∨
        ∀ last ∈ bodies.getLast?, last.metadata.get? key ≠ found := by
  by_cases isNew : found = none
  · subst isNew
    exact iff_of_true overwritten_none (Or.inl rfl)
  rcases bodies.eq_nil_or_concat' with rfl | ⟨earlier, last, rfl⟩
  · exact iff_of_true rfl (Or.inr (Or.inl (List.forall_mem_nil _)))
  -- the last body has a value, which is the one that stands
  obtain ⟨value, has⟩ : ∃ value, last.metadata.get? key = some value :=
    Option.ne_none_iff_exists'.mp (kept isNew last (by simp))
  have stands : overwritten key found (earlier ++ [last]) = last.metadata.get? key := by
    rw [overwritten_concat, has]
    rfl
  rw [stands, or_iff_right isNew, List.getLast?_concat, ← updated_eq_found_iff]
  by_cases same : last.metadata.get? key = found
  · rw [same, eq_comm]
    exact (or_iff_left fun differs => differs last rfl same).symm
  · rw [updated_concat, if_neg same]
    refine iff_of_true rfl (Or.inr ?_)
    rintro _ ⟨⟩
    exact same

/-- Where all bodies have the same value no update is lost, and that value is left. -/
theorem overwritten_of_same {value : Option String} (exists_body : bodies ≠ [])
    (same : ∀ body ∈ bodies, body.metadata.get? key = value) (kept : found ≠ none → value ≠ none) :
    overwritten key found bodies = updated key found bodies ∧
      overwritten key found bodies = value := by
  have nothing_lost : overwritten key found bodies = updated key found bodies := by
    refine (overwritten_eq_updated_iff fun notNew body member => ?_).mpr (Or.inr ?_)
    · rw [same body member]
      exact kept notNew
    · by_cases unchanged : value = found
      · exact Or.inl fun body member => (same body member).trans unchanged
      · refine Or.inr fun last isLast => ?_
        rw [same last (List.mem_of_getLast? isLast)]
        exact unchanged
  refine ⟨nothing_lost, ?_⟩
  cases value with
  | none =>
      obtain rfl : found = none := not_not.mp fun notNew => kept notNew rfl
      exact nothing_lost.trans (updated_eq_found_iff.mpr same)
  | some value =>
      obtain ⟨earlier, last, rfl⟩ := bodies.eq_nil_or_concat'.resolve_left exists_body
      rw [overwritten_concat, same last (by simp)]
      rfl

end

/-- Under a key but that of the link stands what the bodies have overwritten it with. -/
theorem get?_join (separator : String) (body : Body) (bodies : List Body) {key : String}
    (ordinary : Ordinary key) :
    (body.join separator bodies).metadata.get? key =
      overwritten key (body.metadata.get? key) bodies := by
  simp only [join]
  generalize body.metadata = metadata
  induction bodies generalizing metadata with
  | nil => rfl
  | cons first rest ih =>
      rw [List.foldl_cons, ih, Dictionary.erase, Dictionary.get?_update_without, if_neg ordinary]
      rfl

end Message.Body

namespace Service

open Lifecycle
open Message (Body)

/-! ## Split-joins -/

namespace SplitJoin

/-- Fragments inherit all metadata of their message. -/
theorem get?_of_mem_fragments {separator : String} {message fragment : Message}
    (isOne : fragment ∈ fragments separator message) {key : String}
    (ordinary : Message.Body.Ordinary key) :
    fragment.metadata.get? key = message.metadata.get? key := by
  obtain ⟨index, within, rfl⟩ := List.mem_mapIdx.mp isOne
  exact (Dictionary.get?_insert _ _ _ _).trans (if_neg ordinary)

/-- When nothing fails and no fragment takes values away, the message is left with the last update
under each key but that of the link, unless the last fragment has the value that the message had and
another has not. -/
theorem Outcome.updated_iff {answer : Body → Except Fault Body} {executor : Pool.Executor Unit}
    {separator : String} {message left : Message}
    (outcome : Outcome answer executor separator message (.ok ()) left)
    (keeps : ∀ part done, answer part = .ok done → ∀ key, Message.Body.Ordinary key →
      part.metadata.get? key ≠ none → done.metadata.get? key ≠ none) :
    ∃ bodies, (fragments separator message).map (fun f => answer f.body) = bodies.map .ok ∧
      ∀ key, Message.Body.Ordinary key →
        let found := message.metadata.get? key
        (left.metadata.get? key = Message.Body.updated key found bodies ↔
          found = none ∨ (∀ body ∈ bodies, body.metadata.get? key = found) ∨
            ∀ last ∈ bodies.getLast?, last.metadata.get? key ≠ found) := by
  cases outcome with
  | joined bodies _ answers _ _ _ _ metadata =>
      refine ⟨bodies, answers, fun key ordinary => ?_⟩
      intro found
      rw [metadata key ordinary]
      apply Message.Body.overwritten_eq_updated_iff
      intro notNew body member
      have answer : (.ok body : Except Fault Body) ∈ (fragments separator message).map _ :=
        answers ▸ List.mem_map_of_mem member
      obtain ⟨fragment, isOne, answered⟩ := List.mem_map.mp answer
      apply keeps _ _ answered key ordinary
      rw [← get?_of_mem_fragments isOne ordinary] at notNew
      exact notNew

/-- Services that label some messages. -/
def labelling : Behaviour Unit Unit where
  hooks := .idle Unit Unit
  uniqueId _ := "labelling"
  process _ message world :=
    .done ((), if message.payload = "new" then message.add "label" "new" else message) world
  isValid _ := true

/-- The label that the first fragment is given is lost to the second, and the other way round
not. -/
theorem label_lost :
    let lived := (Managed.new "split" (.new "split" ⟨"labelling", fun world => (.ok (), world)⟩ 1
      "," 0)).live (hooks labelling) (serve labelling) [.obey (.request .start)] ()
    let done (payload : String) := lived.1.component.process labelling
      (.plain payload (Dictionary.empty.insert "label" "old")) ()
    lived.1.state = .started ∧
      (done "new,other").verdict = .ok () ∧ (done "other,new").verdict = .ok () ∧
      (done "new,other").value.2.metadata.get? "label" = some "old" ∧
      (done "other,new").value.2.metadata.get? "label" = some "new" := by
  decide

end SplitJoin

/-! ## What definitions write -/

/-- What a task writes into metadata. -/
def Task.additions : Task → Dictionary
  | addMetadata metadata => metadata
  | _ => .empty

namespace Definition

mutual

/-- What a service of a definition writes into metadata. -/
def additions : Definition → Dictionary
  | simple _ task => task.additions
  | list _ services => additionsAll services
  | splitJoin _ _ _ _ service => additionsOf service

/-- What services write into metadata one after the other. -/
def additionsAll : List Definition → Dictionary
  | [] => .empty
  | d :: rest => d.additions.update (additionsAll rest).entries

/-- What a nested service writes into metadata, if there is one. -/
def additionsOf : Option Definition → Dictionary
  | none => .empty
  | some d => d.additions

end

end Definition

/-- A body was given additions, as far as ordinary keys are concerned. -/
def Given (additions : Dictionary) (body left : Body) : Prop :=
  ∀ key, Message.Body.Ordinary key →
    left.metadata.get? key = (additions.get? key).or (body.metadata.get? key)

theorem Given.refl (body : Body) : Given .empty body body :=
  fun _ _ => rfl

theorem Given.trans {additions more : Dictionary} {body between left : Body}
    (first : Given additions body between) (second : Given more between left) :
    Given (additions.update more.entries) body left := by
  intro key ordinary
  rw [second key ordinary, first key ordinary, Dictionary.get?_update _ more.ascending]
  exact (Option.or_assoc).symm

/-- Of bodies that were all given the same, no update is lost, and what they were given is left. -/
theorem Given.merged {additions : Dictionary} {body : Body} {bodies : List Body}
    (exists_body : bodies ≠ []) (all : ∀ left ∈ bodies, Given additions body left) {key : String}
    (ordinary : Message.Body.Ordinary key) :
    let found := body.metadata.get? key
    Message.Body.overwritten key found bodies = Message.Body.updated key found bodies ∧
      Message.Body.overwritten key found bodies = (additions.get? key).or found := by
  intro found
  refine Message.Body.overwritten_of_same exists_body (fun left member => ?_) ?_
  · exact all left member key ordinary
  · intro notNew
    rw [ne_eq, Option.or_eq_none_iff]
    exact fun both => notNew both.2

theorem Task.effect_given (uniqueId : String) (task : Task) (body : Body)
    (succeeds : (task.effect uniqueId body).verdict = .ok ()) :
    Given task.additions body (task.effect uniqueId body).body := by
  cases task with
  | addMetadata metadata =>
      intro key _
      exact Dictionary.get?_update _ metadata.ascending key
  | replaceText search replacement =>
      by_cases empty : search.isEmpty = true
      · simp only [effect, if_pos empty] at succeeds
        cases succeeds
      · simp only [effect, if_neg empty]
        exact fun _ _ => rfl
  | _ => exact .refl body

theorem Effect.answer_eq_ok_iff {effect : Effect} {left : Body} :
    effect.answer = .ok left ↔ effect.verdict = .ok () ∧ effect.body = left := by
  rcases effect with ⟨reason | _, body⟩
  · exact ⟨nofun, nofun⟩
  · simp [answer, Except.map]

/-- Where parts are all given the same additions the whole is given them, and nothing that a part
has updated is lost. -/
theorem fanOut_given {nested : Body → Effect} {additions : Dictionary}
    (given : ∀ part, (nested part).verdict = .ok () → Given additions part (nested part).body)
    {separator link : String} {body : Body}
    (succeeds : (fanOut nested separator link body).verdict = .ok ()) :
    Given additions body (fanOut nested separator link body).body ∧
      ∃ bodies, (Text.parts separator body.payload).mapM
          (fun part => (nested (body.fragment link part)).answer) = .ok bodies ∧
        ∀ key, Message.Body.Ordinary key →
          (fanOut nested separator link body).body.metadata.get? key =
            Message.Body.updated key (body.metadata.get? key) bodies := by
  cases answered : (Text.parts separator body.payload).mapM
      fun part => (nested (body.fragment link part)).answer with
  | error reason =>
      rw [fanOut, answered] at succeeds
      cases succeeds
  | ok bodies =>
      have each := Lists.mapM_eq_ok_iff.mp answered
      have exists_body : bodies ≠ [] := by
        rintro rfl
        exact Text.parts_ne_nil _ _ (List.forall₂_nil_right_iff.mp each)
      have all : ∀ left ∈ bodies, Given additions body left := by
        intro left member key ordinary
        obtain ⟨part, _, answer⟩ := Lists.exists_of_forall₂ each member
        obtain ⟨succeeded, rfl⟩ := Effect.answer_eq_ok_iff.mp answer
        rw [given _ succeeded key ordinary, Body.fragment, Dictionary.get?_insert, if_neg ordinary]
      rw [fanOut, answered]
      refine ⟨?_, bodies, rfl, ?_⟩
      · intro key ordinary
        exact (Body.get?_join _ _ _ ordinary).trans (Given.merged exists_body all ordinary).2
      · intro key ordinary
        exact (Body.get?_join _ _ _ ordinary).trans (Given.merged exists_body all ordinary).1

namespace Definition

variable {link : String}

mutual

/-- Whatever a service of a definition makes of a body, it writes the same into its metadata. -/
theorem meaning_given : ∀ (d : Definition) (body : Body),
    (d.meaning link body).verdict = .ok () → Given d.additions body (d.meaning link body).body
  | simple _ task, body, succeeds => task.effect_given _ body succeeds
  | list _ services, body, succeeds => meaningAll_given services body succeeds
  | splitJoin _ _ _ _ service, _, succeeds => (fanOut_given (meaningOf_given service) succeeds).1

theorem meaningAll_given : ∀ (services : List Definition) (body : Body),
    (meaningAll link services body).verdict = .ok () →
      Given (additionsAll services) body (meaningAll link services body).body
  | [], body, _ => .refl body
  | d :: rest, body, succeeds => by
      rw [meaningAll] at succeeds ⊢
      cases first : (d.meaning link body).verdict with
      | ok _ =>
          rw [first] at succeeds
          exact (meaning_given d body first).trans (meaningAll_given rest _ succeeds)
      | error reason =>
          simp only [first] at succeeds
          cases succeeds

theorem meaningOf_given : ∀ (service : Option Definition) (body : Body),
    (meaningOf link service body).verdict = .ok () →
      Given (additionsOf service) body (meaningOf link service body).body
  | none, body, _ => .refl body
  | some d, body, succeeds => meaning_given d body succeeds

end

/-- A split-join over a service of a definition loses no update of a part. -/
theorem splitJoin_updated (id : Option String) (poolSize : Nat) (separator : Option String)
    (timeout : Option Nat) (service : Option Definition) (body : Body)
    (succeeds : ((splitJoin id poolSize separator timeout service).meaning link body).verdict =
      .ok ()) :
    ∃ bodies, (Text.parts (separator.getD defaultSeparator) body.payload).mapM
        (fun part => (meaningOf link service (body.fragment link part)).answer) = .ok bodies ∧
      ∀ key, Message.Body.Ordinary key →
        ((splitJoin id poolSize separator timeout service).meaning link body).body.metadata.get?
            key =
          Message.Body.updated key (body.metadata.get? key) bodies :=
  (fanOut_given (meaningOf_given service) succeeds).2

end Definition

end Service

end IntegrationHost
