import IntegrationHost.Proofs.Lists
import IntegrationHost.Proofs.Service.Meaning
import IntegrationHost.Service.Simple

/-!
# Messages that are processed as is meant

What becomes of a message is compared with what a meaning makes of its body. A task does what it
means, and a split-join whose fragments are answered as a nested meaning says delivers what is meant
by splitting and joining. The link in a fragment names a message, which no meaning knows, and so
fragments are compared without it.
-/

namespace IntegrationHost.Service

open Message (Body)

variable {ω C : Type}

/-! ## Messages and effects -/

/-- What became of a message is what an effect says of a body, as far as keys are seen. -/
structure Processed.Yields (seen : String → Prop) (message : Message) (done : Processed ω C)
    (effect : Effect) : Prop where
  verdict : done.verdict = effect.verdict.mapError Fault.error
  uniqueId : done.value.2.uniqueId = message.uniqueId
  createdAt : done.value.2.createdAt = message.createdAt
  body : done.value.2.body.Agrees seen effect.body

/-- Messages are processed as a meaning says, whichever link it is given and whether or not the link
in the message is seen. -/
def Realises (process : Message → ω → Processed ω C) (meaning : String → Body → Effect) : Prop :=
  ∀ seen link message body world, (∀ key, Message.Body.Ordinary key → seen key) →
    message.body.Agrees seen body →
      (process message world).Yields seen message (meaning link body)

/-- What a service is known by has no influence on what it yields. -/
theorem Processed.Yields.map {D : Type} {seen : String → Prop} {message : Message}
    {done : Processed ω C} {effect : Effect} (yields : done.Yields seen message effect)
    (f : C → D) :
    Processed.Yields (C := D) seen message (done.map fun left => (f left.1, left.2)) effect :=
  ⟨yields.verdict, yields.uniqueId, yields.createdAt, yields.body⟩

/-! ## Tasks -/

/-- A simple service is not changed by what it does. -/
theorem Simple.process_value [Journal ω] (s : Simple) (message : Message) (world : ω) :
    (s.process message world).value.1 = s := by
  unfold Simple.process
  cases s.apply message <;> rfl

/-- Simple services do what their tasks mean. -/
theorem Simple.process_realises [Journal ω] (s : Simple) :
    Realises (s.process (ω := ω)) fun _ => s.task.effect s.uniqueId := by
  intro seen link message body world _ agrees
  rcases s with ⟨uniqueId, task⟩
  cases task with
  | nothing => exact ⟨rfl, rfl, rfl, agrees⟩
  | logMessage lead => exact ⟨rfl, rfl, rfl, agrees⟩
  | addMetadata metadata => exact ⟨rfl, rfl, rfl, agrees.update metadata⟩
  | alwaysFail reason => exact ⟨rfl, rfl, rfl, agrees⟩
  | replaceText search replacement =>
      cases empty : search.isEmpty with
      | true =>
          simp only [Simple.process, Simple.apply, Task.effect, empty, if_true]
          exact ⟨rfl, rfl, rfl, agrees⟩
      | false =>
          simp only [Simple.process, Simple.apply, Task.effect, empty, Bool.false_eq_true, if_false,
            Text.replace_eq empty]
          have payload_eq : message.payload = body.payload := agrees.payload
          rw [payload_eq]
          exact ⟨rfl, rfl, rfl, agrees.withPayload _⟩

/-! ## Split-joins -/

/-- The result of a fragment is the answer of an effect, but for the link. -/
inductive Answered : Except Fault Message → Except Error Body → Prop where
  | body {m : Message} {body : Body} (agrees : m.body.Agrees Message.Body.Ordinary body) :
      Answered (.ok m) (.ok body)
  | failed (reason : Error) : Answered (.error (.error reason)) (.error reason)

/-- A fragment is answered by what a meaning makes of any body that it agrees with. -/
def AnswersTo (meaning : String → Body → Effect) (fragment : Message)
    (result : Except Fault Message) : Prop :=
  ∀ link body, fragment.body.Agrees Message.Body.Ordinary body →
    Answered result (meaning link body).answer

theorem Realises.answersTo {process : Message → ω → Processed ω C}
    {meaning : String → Body → Effect} (realises : Realises process meaning) (fragment : Message)
    (world : ω) :
    AnswersTo meaning fragment
      ((process fragment world).verdict.map fun _ => (process fragment world).value.2) := by
  intro link body agrees
  obtain ⟨verdict, _, _, agree⟩ :=
    realises Message.Body.Ordinary link fragment body world (fun _ ordinary => ordinary) agrees
  rw [verdict]
  generalize meaning link body = effect at agree ⊢
  rcases effect with ⟨reason | _, left⟩
  · exact .failed reason
  · exact .body agree

namespace SplitJoin

/-- Results are collected as the answers are: all bodies, or the first failure. -/
theorem collect_answered {answer : String → Except Error Body} {parts : List String}
    {results : List (Except Fault Message)} (executor : Pool.Executor Unit)
    (answered : List.Forall₂ (fun part result => Answered result (answer part)) parts results) :
    (∃ processed bodies, collect (results.map (reported executor)) = .ok processed ∧
        parts.mapM answer = .ok bodies ∧
        List.Forall₂ (fun m body => m.body.Agrees Message.Body.Ordinary body) processed bodies) ∨
      ∃ reason, collect (results.map (reported executor)) = .error reason ∧
        parts.mapM answer = .error reason := by
  induction answered with
  | nil => exact Or.inl ⟨[], [], rfl, rfl, .nil⟩
  | @cons part result parts results first _ ih =>
      rw [List.mapM_cons]
      generalize answer part = expected at first ⊢
      cases first with
      | failed reason => exact Or.inr ⟨reason, rfl, rfl⟩
      | @body m body agrees =>
          rcases ih with ⟨processed, bodies, collected, meant, agree⟩ | ⟨reason, collected, meant⟩
          · refine Or.inl ⟨m :: processed, body :: bodies, ?_, ?_, .cons agrees agree⟩
            · simp only [List.map_cons, reported, collect, collected, Except.map]
            · rw [meant]
              rfl
          · refine Or.inr ⟨reason, ?_, ?_⟩
            · simp only [List.map_cons, reported, collect, collected, Except.map]
            · rw [meant]
              rfl

/-- Joining messages joins what is written in them. -/
theorem body_join (separator : String) (message : Message) (processed : List Message) :
    (join separator message processed).body =
      message.body.join separator (processed.map Message.body) := by
  simp only [join, Message.body, Message.Body.join, List.map_map, List.foldl_map]
  rfl

/-- What is made of the answers to the fragments is what a split-join means. -/
theorem deliver_yields (s : SplitJoin ω C) {executor : Pool.Executor Unit} {message : Message}
    {meaning : String → Body → Effect} {results : List (Except Fault Message)} (world : ω)
    (answers : List.Forall₂ (AnswersTo meaning) (fragments s.separator message) results)
    {seen : String → Prop} (ordinary : ∀ key, Message.Body.Ordinary key → seen key) (link : String)
    {body : Body} (agrees : message.body.Agrees seen body) :
    (s.deliver executor message results world).Yields seen message
      (fanOut (meaning link) s.separator link body) := by
  have payload_eq : message.payload = body.payload := agrees.payload
  have answered : List.Forall₂
      (fun part result => Answered result (meaning link (body.fragment link part)).answer)
      (Text.parts s.separator body.payload) results := by
    rw [← Text.split_eq, ← payload_eq]
    refine Lists.forall₂_mapIdx_left ?_ answers
    intro index part result isAnswer
    exact isAnswer link _ (agrees.fragment ordinary index link part)
  unfold fanOut
  rcases collect_answered executor answered with
    ⟨processed, bodies, collected, meant, agree⟩ | ⟨reason, collected, meant⟩
  · simp only [deliver, collected, meant]
    refine ⟨rfl, rfl, rfl, ?_⟩
    rw [Attempt.done, body_join]
    exact agrees.join s.separator (List.forall₂_map_left_iff.mpr agree)
  · simp only [deliver, collected, meant]
    exact ⟨rfl, rfl, rfl, agrees⟩

end SplitJoin

end IntegrationHost.Service
