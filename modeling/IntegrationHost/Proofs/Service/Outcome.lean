import IntegrationHost.Proofs.Service.Reliability
import IntegrationHost.Proofs.Text.Dictionary

/-!
# What a split-join makes of a message

Where the answer to a fragment depends on nothing but what is written in it, what comes of a message
depends on nothing but the answers. The first fragment without one fails the message and leaves it
as it was. Otherwise the payloads are joined in the order of the fragments, and the metadata of each
fragment overwrite those before, but for the link to the message. The order in which the steps were
taken makes no difference.
-/

namespace IntegrationHost

namespace Message

/-- What services read and write of a message. -/
structure Body where
  payload : String
  metadata : Dictionary

/-- What is written in a message. -/
def body (m : Message) : Body :=
  ⟨m.payload, m.metadata⟩

/-- The value under a key when bodies overwrite it one after the other. -/
def Body.overwritten (key : String) (found : Option String) (bodies : List Body) : Option String :=
  bodies.foldl (fun found body => (body.metadata.get? key).or found) found

end Message

namespace Service

open Lifecycle

variable {ω C : Type}

/-- How a fault of a fragment is reported for the message. -/
def Fault.report (executor : Pool.Executor Unit) : Fault → Error
  | .error reason => reason
  | .breakdown => .pool executor.abortion

namespace SplitJoin

/-! ## Collecting and joining -/

/-- Either all fragments have answers, which are collected, or one of them is the first without. -/
theorem collect_cases {Answer : Message → Except Fault Message → Prop} {fragments : List Message}
    {results : List (Except Fault Message)} (executor : Pool.Executor Unit)
    (answers : List.Forall₂ Answer fragments results) :
    (∃ processed, collect (results.map (reported executor)) = .ok processed ∧
        List.Forall₂ (fun fragment m => Answer fragment (.ok m)) fragments processed) ∨
      ∃ before fragment after fault, fragments = before ++ fragment :: after ∧
        (∀ other ∈ before, ∃ m, Answer other (.ok m)) ∧ Answer fragment (.error fault) ∧
        collect (results.map (reported executor)) = .error (fault.report executor) := by
  induction answers with
  | nil => exact Or.inl ⟨[], rfl, .nil⟩
  | @cons fragment result fragments results answer _ ih =>
      cases result with
      | error fault =>
          refine Or.inr ⟨[], fragment, fragments, fault, rfl, List.forall_mem_nil _, answer, ?_⟩
          cases fault <;> rfl
      | ok m =>
          rcases ih with
            ⟨processed, collected, all⟩ |
            ⟨before, failing, after, fault, rfl, earlier, first, collected⟩
          · refine Or.inl ⟨m :: processed, ?_, .cons answer all⟩
            simp only [List.map_cons, reported, collect, collected, Except.map]
          · refine Or.inr ⟨fragment :: before, failing, after, fault, rfl, ?_, first, ?_⟩
            · exact List.forall_mem_cons.mpr ⟨⟨m, answer⟩, earlier⟩
            · simp only [List.map_cons, reported, collect, collected, Except.map]

/-- Under each key but that of the link stands what the fragments have overwritten it with. -/
theorem get?_join (separator key : String) (message : Message) (processed : List Message) :
    (join separator message processed).metadata.get? key =
      if key = Message.parentKey then message.metadata.get? key
      else
        Message.Body.overwritten key (message.metadata.get? key) (processed.map Message.body) := by
  simp only [join]
  generalize message.metadata = metadata
  induction processed generalizing metadata with
  | nil => exact (ite_self _).symm
  | cons first rest ih =>
      rw [List.foldl_cons, ih, Dictionary.get?_update_without]
      by_cases link : key = Message.parentKey
      · rw [if_pos link, if_pos link, if_pos link]
      · rw [if_neg link, if_neg link, if_neg link]
        rfl

/-! ## Outcomes -/

/-- What comes of a message whose fragments are answered by their bodies. -/
inductive Outcome (answer : Message.Body → Except Fault Message.Body)
    (executor : Pool.Executor Unit) (separator : String) (message : Message) :
    Except Fault Unit → Message → Prop where
  /-- The first fragment that fails fails the message, which stays as it was. -/
  | failed (before : List Message) (fragment : Message) (after : List Message) (fault : Fault)
      (cut : fragments separator message = before ++ fragment :: after)
      (earlier : ∀ other ∈ before, ∃ body, answer other.body = .ok body)
      (first : answer fragment.body = .error fault) :
      Outcome answer executor separator message (.error (.error (fault.report executor))) message
  /-- Payloads are joined and metadata overwritten in the order of the fragments. -/
  | joined (bodies : List Message.Body) (joined : Message)
      (answers : (fragments separator message).map (fun f => answer f.body) =
        bodies.map .ok)
      (uniqueId : joined.uniqueId = message.uniqueId)
      (createdAt : joined.createdAt = message.createdAt)
      (payload : joined.payload = separator.intercalate (bodies.map Message.Body.payload))
      (link : joined.metadata.get? Message.parentKey = message.metadata.get? Message.parentKey)
      (metadata : ∀ key, key ≠ Message.parentKey → joined.metadata.get? key =
        Message.Body.overwritten key (message.metadata.get? key) bodies) :
      Outcome answer executor separator message (.ok ()) joined

/-- The result of a fragment is the answer to what is written in it. -/
def AnswersWith (answer : Message.Body → Except Fault Message.Body) (fragment : Message)
    (result : Except Fault Message) : Prop :=
  result.map Message.body = answer fragment.body

variable {answer : Message.Body → Except Fault Message.Body} {executor : Pool.Executor Unit}
  {separator : String} {message : Message}

/-- What is made of the results of the fragments is the outcome of the message. -/
theorem deliver_outcome (s : SplitJoin ω C) {results : List (Except Fault Message)} (world : ω)
    (answers : List.Forall₂ (AnswersWith answer) (fragments s.separator message) results) :
    Outcome answer executor s.separator message
      (s.deliver executor message results world).verdict
      (s.deliver executor message results world).value.2 := by
  rcases collect_cases executor answers with
    ⟨processed, collected, all⟩ | ⟨before, fragment, after, fault, cut, earlier, first, collected⟩
  · simp only [deliver, collected]
    refine .joined (processed.map Message.body) _ ?_ rfl rfl ?_ ?_ ?_
    · rw [List.map_map, ← List.forall₂_eq_eq_eq, List.forall₂_map_left_iff,
        List.forall₂_map_right_iff]
      exact all.imp fun fragment m answered => answered.symm
    · simp only [Attempt.done, join, List.map_map]
      rfl
    · exact (get?_join _ _ _ _).trans (if_pos rfl)
    · intro key notLink
      exact (get?_join _ _ _ _).trans (if_neg notLink)
  · simp only [deliver, collected]
    refine .failed before fragment after fault cut ?_ first.symm
    intro other member
    obtain ⟨m, answered⟩ := earlier other member
    exact ⟨m.body, answered.symm⟩

/-- The first failure among results is one. -/
theorem first_error_unique {ε α : Type} {before other after rest : List (Except ε α)} {e f : ε}
    (earlier : ∀ r ∈ before, ∃ a, r = .ok a) (otherEarlier : ∀ r ∈ other, ∃ a, r = .ok a)
    (same : before ++ .error e :: after = other ++ .error f :: rest) : e = f := by
  induction before generalizing other with
  | nil =>
      cases other with
      | nil =>
          cases same
          rfl
      | cons head tail =>
          obtain ⟨a, rfl⟩ := otherEarlier head List.mem_cons_self
          cases same
  | cons first others ih =>
      cases other with
      | nil =>
          obtain ⟨a, rfl⟩ := earlier first List.mem_cons_self
          cases same
      | cons head tail =>
          apply ih (List.forall_mem_cons.mp earlier).2 (List.forall_mem_cons.mp otherEarlier).2
          exact (List.cons.inj same).2

/-- A fragment without an answer keeps the answers from being all there. -/
theorem not_all_answered {before after : List Message} {fragment : Message} {fault : Fault}
    {bodies : List Message.Body} (cut : fragments separator message = before ++ fragment :: after)
    (first : answer fragment.body = .error fault)
    (answers : (fragments separator message).map (fun f => answer f.body) =
      bodies.map .ok) : False := by
  have member : (.error fault : Except Fault Message.Body) ∈ bodies.map .ok := by
    rw [← answers, cut, ← first]
    exact List.mem_map_of_mem (by simp)
  obtain ⟨body, _, impossible⟩ := List.mem_map.mp member
  cases impossible

/-- A message has only one outcome. -/
theorem Outcome.unique {verdict otherVerdict : Except Fault Unit} {left other : Message}
    (outcome : Outcome answer executor separator message verdict left)
    (otherOutcome : Outcome answer executor separator message otherVerdict other) :
    otherVerdict = verdict ∧ other = left := by
  cases outcome with
  | failed before fragment after fault cut earlier first =>
      cases otherOutcome with
      | failed otherBefore otherFragment otherAfter otherFault otherCut otherEarlier otherFirst =>
          have same :=
            congrArg (List.map fun f : Message => answer f.body) (cut.symm.trans otherCut)
          simp only [List.map_append, List.map_cons, first, otherFirst] at same
          rw [first_error_unique (List.forall_mem_map.mpr earlier)
            (List.forall_mem_map.mpr otherEarlier) same]
          exact ⟨rfl, rfl⟩
      | joined bodies _ answers => exact (not_all_answered cut first answers).elim
  | joined bodies _ answers uniqueId createdAt payload link metadata =>
      cases otherOutcome with
      | failed before fragment after fault cut _ first =>
          exact (not_all_answered cut first answers).elim
      | joined otherBodies _ otherAnswers otherId otherCreatedAt otherPayload otherLink
          otherMetadata =>
          have bodies_eq : otherBodies = bodies :=
            List.map_injective_iff.mpr (fun _ _ => Except.ok.inj)
              (otherAnswers.symm.trans answers)
          subst bodies_eq
          refine ⟨rfl, ?_⟩
          rcases left with ⟨leftId, leftPayload, leftMetadata, leftCreatedAt⟩
          rcases other with ⟨id, otherText, otherEntries, created⟩
          have metadata_eq : otherEntries = leftMetadata := by
            apply Dictionary.ext_get?
            intro key
            by_cases isLink : key = Message.parentKey
            · rw [isLink]
              exact otherLink.trans link.symm
            · exact (otherMetadata key isLink).trans (metadata key isLink).symm
          have id_eq : id = leftId := otherId.trans uniqueId.symm
          have created_eq : created = leftCreatedAt := otherCreatedAt.trans createdAt.symm
          have payload_eq : otherText = leftPayload := otherPayload.trans payload.symm
          rw [id_eq, payload_eq, metadata_eq, created_eq]

/-! ## Whatever the order -/

/-- A split-join whose workers can be relied on, at any time of its life while it is not closed:
whatever order the steps of the fragments of a message are taken in, never more fragments have
workers than there are, a fragment that is taken up while a thread is free gets a worker at once, in
the end each fragment was handed to a worker once, and what comes of the message is its outcome,
which is also what comes of it when its fragments are processed one after the other. -/
theorem live_outcome {b : Behaviour ω C} {prototype : Prototype ω C} {Fit : State → C → Prop}
    (reliable : Reliable b prototype Fit (AnswersWith answer)) (name uniqueId separator : String)
    {poolSize : Nat} (positive : 0 < poolSize) (shutdownTimeoutMs : Nat)
    (deeds : List (Deed (List Nat × Message))) (world : ω) :
    let lived := (Managed.new name
      (.new uniqueId prototype poolSize separator shutdownTimeoutMs)).live (hooks b) (serve b) deeds
        world
    lived.1.state ≠ .closed →
      ∃ pool executor, lived.1.component.pool = some pool ∧
        lived.1.component.executor = some executor ∧ executor.threads = poolSize ∧
        ∀ order message,
          let begun := Fanout.start (fragments separator message) pool lived.2
          let under := begun.run b (workerFactory b prototype) poolSize order
          let done := lived.1.component.processIn b order message lived.2
          let alone := lived.1.component.process b message lived.2
          under.running ≤ poolSize ∧
            (under.running < poolSize →
              ∃ worker, (under.pool.borrow (workerFactory b prototype) under.world).1 =
                .lent worker) ∧
            (begun.complete b (workerFactory b prototype) poolSize order).handled.Perm
              (fragments separator message) ∧
            Outcome answer executor separator message done.verdict done.value.2 ∧
            done.verdict = alone.verdict ∧ done.value.2 = alone.value.2 := by
  intro lived notClosed
  have obeys : (hooks b).Obeys State.accepts (Staffed (Worker.Resting Fit)
      (.new uniqueId prototype poolSize separator shutdownTimeoutMs)) :=
    hooks_obey reliable positive
  have staffed : Staffed (Worker.Resting Fit)
      (.new uniqueId prototype poolSize separator shutdownTimeoutMs) lived.1.state
      lived.1.component := by
    apply Managed.FitsIn.live obeys.keeps.maintains
    · intro matter state s world staffed
      exact processIn_staffed reliable staffed matter.1 matter.2 world
    · exact ⟨fun _ => .new trivial, fun notClosed => absurd rfl notClosed⟩
  obtain ⟨pool, executor, manned⟩ := staffed.manned notClosed lived.2
  have settings := (staffed.housed lived.2).settings
  have poolSize_eq : lived.1.component.poolSize = poolSize := (eq_of_bare settings).2.1
  have separator_eq : lived.1.component.separator = separator := (eq_of_bare settings).2.2.1
  have threads_eq : executor.threads = poolSize := manned.threads_eq.trans poolSize_eq
  have outcome : ∀ order message,
      Outcome answer executor separator message
        (lived.1.component.processIn b order message lived.2).verdict
        (lived.1.component.processIn b order message lived.2).value.2 := by
    intro order message
    obtain ⟨left, results, nowWorld, delivered, answers⟩ :=
      processIn_answers reliable staffed manned order message
    rw [delivered, ← separator_eq]
    exact deliver_outcome { lived.1.component with pool := some left } nowWorld answers
  refine ⟨pool, executor, manned.pool_eq, manned.executor_eq, threads_eq, ?_⟩
  intro order message begun under done alone
  have tended := manned.tended
  rw [poolSize_eq] at tended
  have onCourse : begun.OnCourse Fit (AnswersWith answer) (.fixed poolSize)
      (fragments separator message) := .ofStart tended _
  have underWay : under.OnCourse Fit (AnswersWith answer) (.fixed poolSize)
      (fragments separator message) := onCourse.run reliable (Nat.le_refl _) order
  have alone_eq : alone = lived.1.component.processIn b [] message lived.2 :=
    (processIn_nil b _ message _ (staffed.housed lived.2).stocked.threads_pos).symm
  obtain ⟨verdict_eq, left_eq⟩ := (outcome [] message).unique (outcome order message)
  refine ⟨underWay.running_le, underWay.borrow_lent reliable,
    (onCourse.complete reliable (Nat.le_refl _) positive order).2, outcome order message, ?_, ?_⟩
  · rw [alone_eq]
    exact verdict_eq
  · rw [alone_eq]
    exact left_eq

/-- Services that raise their voice, have nothing to answer to silence, and are lent only once. They
count what they were asked. -/
def exclaiming : Behaviour Nat Unit where
  hooks := .idle Nat Unit
  uniqueId _ := "exclaiming"
  process _ message asked :=
    if message.payload.isEmpty then
      .refused (.error (.failed "exclaiming" "silence")) ((), message) (asked + 1)
    else .done ((), { message with payload := message.payload ++ "!" }) (asked + 1)
  isValid _ := false

/-- What they answer. -/
def exclaim (body : Message.Body) : Except Fault Message.Body :=
  if body.payload.isEmpty then .error (.error (.failed "exclaiming" "silence"))
  else .ok { body with payload := body.payload ++ "!" }

theorem exclaiming_reliable :
    Reliable exclaiming ⟨"exclaiming", fun asked => (.ok (), asked)⟩ (fun _ _ => True)
      (AnswersWith exclaim) where
  create asked := ⟨(), asked, rfl, trivial⟩
  hooks _ _ _ _ _ _ := ⟨rfl, trivial⟩
  process := by
    intro _ message asked _
    refine ⟨trivial, ?_⟩
    unfold AnswersWith exclaim exclaiming
    by_cases silent : message.payload.isEmpty = true
    · simp only [Message.body, silent, if_true]
      rfl
    · simp only [Message.body, silent, if_false, Bool.false_eq_true]
      rfl

/-- Two voices on two threads in some order, with one worker after the other replaced. -/
theorem live_outcome_exclaiming :
    let lived := (Managed.new "split" (.new "split" ⟨"exclaiming", fun asked => (.ok (), asked)⟩ 2
      "," 0)).live (hooks exclaiming) (serve exclaiming) [.obey (.request .start)] 0
    let done := lived.1.component.processIn exclaiming [1, 0, 0, 1, 0, 1] (.plain "a,b" .empty)
      lived.2
    lived.1.state = .started ∧ done.verdict = .ok () ∧ done.value.2.payload = "a!,b!" ∧
      ∃ executor, Outcome exclaim executor "," (.plain "a,b" .empty) done.verdict done.value.2 := by
  refine ⟨by decide, by decide, by decide, ?_⟩
  have positive : 0 < 2 := by decide
  obtain ⟨_, executor, _, _, _, all⟩ := live_outcome exclaiming_reliable "split" "split" ","
    positive 0 [.obey (.request .start)] 0 (by decide)
  exact ⟨executor, (all [1, 0, 0, 1, 0, 1] (.plain "a,b" .empty)).2.2.2.1⟩

end SplitJoin

end Service

end IntegrationHost
