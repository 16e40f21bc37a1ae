import IntegrationHost.Proofs.Adapter.Validation
import IntegrationHost.Proofs.Service.Meaning

/-!
# How definitions that break no rule fail

A service whose definition breaks no rule, at any depth, can be started, and there is one reason for
which it fails: a service that always fails stands in it. Where one stands it is reached, for a text
that is split has always a part.
-/

namespace IntegrationHost

open Service
open Message (Body)

namespace Element

/-- Neither the element nor anything in it breaks a rule. -/
def Sound (e : Element) : Prop :=
  ∀ position part, e.Holds position part → ∀ fault, ¬ part.Breaks fault

/-- A service that always fails stands in the element, and fails like this. -/
def FailsWith (e : Element) (error : Service.Error) : Prop :=
  ∃ position id reason, e.Holds position (service (.simple id (.alwaysFail reason))) ∧
    error = .failed (Definition.simple id (.alwaysFail reason)).resolvedId reason

theorem Sound.part {e : Element} {p : Step × Element} (sound : e.Sound) (member : p ∈ e.parts) :
    p.2.Sound :=
  fun position part holds => sound (p.1 :: position) part (.part member holds)

theorem FailsWith.of_part {e : Element} {p : Step × Element} {error : Service.Error}
    (member : p ∈ e.parts) (fails : p.2.FailsWith error) : e.FailsWith error := by
  obtain ⟨position, id, reason, holds, error_eq⟩ := fails
  exact ⟨p.1 :: position, id, reason, .part member holds, error_eq⟩

/-- The services of a list are parts of it. -/
theorem mem_parts_list {id : Option String} {services : List Definition} {d : Definition}
    (member : d ∈ services) :
    ∃ index, (Step.service index, service d) ∈ (service (.list id services)).parts :=
  Lists.mem_mapIdx_of_mem member fun index d => (Step.service index, service d)

/-- The services of a workflow are parts of it. -/
theorem mem_parts_workflow {w : WorkflowDefinition} {d : Definition} (member : d ∈ w.services) :
    ∃ index, (Step.service index, service d) ∈ (workflow w).parts :=
  Lists.mem_mapIdx_of_mem member fun index d => (Step.service index, service d)

/-- The workflows of an adapter that breaks no rule break none. -/
theorem Sound.workflow_of_mem {d : AdapterDefinition} (sound : (adapter d).Sound)
    {c : ChannelDefinition} (isChannel : c ∈ d.channels) {w : WorkflowDefinition}
    (isWorkflow : w ∈ c.workflows) : (workflow w).Sound := by
  obtain ⟨_, channelPart⟩ :=
    Lists.mem_mapIdx_of_mem isChannel fun index c => (Step.channel index, channel c)
  obtain ⟨_, workflowPart⟩ :=
    Lists.mem_mapIdx_of_mem isWorkflow fun index w => (Step.workflow index, workflow w)
  exact (sound.part channelPart).part workflowPart

/-- The services of a workflow that breaks no rule break none. -/
theorem Sound.service_of_mem {w : WorkflowDefinition} (sound : (workflow w).Sound) :
    ∀ d ∈ w.services, (service d).Sound := by
  intro d member
  obtain ⟨_, isPart⟩ := mem_parts_workflow member
  exact sound.part isPart

end Element

namespace Service

/-! ## Parts that fail -/

theorem Effect.answer_error {effect : Effect} {error : Error} :
    effect.answer = .error error ↔ effect.verdict = .error error := by
  rcases effect with ⟨reason | _, body⟩
  · constructor
    · rintro ⟨⟩
      rfl
    · rintro ⟨⟩
      rfl
  · exact ⟨nofun, nofun⟩

/-- What fails in fanning out fails in a part. -/
theorem fanOut_error {nested : Body → Effect} {separator link : String} {body : Body}
    {error : Error} (failed : (fanOut nested separator link body).verdict = .error error) :
    ∃ part, (nested part).verdict = .error error := by
  unfold fanOut at failed
  split at failed
  case h_1 => cases failed
  case h_2 reason partFailed =>
      cases failed
      obtain ⟨part, _, answer⟩ := Lists.exists_of_mapM_error partFailed
      exact ⟨_, Effect.answer_error.mp answer⟩

/-- What fails on every body fails in fanning out. -/
theorem fanOut_fails {nested : Body → Effect}
    (fails : ∀ body, ∃ error, (nested body).verdict = .error error)
    (separator link : String) (body : Body) :
    ∃ error, (fanOut nested separator link body).verdict = .error error := by
  obtain ⟨part, others, parts_eq⟩ :=
    List.exists_cons_of_ne_nil (Text.parts_ne_nil separator body.payload)
  obtain ⟨error, failed⟩ := fails (body.fragment link part)
  unfold fanOut
  rw [parts_eq, List.mapM_cons, Effect.answer_error.mpr failed]
  exact ⟨error, rfl⟩

namespace Definition

/-! ## Definitions that break no rule -/

mutual

/-- What breaks no rule can be started. -/
theorem startable_of_sound : ∀ d : Definition, (Element.service d).Sound → d.Startable
  | simple _ _, _ => trivial
  | list _ services, sound =>
      allStartable_of_sound services fun d member =>
        have ⟨_, isPart⟩ := Element.mem_parts_list member
        sound.part isPart
  | splitJoin id poolSize separator timeout nested, sound => by
      constructor
      · by_contra none
        obtain rfl := Nat.eq_zero_of_not_pos none
        exact sound [] _ (.self _) _ .noWorkers
      · refine nestedStartable_of_sound nested fun d given => ?_
        subst given
        exact sound.part (p := (.nested, .service d)) List.mem_cons_self

theorem allStartable_of_sound : ∀ services : List Definition,
    (∀ d ∈ services, (Element.service d).Sound) → AllStartable services
  | [], _ => trivial
  | d :: rest, sound =>
      ⟨startable_of_sound d (sound d List.mem_cons_self),
        allStartable_of_sound rest fun d member => sound d (List.mem_cons_of_mem _ member)⟩

theorem nestedStartable_of_sound : ∀ nested : Option Definition,
    (∀ d ∈ nested, (Element.service d).Sound) → NestedStartable nested
  | none, _ => trivial
  | some d, sound => startable_of_sound d (sound d rfl)

end

section

variable {link : String}

mutual

/-- What breaks no rule fails as a service in it that always fails. -/
theorem failsWith_of_meaning : ∀ (d : Definition) {body : Body} {error : Error},
    (Element.service d).Sound → (d.meaning link body).verdict = .error error →
      (Element.service d).FailsWith error
  | simple id task, body, error, sound, failed => by
      cases task with
      | alwaysFail reason =>
          cases failed
          exact ⟨[], id, reason, .self _, rfl⟩
      | replaceText search replacement =>
          by_cases empty : search.isEmpty = true
          · obtain rfl := String.isEmpty_iff.mp empty
            exact absurd .emptySearch (sound [] _ (.self _) _)
          · simp only [meaning, Task.effect, if_neg empty] at failed
            cases failed
      | _ => cases failed
  | list id services, body, error, sound, failed => by
      obtain ⟨d, member, fails⟩ := failsWith_of_meaningAll services (fun d member =>
        have ⟨_, isPart⟩ := Element.mem_parts_list member
        sound.part isPart) failed
      obtain ⟨index, isPart⟩ := Element.mem_parts_list member
      exact .of_part isPart fails
  | splitJoin id poolSize separator timeout nested, body, error, sound, failed => by
      obtain ⟨part, partFailed⟩ := fanOut_error failed
      have isPart : ∀ d ∈ nested, (Element.Step.nested, Element.service d) ∈
          (Element.service (splitJoin id poolSize separator timeout nested)).parts := by
        rintro d rfl
        exact List.mem_cons_self
      obtain ⟨d, given, fails⟩ := failsWith_of_meaningOf nested
        (fun d given => sound.part (isPart d given)) partFailed
      exact .of_part (isPart d given) fails

theorem failsWith_of_meaningAll : ∀ (services : List Definition) {body : Body} {error : Error},
    (∀ d ∈ services, (Element.service d).Sound) →
      (meaningAll link services body).verdict = .error error →
        ∃ d ∈ services, (Element.service d).FailsWith error
  | [], _, _, _, failed => nomatch failed
  | d :: rest, body, error, sound, failed => by
      obtain ⟨dSound, restSound⟩ := List.forall_mem_cons.mp sound
      rw [meaningAll] at failed
      split at failed
      case h_1 ok =>
          obtain ⟨s, member, fails⟩ := failsWith_of_meaningAll rest restSound failed
          exact ⟨s, List.mem_cons_of_mem d member, fails⟩
      case h_2 reason dFailed =>
          exact ⟨d, List.mem_cons_self, failsWith_of_meaning d dSound failed⟩

theorem failsWith_of_meaningOf : ∀ (nested : Option Definition) {body : Body} {error : Error},
    (∀ d ∈ nested, (Element.service d).Sound) →
      (meaningOf link nested body).verdict = .error error →
        ∃ d ∈ nested, (Element.service d).FailsWith error
  | none, _, _, _, failed => nomatch failed
  | some d, _, _, sound, failed => ⟨d, rfl, failsWith_of_meaning d (sound d rfl) failed⟩

end

mutual

/-- What has a service in it that always fails fails on every body. -/
theorem meaning_fails : ∀ (d : Definition) {error : Error}, (Element.service d).FailsWith error →
    ∀ body, ∃ reason, (d.meaning link body).verdict = .error reason
  | simple id task, error, ⟨position, failing, reason, holds, _⟩, body => by
      cases holds with
      | self => exact ⟨_, rfl⟩
      | part member _ => cases member
  | list id services, error, ⟨position, failing, reason, holds, error_eq⟩, body => by
      cases holds with
      | part member inside =>
          obtain ⟨index, d, isService, same⟩ := Lists.exists_of_mem_mapIdx member
          cases same
          exact meaningAll_fails services
            ⟨d, isService, _, failing, reason, inside, error_eq⟩ body
  | splitJoin id poolSize separator timeout nested, error,
      ⟨position, failing, reason, holds, error_eq⟩, body => by
      cases holds with
      | part member inside =>
          obtain ⟨d, given, same⟩ := List.mem_map.mp member
          cases same
          have fails : ∃ d ∈ nested, (Element.service d).FailsWith error :=
            ⟨d, Option.mem_toList.mp given, _, failing, reason, inside, error_eq⟩
          exact fanOut_fails (meaningOf_fails nested fails) _ link body

theorem meaningAll_fails : ∀ (services : List Definition) {error : Error},
    (∃ d ∈ services, (Element.service d).FailsWith error) →
      ∀ body, ∃ reason, (meaningAll link services body).verdict = .error reason
  | [], _, ⟨_, member, _⟩, _ => nomatch member
  | d :: rest, error, ⟨s, member, fails⟩, body => by
      rw [meaningAll]
      split
      case h_1 ok =>
          rcases List.mem_cons.mp member with same | later
          · rw [same] at fails
            obtain ⟨reason, failed⟩ := meaning_fails d fails body
            rw [ok] at failed
            cases failed
          · exact meaningAll_fails rest ⟨s, later, fails⟩ _
      case h_2 reason failed => exact ⟨reason, failed⟩

theorem meaningOf_fails : ∀ (nested : Option Definition) {error : Error},
    (∃ d ∈ nested, (Element.service d).FailsWith error) →
      ∀ body, ∃ reason, (meaningOf link nested body).verdict = .error reason
  | none, _, ⟨_, given, _⟩, _ => nomatch given
  | some d, _, ⟨_, given, fails⟩, body => by
      cases given
      exact meaning_fails d fails body

end

end

end Definition

end Service

end IntegrationHost
