import IntegrationHost.Error
import IntegrationHost.Proofs.Text.Search

/-!
# Failures on one line

A line to which causes are added is the first text with some of the causes behind it, in their
order. None of them is lost: each stands in the line. None that ends the line already is written
again, and as every wrapping of the host ends with the words of what it wraps, the line of a failure
of the host is its own words and no more, but for what lies behind a failure from outside.
-/

namespace IntegrationHost

namespace Error

/-! ## Lines and causes -/

theorem addCauses_cons_of_ends {line cause : String} (ends : cause.toList <:+ line.toList)
    (rest : List String) : addCauses line (cause :: rest) = addCauses line rest := by
  rw [addCauses, if_pos (Text.endsWith_iff.mpr ends)]

theorem addCauses_cons_of_not_ends {line cause : String} (differs : ¬ cause.toList <:+ line.toList)
    (rest : List String) :
    addCauses line (cause :: rest) = addCauses (line ++ ": " ++ cause) rest := by
  rw [addCauses, if_neg (differs ∘ Text.endsWith_iff.mp)]

theorem addCauses_append (line : String) (before after : List String) :
    addCauses line (before ++ after) = addCauses (addCauses line before) after := by
  induction before generalizing line with
  | nil => rfl
  | cons cause rest ih => exact ih _

/-- What is added stands behind the first text: some of the causes, in their order. -/
theorem exists_kept (line : String) (causes : List String) :
    ∃ kept : List String, kept.Sublist causes ∧
      addCauses line causes = ": ".intercalate (line :: kept) := by
  induction causes generalizing line with
  | nil => exact ⟨[], List.Sublist.refl _, rfl⟩
  | cons cause rest ih =>
      by_cases ends : cause.toList <:+ line.toList
      · obtain ⟨kept, inOrder, line_eq⟩ := ih line
        exact ⟨kept, inOrder.cons cause, (addCauses_cons_of_ends ends rest).trans line_eq⟩
      · obtain ⟨kept, inOrder, line_eq⟩ := ih (line ++ ": " ++ cause)
        exact ⟨cause :: kept, inOrder.cons_cons cause,
          (addCauses_cons_of_not_ends ends rest).trans line_eq⟩

theorem isPrefix_addCauses (line : String) (causes : List String) :
    line.toList <+: (addCauses line causes).toList := by
  induction causes generalizing line with
  | nil => exact List.prefix_refl _
  | cons cause rest ih =>
      by_cases ends : cause.toList <:+ line.toList
      · rw [addCauses_cons_of_ends ends]
        exact ih line
      · rw [addCauses_cons_of_not_ends ends]
        have further : line.toList <+: (line ++ ": " ++ cause).toList := by
          rw [String.append_assoc, String.toList_append]
          exact List.prefix_append _ _
        exact further.trans (ih _)

/-- No cause is lost. -/
theorem infix_addCauses (line : String) {causes : List String} {cause : String}
    (member : cause ∈ causes) : cause.toList <:+: (addCauses line causes).toList := by
  obtain ⟨before, after, rfl⟩ := List.append_of_mem member
  -- It does not matter what the causes before this one have made of the line.
  rw [addCauses_append]
  generalize addCauses line before = line
  by_cases ends : cause.toList <:+ line.toList
  · rw [addCauses_cons_of_ends ends]
    exact ends.isInfix.trans (isPrefix_addCauses line after).isInfix
  · rw [addCauses_cons_of_not_ends ends]
    have added : cause.toList <:+ (line ++ ": " ++ cause).toList := by
      rw [String.toList_append]
      exact List.suffix_append _ _
    exact added.isInfix.trans (isPrefix_addCauses _ after).isInfix

/-- Causes add nothing to a line if and only if all of them end it. -/
theorem addCauses_eq_self_iff {line : String} {causes : List String} :
    addCauses line causes = line ↔ ∀ cause ∈ causes, cause.toList <:+ line.toList := by
  induction causes with
  | nil => exact iff_of_true rfl (List.forall_mem_nil _)
  | cons cause rest ih =>
      rw [List.forall_mem_cons]
      by_cases ends : cause.toList <:+ line.toList
      · rw [addCauses_cons_of_ends ends, ih, and_iff_right ends]
      · refine iff_of_false ?_ fun all => ends all.1
        rw [addCauses_cons_of_not_ends ends]
        intro same
        have longer := (isPrefix_addCauses (line ++ ": " ++ cause) rest).length_le
        rw [same] at longer
        simp only [String.toList_append, List.length_append] at longer
        have mark : (": ".toList).length = 2 := rfl
        omega

end Error

/-! ## What wrappings say -/

/-- The causes of a failure end its words, up to those that lie beyond. -/
def EndsWithCauses (message : String) (causes beyond : List String) : Prop :=
  ∃ near, causes = near ++ beyond ∧ ∀ cause ∈ near, cause.toList <:+ message.toList

namespace EndsWithCauses

variable {message : String} {causes beyond : List String}

/-- All causes may lie beyond. -/
theorem far (message : String) (causes : List String) : EndsWithCauses message causes causes :=
  ⟨[], rfl, List.forall_mem_nil _⟩

/-- A failure that is wrapped is the nearest cause of its wrapping. -/
theorem wrap (ends : EndsWithCauses message causes beyond) (words : String) :
    EndsWithCauses (words ++ message) (message :: causes) beyond := by
  obtain ⟨near, rfl, nearEnds⟩ := ends
  have behind : message.toList <:+ (words ++ message).toList := by
    rw [String.toList_append]
    exact List.suffix_append _ _
  exact ⟨message :: near, rfl,
    List.forall_mem_cons.mpr ⟨behind, fun cause isNear => (nearEnds cause isNear).trans behind⟩⟩

/-- Only what lies beyond can add to the words. -/
theorem addCauses_eq (ends : EndsWithCauses message causes beyond) :
    Error.addCauses message causes = Error.addCauses message beyond := by
  obtain ⟨near, rfl, nearEnds⟩ := ends
  rw [Error.addCauses_append, Error.addCauses_eq_self_iff.mpr nearEnds]

end EndsWithCauses

/-! ## Failures from outside -/

/-- What lies behind the failure from outside that is behind a failure. -/
def Pool.Error.beyond : Pool.Error → List String
  | spawn error => error.causes
  | _ => []

@[inherit_doc Pool.Error.beyond]
def Service.Error.beyond : Service.Error → List String
  | pool error => error.beyond
  | _ => []

@[inherit_doc Pool.Error.beyond]
def Config.Error.beyond : Config.Error → List String
  | load error => error.causes
  | _ => []

@[inherit_doc Pool.Error.beyond]
def Error.beyond : Error → List String
  | pool error => error.beyond
  | service error => error.beyond
  | configuration error => error.beyond
  | io error => error.causes
  | serialization error => error.causes
  | _ => []

theorem Pool.Error.endsWithCauses (error : Pool.Error) :
    EndsWithCauses error.message error.causes error.beyond := by
  cases error with
  | spawn error => exact (EndsWithCauses.far error.message error.causes).wrap _
  | _ => exact .far _ []

theorem Service.Error.endsWithCauses (error : Service.Error) :
    EndsWithCauses error.message error.causes error.beyond := by
  cases error with
  | pool error => exact error.endsWithCauses
  | _ => exact .far _ []

theorem Config.Error.endsWithCauses (error : Config.Error) :
    EndsWithCauses error.message error.causes error.beyond := by
  cases error with
  | load error => exact (EndsWithCauses.far error.message error.causes).wrap _
  | _ => exact .far _ []

namespace Error

theorem endsWithCauses (error : Error) :
    EndsWithCauses error.message error.causes error.beyond := by
  cases error with
  | validation violations => exact (EndsWithCauses.far (Violation.lines violations) []).wrap _
  | lifecycle error => exact (EndsWithCauses.far error.message []).wrap _
  | pool error => exact error.endsWithCauses.wrap _
  | service error => exact error.endsWithCauses.wrap _
  | configuration error => exact error.endsWithCauses.wrap _
  | io error => exact (EndsWithCauses.far error.message error.causes).wrap _
  | serialization error => exact (EndsWithCauses.far error.message error.causes).wrap _
  | management error => exact (EndsWithCauses.far error.message []).wrap _
  | collision _ | notFound _ | destroyed _ | missingCollaborator _ | core _ => exact .far _ []

/-- Whatever the texts are: a line with causes added is the first text and some of the causes in
their order, with colons between them; every cause stands in it; one that ends the line as it is
when its turn comes changes nothing. To the words of a failure of the host, however it is wrapped,
only what lies behind a failure from outside is added. Its line is its own words if and only if all
of that ends them. -/
theorem flatten_faithful (line : String) (causes : List String) (error : Error) :
    (∃ kept : List String, kept.Sublist causes ∧
      addCauses line causes = ": ".intercalate (line :: kept)) ∧
    (∀ cause ∈ causes, cause.toList <:+: (addCauses line causes).toList) ∧
    (∀ before cause after, causes = before ++ cause :: after →
      cause.toList <:+ (addCauses line before).toList →
      addCauses line causes = addCauses line (before ++ after)) ∧
    error.flatten = addCauses error.message error.beyond ∧
    (error.flatten = error.message ↔
      ∀ cause ∈ error.beyond, cause.toList <:+ error.message.toList) := by
  have ownWords : error.flatten = addCauses error.message error.beyond :=
    error.endsWithCauses.addCauses_eq
  refine ⟨exists_kept line causes, fun cause => infix_addCauses line, ?_, ownWords, ?_⟩
  · rintro before cause after rfl ends
    rw [addCauses_append, addCauses_append, addCauses_cons_of_ends ends]
  · rw [ownWords]
    exact addCauses_eq_self_iff

/-- A cause that comes back later is written where it came first, and a pool that cannot start a
thread says so once. -/
theorem flatten_faithful_spawned :
    let causes := ["inner", "disk", "inner"]
    "disk" ∈ causes ∧ "disk".toList <:+: (addCauses "outer: inner" causes).toList ∧
      addCauses "outer: inner" causes = addCauses "outer: inner" ["disk", "inner"] ∧
      (service (.pool (.spawn (.plain "no threads")))).flatten =
        "Service error: Failed to spawn executor thread: no threads" := by
  intro causes
  obtain ⟨_, occurs, repeats, _, own⟩ :=
    flatten_faithful "outer: inner" causes (service (.pool (.spawn (.plain "no threads"))))
  exact ⟨by decide, occurs _ (by decide), repeats [] "inner" ["disk", "inner"] rfl (by decide),
    own.mpr (List.forall_mem_nil _)⟩

/-- What lies behind a failure to read stands in its line, and not in its own words. -/
theorem flatten_says_more :
    let error := io ⟨"C string contained non-utf8 bytes",
      ["invalid utf-8 sequence of 1 bytes from index 0"]⟩
    error.message = "I/O error: C string contained non-utf8 bytes" ∧
      error.flatten = error.message ++ ": invalid utf-8 sequence of 1 bytes from index 0" ∧
      error.flatten ≠ error.message := by
  decide

end Error

end IntegrationHost
