import IntegrationHost.Proofs.Config.Substitution

/-!
# Texts that are left as they are

The pre-processor that comes with the host changes nothing but references. A text in which none is
opened is left as it is, however often it is prepared.
-/

namespace IntegrationHost.Config

variable {text : String}

/-- A text without an opening mark is filled in as it is. -/
theorem Template.fill_plain (plain : ¬opening <:+: text.toList) (bindings : Dictionary) :
    fill bindings text = .ok text := by
  have unreferenced : ¬HasReference text := by
    rintro ⟨before, name, behind, rfl⟩
    exact plain ⟨before.toList, name.toList ++ closing ++ behind.toList, by simp⟩
  exact fill_eq ((Reading.reads_iff_of_plain unreferenced).mpr rfl)

namespace PreProcessor

variable {bindings : Dictionary} {steps : List PreProcessor}

theorem named_ok {name : String} {step : PreProcessor} (found : named bindings name = .ok step) :
    step = substitution bindings := by
  unfold named at found
  dsimp only at found
  split at found
  · cases found
    rfl
  · cases found

/-- All pre-processors that are found by their names fill in the same variables. -/
theorem allNamed_ok {names : List String} (found : allNamed bindings names = .ok steps) :
    steps = List.replicate names.length (substitution bindings) := by
  induction names generalizing steps with
  | nil =>
      cases found
      rfl
  | cons name rest ih =>
      unfold allNamed at found
      cases first : named bindings name with
      | error error =>
          rw [first] at found
          cases found
      | ok step =>
          rw [first] at found
          dsimp only at found
          cases others : allNamed bindings rest with
          | error error =>
              rw [others] at found
              cases found
          | ok more =>
              rw [others] at found
              cases found
              rw [named_ok first, ih others]
              rfl

theorem runAll_substitution (plain : ¬Template.opening <:+: text.toList) (bindings : Dictionary)
    (count : Nat) : runAll (List.replicate count (substitution bindings)) text = .ok text := by
  induction count with
  | zero => rfl
  | succ count ih =>
      have filled := Template.fill_plain plain bindings
      simp only [List.replicate_succ, runAll, substitution, filled, Except.mapError]
      exact ih

/-- Without pre-processors, or without an opening mark in it, a text is prepared as it is. -/
theorem runAll_plain {settings : Settings} (found : ofSettings settings = .ok steps)
    (plain : settings.preprocessors = [] ∨ ¬Template.opening <:+: text.toList) :
    runAll steps text = .ok text := by
  have steps_eq := allNamed_ok found
  rw [steps_eq]
  rcases plain with none | plain
  · rw [none]
    rfl
  · exact runAll_substitution plain settings.bindings _

end PreProcessor

end IntegrationHost.Config
