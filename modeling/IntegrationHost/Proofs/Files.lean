import IntegrationHost.Config.Transport
import IntegrationHost.Proofs.Text.Dictionary

/-!
# Files that are written and read

A file that could be written is there afterwards, and holds what was written: the path leads to it
through directories, none of which was put out of place.
-/

namespace IntegrationHost

namespace Files

variable {f written : Files} {here : List String} {entry : FileEntry} {base place next : Place}
  {name path : String} {content : Content}

theorem entry?_put (notHome : here ≠ []) (f : Files) (entry : FileEntry) (steps : List String) :
    entry? (f.put here entry) steps = if steps = here then some entry else f.entry? steps := by
  unfold entry?
  by_cases same : steps = here
  · subst same
    simp [notHome, put]
  · rw [if_neg same]
    cases steps with
    | nil => rfl
    | cons step rest =>
        rw [put, Dictionary.lookup_entry, if_neg same, Dictionary.lookup_without, if_neg same]

theorem child_ne_nil (child : place.child name = .ok here) : here ≠ [] := by
  unfold Place.child at child
  split at child
  · cases child
  · cases child
    exact List.append_ne_nil_of_right_ne_nil place.steps (List.cons_ne_nil name [])

/-- A path that begins at the root leads to the same from everywhere. -/
theorem approach_of_absolute (absolute : Text.startsWith path "/" = true) (f : Files)
    (base other : Place) : f.approach base path = f.approach other path := by
  simp only [approach, origin, if_pos absolute]

/-! ## Ways that stay open -/

section

variable (notHome : here ≠ []) (notDirectory : f.entry? here ≠ some .directory)

include notHome notDirectory

/-- What is put in place of no directory does not stand in the way of any. -/
theorem enter_put (entered : f.enter place name = .ok next) :
    (f.put here entry).enter place name = .ok next := by
  unfold enter at entered ⊢
  split
  · rename_i isHere
    rw [if_pos isHere] at entered
    exact entered
  · rename_i notHere
    rw [if_neg notHere] at entered
    split
    · rename_i isParent
      rw [if_pos isParent] at entered
      exact entered
    · rename_i notParent
      rw [if_neg notParent] at entered
      cases child : place.child name with
      | error fault =>
          rw [child] at entered
          cases entered
      | ok there =>
          rw [child] at entered
          dsimp only at entered ⊢
          have different : there ≠ here := by
            rintro rfl
            split at entered
            · rename_i isDirectory
              exact notDirectory isDirectory
            · cases entered
            · cases entered
          rw [entry?_put notHome, if_neg different]
          exact entered

theorem foldlM_enter_put {names : List String} (walked : names.foldlM f.enter base = .ok place) :
    names.foldlM (f.put here entry).enter base = .ok place := by
  induction names generalizing base with
  | nil => exact walked
  | cons name rest ih =>
      rw [List.foldlM_cons] at walked ⊢
      cases entered : f.enter base name with
      | error fault =>
          rw [entered] at walked
          cases walked
      | ok between =>
          rw [entered] at walked
          rw [enter_put notHome notDirectory entered]
          exact ih walked

theorem approach_put (approached : f.approach base path = .ok (place, some name)) :
    (f.put here entry).approach base path = .ok (place, some name) := by
  unfold approach at approached ⊢
  cases flawed : flaw? path with
  | some fault =>
      rw [flawed] at approached
      cases approached
  | none =>
      rw [flawed] at approached
      dsimp only at approached ⊢
      cases steps : ((Text.split "/" path).filter (· != "")).reverse with
      | nil =>
          rw [steps] at approached
          cases approached
      | cons last before =>
          rw [steps] at approached
          dsimp only at approached ⊢
          cases walked : before.reverse.foldlM f.enter (origin base path) with
          | error fault =>
              rw [walked] at approached
              cases approached
          | ok reached =>
              rw [walked] at approached
              rw [foldlM_enter_put notHome notDirectory walked]
              simp only [bind, Except.bind] at approached ⊢
              split at approached
              · cases entered : f.enter reached last with
                | error fault =>
                    rw [entered] at approached
                    cases approached
                | ok inside =>
                    rw [entered] at approached
                    cases approached
              · rename_i isName
                rw [if_neg isName]
                exact approached

end

/-! ## What was written -/

/-- A file is written where a path leads to the name of a file, or of nothing yet. -/
theorem write_ok (done : f.write base path content = .ok written) :
    ∃ place name here, f.approach base path = .ok (place, some name) ∧
      ¬Text.endsWith path "/" = true ∧ place.child name = .ok here ∧
      f.entry? here ≠ some .directory ∧ written = f.put here (.file content) := by
  unfold write at done
  cases approached : f.approach base path with
  | error fault =>
      rw [approached] at done
      cases done
  | ok reached =>
      rcases reached with ⟨place, _ | name⟩
      · rw [approached] at done
        cases done
      · rw [approached] at done
        dsimp only at done
        split at done
        · cases done
        · rename_i isFile
          cases child : place.child name with
          | error fault =>
              rw [child] at done
              cases done
          | ok here =>
              rw [child] at done
              dsimp only at done
              split at done
              · cases done
              · rename_i notDirectory
                cases done
                exact ⟨place, name, here, rfl, isFile, child, notDirectory, rfl⟩

/-- A file that was written is found at its path. -/
theorem lookup_write (done : f.write base path content = .ok written) :
    written.lookup base path = .ok (.file content) := by
  obtain ⟨place, name, here, approached, isFile, child, notDirectory, rfl⟩ := write_ok done
  have notHome := child_ne_nil child
  have found : entry? (f.put here (.file content)) here = some (.file content) := by
    rw [entry?_put notHome, if_pos rfl]
  unfold lookup
  rw [approach_put notHome notDirectory approached]
  dsimp only
  rw [child]
  dsimp only
  rw [found]
  exact if_neg isFile

/-- What was written from the working directory is read from there. -/
theorem read_write {text : String} (done : f.write f.home path (.text text) = .ok written) :
    written.read path = .ok text := by
  have sameHome : written.home = f.home := by
    obtain ⟨_, _, _, _, _, _, _, rfl⟩ := write_ok done
    rfl
  rw [← sameHome] at done
  rw [read, look, Look.text, Look.content, lookup_write done]

end Files

/-! ## Surroundings -/

/-- Files that are put into surroundings are there. -/
class LawfulFiles (ω : Type) [HasFiles ω] : Prop where
  files_setFiles : ∀ (files : Files) (world : ω),
    HasFiles.files (HasFiles.setFiles files world) = files

namespace Config.Transport

variable {ω : Type} [HasFiles ω] {path text : String} {world left : ω}

/-- What was written to a file is what is read from it. -/
theorem read_write [LawfulFiles ω]
    (written : ofFiles.write (.file path) text world = (.ok (), left)) :
    (HasFiles.files left).read path = .ok text := by
  unfold ofFiles at written
  dsimp only [Location.path?] at written
  cases done : (HasFiles.files world).write (HasFiles.files world).home path (.text text) with
  | error fault =>
      rw [done] at written
      cases written
  | ok files =>
      rw [done] at written
      cases written
      rw [LawfulFiles.files_setFiles, Files.read_write done]

/-- What the transport to files reads depends on nothing else. -/
theorem read_of_files (found : (HasFiles.files world).read path = .ok text) :
    ofFiles.read (.file path) world = .ok text := by
  unfold ofFiles textAt
  dsimp only [Location.path?]
  rw [show Look.text _ path = _ from found]
  rfl

end Config.Transport

end IntegrationHost
