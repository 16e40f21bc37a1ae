import IntegrationHost.Rehearsal.Shell.Run
import IntegrationHost.Rehearsal.Stage

/-!
# Programs on the stage

The programs that can be run there: the shell, and the tools that its scripts use.
-/

namespace IntegrationHost.Rehearsal

open Config

/-- What is said of a program that may not be run. -/
def notAllowed : Files.Fault := .system 13 "Permission denied"

/-- Why no program lies at a path or under a name. A name is looked for in many directories. -/
def absence (name : String) (directory : Place) (f : Files) : Files.Fault :=
  if name = "." ∨ name = ".." then notAllowed
  else if Text.hasAny ['/'] name then
    match f.lookup directory name with
    | .ok _ => notAllowed
    | .error fault => fault
  else if Files.nameLimit < name.utf8ByteSize then .nameTooLong
  else .missing

/-- Run a program in a directory. -/
def runProgram (c : Command) (directory : Place) (f : Files) : Except String Exit × Files :=
  match Tool.nameAt c.program with
  | some "sh" =>
    let s := Shell.ofArguments c.program c.arguments directory f
    (.ok ⟨s.howEnded, s.complaint⟩, s.files)
  | name? =>
    match name?.bind Tool.ofName? with
    | some tool =>
      let deed := tool directory [] c.arguments f
      (.ok ⟨.status deed.status, deed.complaint⟩, deed.files)
    | none => (.error (absence c.program directory f).message, f)

/-- What is said of a command that holds a zero byte. -/
def zeroByte : String := "nul byte found in provided data"

instance : RunsPrograms Stage where
  run c stage :=
    if (c.program :: c.arguments ++ c.directory.toList).any (Text.hasAny ['\x00']) then
      (.error zeroByte, stage)
    else
      match stage.files.directory stage.files.home (c.directory.getD ".") with
      | .error fault => (.error fault.message, stage)
      | .ok directory =>
        let (exit, files) := runProgram c directory stage.files
        (exit, { stage with files })

end IntegrationHost.Rehearsal
