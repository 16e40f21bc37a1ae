import IntegrationHost.Config.Settings
import IntegrationHost.Text.Lossy

/-!
# Version control

What brings the configuration up to date before it is read again. Settings name a command for it,
which is run as it stands; it succeeds when it ends by itself with status zero.
-/

namespace IntegrationHost.Config

/-- A command: a program, its arguments, and the directory it runs in if it is another one. -/
structure Command where
  program : String
  arguments : List String
  directory : Option String
  deriving DecidableEq, Repr

/-- How a program came to its end: with a status, or by a signal. -/
inductive Ending where
  | status (number : Nat)
  | signal (number : Nat)
  deriving DecidableEq, Repr

/-- The names of the signals, which are numbered from one. -/
def signalNames : List String :=
  ["SIGHUP", "SIGINT", "SIGQUIT", "SIGILL", "SIGTRAP", "SIGABRT", "SIGBUS", "SIGFPE", "SIGKILL",
    "SIGUSR1", "SIGSEGV", "SIGUSR2", "SIGPIPE", "SIGALRM", "SIGTERM", "SIGSTKFLT", "SIGCHLD",
    "SIGCONT", "SIGSTOP", "SIGTSTP", "SIGTTIN", "SIGTTOU", "SIGURG", "SIGXCPU", "SIGXFSZ",
    "SIGVTALRM", "SIGPROF", "SIGWINCH", "SIGIO", "SIGPWR", "SIGSYS"]

/-- The wording of an end. -/
def Ending.text : Ending → String
  | status number => "exit status: " ++ toString number
  | signal number =>
    let name := match signalNames[number - 1]? with
      | some name => " (" ++ name ++ ")"
      | none => ""
    "signal: " ++ toString number ++ name

/-- What is left of a program: how it ended, and what it wrote about errors. -/
structure Exit where
  ending : Ending
  complaint : List UInt8
  deriving DecidableEq, Repr

/-- Surroundings that run programs. The failure is the reason why a program could not be started. -/
class RunsPrograms (ω : Type) where
  run : Command → ω → Except String Exit × ω

namespace Command

/-- The command of a line, unless the line is blank. -/
def ofText? (line : String) : Option Command :=
  match Text.words line with
  | [] => none
  | program :: arguments => some ⟨program, arguments, none⟩

/-- What the end of a command amounts to. -/
def verdict (c : Command) : Except String Exit → Except Error Unit
  | .error reason => .error (.versionControl c.program reason)
  | .ok exit =>
    if exit.ending = .status 0 then .ok ()
    else
      .error (.versionControl c.program
        (exit.ending.text ++ ": " ++ Text.trim (Text.ofBytes exit.complaint)))

/-- Run a command. -/
def update {ω : Type} [RunsPrograms ω] (c : Command) (world : ω) : Except Error Unit × ω :=
  let ran := RunsPrograms.run c world
  (c.verdict ran.1, ran.2)

end Command

/-- Brings configuration up to date in surroundings `ω`. -/
structure VersionControl (ω : Type) where
  name : String
  update : ω → Except Error Unit × ω

namespace VersionControl

variable {ω : Type} [RunsPrograms ω]

/-- The version control that runs a command. -/
def ofCommand (c : Command) : VersionControl ω := ⟨c.program, c.update⟩

/-- The version control that settings ask for. -/
def ofSettings? (s : Settings) : Option (VersionControl ω) :=
  (s.versionControl.bind Command.ofText?).map ofCommand

end VersionControl

end IntegrationHost.Config
