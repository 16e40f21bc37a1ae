import IntegrationHost.Cli.Run

/-!
# The program

Reads the files that are needed and the environment, and writes what comes out.
-/

open IntegrationHost

namespace IntegrationHost.Main

/-- What the number of a system error, given as 32 bits and perhaps negated, means for a path. -/
def entryOfNumber (number : UInt32) (text : String) : Except Files.Fault FileEntry :=
  let n := number.toNat
  match if n < 2147483648 then n else 4294967296 - n with
  | 2 => .error .missing
  | 20 => .error .notDirectory
  | 21 => .ok .directory
  | 36 => .error .nameTooLong
  | n => .error (.system n text.capitalize)

/-- What an error of the system means for a path. -/
def entryOf (e : IO.Error) : Except Files.Fault FileEntry :=
  match e with
  | .noFileOrDirectory _ number text => entryOfNumber number text
  | .inappropriateType _ number text => entryOfNumber number text
  | .permissionDenied _ number text => entryOfNumber number text
  | .invalidArgument _ number text => entryOfNumber number text
  | .resourceExhausted _ number text => entryOfNumber number text
  | .noSuchThing _ number text => entryOfNumber number text
  | .illegalOperation number text => entryOfNumber number text
  | .hardwareFault number text => entryOfNumber number text
  | .otherError number text => entryOfNumber number text
  | e => .error (.system 5 (toString e))

/-- Look at a path. -/
def lookAt (path : String) : IO (Except Files.Fault FileEntry) := do
  try
    return .ok (.file (.ofBytes (← IO.FS.readBinFile path).toList))
  catch e => return entryOf e

/-- The environment, as the system shows it: entries that end with a zero byte. -/
def readEnvironment : IO Config.Environment := do
  match ← lookAt "/proc/self/environ" with
  | .ok (.file (.text text)) =>
    return (Text.split "\x00" text).filterMap fun entry =>
      Text.splitOnce "=" entry
  | _ => return []

end IntegrationHost.Main

/-- Run the program. -/
def main (arguments : List String) : IO UInt32 := do
  let needed := ((Cli.Request.ofArguments arguments).toOption.map Cli.paths).getD []
  let seen ← needed.mapM fun path => return (path, ← Main.lookAt path)
  let environment ← Main.readEnvironment
  let look : Look := fun path => (seen.lookup path).getD (.error .missing)
  let outcome := Cli.run look environment arguments
  IO.print outcome.out
  IO.eprint outcome.err
  return outcome.status.toUInt32
