import IntegrationHost.Config.Location
import IntegrationHost.Error
import IntegrationHost.Files

/-!
# Transports

How configuration gets from a location and to it. The transport that comes with the host reaches
files and nothing else.
-/

namespace IntegrationHost.Config

/-- Reads and writes configuration in surroundings `ω`. A write that fails may have changed them. -/
structure Transport (ω : Type) where
  read : Location → ω → Except IntegrationHost.Error String
  write : Location → String → ω → Except IntegrationHost.Error Unit × ω

namespace Transport

variable {ω : Type}

/-- A failure to read or write a file. -/
def failure (fault : Files.Fault) : IntegrationHost.Error :=
  .io (.plain fault.message)

/-- A failure to reach a location. -/
def unsupported (location : Location) : IntegrationHost.Error :=
  .configuration (.unsupportedLocation location.text)

/-- The text of the file at a location. -/
def textAt (look : Look) (location : Location) : Except IntegrationHost.Error String :=
  match location.path? with
  | none => .error (unsupported location)
  | some path => (look.text path).mapError failure

/-- Reads and writes files. -/
def ofFiles [HasFiles ω] : Transport ω where
  read location world := textAt (HasFiles.files world).look location
  write location text world :=
    match location.path? with
    | none => (.error (unsupported location), world)
    | some path =>
      let files := HasFiles.files world
      match files.write files.home path (.text text) with
      | .ok files => (.ok (), HasFiles.setFiles files world)
      | .error fault => (.error (failure fault), world)

end Transport

end IntegrationHost.Config
