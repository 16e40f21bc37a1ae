import IntegrationHost.Config.Transport
import IntegrationHost.Rehearsal.Trace

/-!
# The stage

Surroundings for whole registries: what happens on them, files, and a store in memory that stands in
for everything that is no file.
-/

namespace IntegrationHost.Rehearsal

/-- Where registries act. -/
structure Stage where
  trace : Trace
  files : Files
  memory : Dictionary

instance : Inhabited Stage := ⟨⟨.empty, .empty, .empty⟩⟩

instance : Service.Journal Stage where
  log line stage := { stage with trace := Service.Journal.log line stage.trace }

instance : HasFiles Stage where
  files := Stage.files
  setFiles files stage := { stage with files }

namespace Stage

/-- Put text into the memory. -/
def keep (stage : Stage) (location : Config.Location) (text : String) : Stage :=
  { stage with memory := stage.memory.insert location.text text }

/-- A transport to the memory. A write that is to fail has already emptied the entry; one whose end
is to fail has already filled it. -/
def memoryTransport (failWrite failFlush : Option String) : Config.Transport Stage where
  read location stage :=
    match stage.memory.get? location.text with
    | some text => .ok text
    | none => .error (.core ("nothing at " ++ location.text))
  write location text stage :=
    match failWrite, failFlush with
    | some reason, _ => (.error (.io (.plain reason)), stage.keep location "")
    | none, some reason => (.error (.io (.plain reason)), stage.keep location text)
    | none, none => (.ok (), stage.keep location text)

end Stage

end IntegrationHost.Rehearsal
