import IntegrationHost.Proofs.Adapter.Reading
import IntegrationHost.Proofs.Config.Preparation
import IntegrationHost.Proofs.Files
import IntegrationHost.Proofs.Registry.Prediction
import IntegrationHost.Proofs.Registry.Roll

/-!
# Adapters that are persisted and created again

What is persisted is the definition of an adapter, as it was read from its text when that had been
prepared. It is prepared once more when it is read again. So an adapter comes back as it was just
when this second preparation does no harm: without pre-processors, or where no reference to a
variable is opened in what was persisted, it never does.
-/

namespace IntegrationHost

variable {ω A : Type}

namespace Handle

variable {kind : AdapterKind ω A} {d : AdapterDefinition} {handle : Handle A}

theorem definition_of_new (made : new kind d = .ok handle) : handle.definition = d := by
  unfold new at made
  cases named : ObjectName.adapter d.id with
  | error flaw =>
      rw [named] at made
      cases made
  | ok name =>
      rw [named] at made
      cases made
      rfl

end Handle

namespace Registry

open Config (PreProcessor)

/-- A registry creates an adapter of a name and a definition from a location, and its server knows
the adapter by the name. -/
structure Restores (kind : AdapterKind ω A) (r : Registry ω) (h : Host ω A)
    (location : Config.Location) (name : ObjectName) (d : AdapterDefinition) : Prop where
  answer : (r.createFrom kind location h).answer = .ok name
  served : (r.createFrom kind location h).host.find r.server name = .ok h.handles.length
  copy : ∃ copy, (r.createFrom kind location h).host.handles[h.handles.length]? = some copy ∧
    copy.name = name ∧ copy.definition = d

variable {kind : AdapterKind ω A} {r fresh : Registry ω} {h : Host ω A} {text : String}
  {name : ObjectName} {d : AdapterDefinition} {handle : Handle A}

/-! ## Reading again -/

/-- A registry without adapters, whose server is empty, restores what it can prepare from the text
at the location. -/
theorem restores_iff {location : Config.Location}
    (found : r.collaborators.transport.read location h.world = .ok text) (unlisted : r.listed = [])
    (empty : h.servers r.server = .empty) :
    r.Restores kind h location name d ↔
      ∃ handle, r.prepare kind text = .ok handle ∧ handle.name = name ∧ handle.definition = d := by
  have created : r.createFrom kind location h = r.create kind text (some location) h := by
    unfold createFrom
    rw [found]
  constructor
  · rintro ⟨answer, _, copy, kept, own, same⟩
    rw [created] at answer kept
    rcases create_cases kind text (some location) r h with
      ⟨error, refused⟩ | ⟨handle, server, prepared, _, _, done⟩
    · rw [refused] at answer
      cases answer
    · rw [done] at kept
      have isCopy : some handle = some copy := (h.handle_addHandle handle).symm.trans kept
      rw [Option.some.inj isCopy] at prepared
      exact ⟨copy, prepared, own, same⟩
  · rintro ⟨handle, prepared, rfl, rfl⟩
    have answer := create_of_prepare prepared (some location) unlisted empty
    rcases create_cases kind text (some location) r h with
      ⟨error, refused⟩ | ⟨other, server, prepared', _, registered, done⟩
    · rw [refused] at answer
      cases answer
    · cases prepared.symm.trans prepared'
      have served : ((r.create kind text (some location) h).host.servers r.server).adapter?
          handle.name = some h.handles.length := by
        rw [done, Host.servers_setServer, if_pos rfl,
          Management.Server.adapter?_register registered, if_pos rfl]
      rw [← created] at answer served
      refine ⟨answer, Host.find_eq_ok_iff.mpr served, handle, ?_, rfl, rfl⟩
      rw [created, done]
      exact h.handle_addHandle handle

section

variable [HasFiles ω] (standard : r.collaborators = .standard ω)

include standard

/-- A text is understood when what it is prepared to spells a definition. -/
theorem unmarshal_eq_ok_iff :
    r.unmarshal text = .ok d ↔
      ∃ steps prepared, PreProcessor.ofSettings r.settings = .ok steps ∧
        PreProcessor.runAll steps text = .ok prepared ∧
        Config.Marshaller.json.unmarshal prepared = .ok d := by
  unfold unmarshal
  rw [standard]
  dsimp only [Collaborators.standard]
  cases PreProcessor.ofSettings r.settings with
  | error error => simp
  | ok steps =>
      simp only [Except.ok.injEq, exists_and_left, exists_eq_left']
      cases PreProcessor.runAll steps text with
      | error error => simp
      | ok prepared =>
          simp only [Except.ok.injEq, exists_eq_left']
          cases Config.Marshaller.json.unmarshal prepared with
          | error error => simp [Except.mapError]
          | ok d => simp [Except.mapError]

/-- A definition that was understood is understood again from its own text, if this holds no
reference that would be filled in, and is no deeper than the reader goes. -/
theorem unmarshal_line (settings_eq : fresh.settings = r.settings)
    (freshStandard : fresh.collaborators = .standard ω) (read : r.unmarshal text = .ok d)
    (deep : d.toJson.depth ≤ Service.Definition.nestingLimit)
    (plain : r.settings.preprocessors = [] ∨
      ¬Config.Template.opening <:+: (Config.Marshaller.json.marshal d ++ "\n").toList) :
    fresh.unmarshal (Config.Marshaller.json.marshal d ++ "\n") = .ok d := by
  obtain ⟨steps, prepared, found, _, spelled⟩ := (unmarshal_eq_ok_iff standard).mp read
  refine (unmarshal_eq_ok_iff freshStandard).mpr
    ⟨steps, Config.Marshaller.json.marshal d ++ "\n", ?_, PreProcessor.runAll_plain found plain,
      Config.Marshaller.json_unmarshal_line spelled deep⟩
  rw [settings_eq]
  exact found

/-- What a registry prepares from a definition that another one with the same settings has prepared
already is the same handle. -/
theorem prepare_again {line : String} (settings_eq : fresh.settings = r.settings)
    (freshStandard : fresh.collaborators = .standard ω)
    (prepared : r.prepare kind text = .ok handle) :
    (∃ again, fresh.prepare kind line = .ok again ∧ again.name = handle.name ∧
        again.definition = handle.definition) ↔
      fresh.unmarshal line = .ok handle.definition := by
  obtain ⟨d, _, passes, made⟩ := prepare_ok prepared
  obtain rfl := Handle.definition_of_new made
  constructor
  · rintro ⟨again, preparedAgain, _, same⟩
    obtain ⟨d, read, _, madeAgain⟩ := prepare_ok preparedAgain
    rw [read, ← same, Handle.definition_of_new madeAgain]
  · intro read
    have passesAgain : fresh.check handle.definition = .ok () := by
      unfold check at passes ⊢
      rw [settings_eq, freshStandard, ← standard]
      exact passes
    refine ⟨handle, ?_, rfl, rfl⟩
    simp only [prepare, read, bind, Except.bind, passesAgain, made, Except.mapError]

end

/-- A registry that was built has the settings, the server and the collaborators that it was built
with. -/
theorem build_eq [Config.RunsPrograms ω] {settings : Config.Settings} {server : Nat}
    {collaborators : Collaborators ω} (built : build settings server collaborators = .ok r) :
    r.settings = settings ∧ r.server = server ∧ r.collaborators = collaborators := by
  unfold build at built
  cases checked : settings.check with
  | error error =>
      rw [checked] at built
      cases built
  | ok _ =>
      cases named : nameFor settings with
      | error error =>
          rw [checked, named] at built
          cases built
      | ok name =>
          rw [checked, named] at built
          cases built
          exact ⟨rfl, rfl, rfl⟩

/-- What is persisted of an adapter lies at the path. -/
theorem read_persisted [HasFiles ω] [LawfulFiles ω] {n : Nat} {path : String} {left : Host ω A}
    (standard : r.collaborators = .standard ω) (served : h.find r.server name = .ok n)
    (found : h.handles[n]? = some handle)
    (persisted : r.persistNamed name (.file path) h = (.ok (), left)) :
    (HasFiles.files left.world).read path =
      .ok (Config.Marshaller.json.marshal handle.definition ++ "\n") := by
  simp only [persistNamed, served, persistHandle, found, persist, standard, Collaborators.standard]
    at persisted
  have written := congrArg Prod.fst persisted
  have world_eq := congrArg (fun reply => reply.2.world) persisted
  exact Config.Transport.read_write (Prod.ext written world_eq)

end Registry

namespace Fleet

/-- A registry with the collaborators that come with the host has created an adapter, from a text or
from a location. Whatever happens then, as long as the registry finds the adapter and persists it:
a registry that is built from the same settings, with an empty server, restores the adapter as it
was created from what lies at the path if and only if that text, prepared once more, spells the
definition. Without pre-processors, or where the text opens no reference to a variable, it does. -/
theorem restores_persisted_iff [HasFiles ω] [LawfulFiles ω] [Config.RunsPrograms ω]
    (kind : AdapterKind ω A) (f : Fleet ω A) {i : Nat} {r : Registry ω}
    (isRegistry : f.registries[i]? = some r) (standard : r.collaborators = .standard ω)
    {action : Registry.Action} {name : ObjectName} {n : Nat}
    (admits : action.admission kind r f.host = some (name, n))
    (isNew : f.host.handles.length ≤ n) (later : List Action) :
    let g := (f.step kind (.act i action)).run kind later
    ∀ {p path left server fresh} {h : Host ω A}, g.registries[i]? = some p →
      g.host.find p.server name = .ok n →
      p.persistNamed name (.file path) g.host = (.ok (), left) →
      Registry.build r.settings server (.standard ω) = .ok fresh → h.servers server = .empty →
      (HasFiles.files h.world).read path = (HasFiles.files left.world).read path →
      ∃ created, (f.step kind (.act i action)).host.handles[n]? = some created ∧
        created.name = name ∧
        let d := created.definition
        let line := Config.Marshaller.json.marshal d ++ "\n"
        (fresh.Restores kind h (.file path) name d ↔ fresh.unmarshal line = .ok d) ∧
          (d.toJson.depth ≤ Service.Definition.nestingLimit →
            r.settings.preprocessors = [] ∨ ¬Config.Template.opening <:+: line.toList →
              fresh.Restores kind h (.file path) name d) := by
  intro g p path left server fresh h isStill served persisted built empty kept
  have stepped : (f.step kind (.act i action)).host = (action.run kind r f.host).2 := by
    rw [step_act isRegistry]
  obtain ⟨created, found, own, made⟩ := (action.accounted kind r f.host).admitted admits
  obtain ⟨text, prepared⟩ := made isNew
  rw [← stepped] at found
  refine ⟨created, found, own, ?_⟩
  -- What is persisted is the definition that the adapter was created with.
  have reached : Host.Reaches kind (f.step kind (.act i action)).host g.host :=
    run_reaches (f.step kind (.act i action)) later
  obtain ⟨now, foundNow, _, definition_eq⟩ := reached.kept found
  obtain ⟨_, before, bare⟩ := run_bare (.act i action :: later) isStill
  cases isRegistry.symm.trans before
  have stillStandard : p.collaborators = .standard ω :=
    (congrArg Registry.collaborators bare).trans standard
  have written := Registry.read_persisted stillStandard served foundNow persisted
  rw [definition_eq] at written
  -- What is restored is what is prepared from it.
  obtain ⟨settings_eq, server_eq, freshStandard⟩ := Registry.build_eq built
  obtain ⟨_, unlisted, _⟩ := Registry.Ledger.build_ok built
  have readAgain : fresh.collaborators.transport.read (.file path) h.world =
      .ok (Config.Marshaller.json.marshal created.definition ++ "\n") := by
    rw [freshStandard]
    exact Config.Transport.read_of_files (kept.trans written)
  have empty' : h.servers fresh.server = .empty := by
    rw [server_eq]
    exact empty
  have restores_iff : fresh.Restores kind h (.file path) name created.definition ↔
      fresh.unmarshal (Config.Marshaller.json.marshal created.definition ++ "\n") =
        .ok created.definition := by
    rw [Registry.restores_iff readAgain unlisted empty', ← own]
    exact Registry.prepare_again standard settings_eq freshStandard prepared
  refine ⟨restores_iff, fun deep plain => restores_iff.mpr ?_⟩
  obtain ⟨d, read, _, madeBefore⟩ := Registry.prepare_ok prepared
  obtain rfl := Handle.definition_of_new madeBefore
  exact Registry.unmarshal_line standard settings_eq freshStandard read deep plain

instance : LawfulFiles Rehearsal.Stage := ⟨fun _ _ => rfl⟩

/-- Settings that ask for variables to be filled in, of which there is one. -/
def withId (value : String) : Config.Settings :=
  { Config.Settings.default with
    preprocessors := [Config.PreProcessor.substitutionName]
    bindings := .ofList [("id", value)] }

/-- A registry with the collaborators that come with the host. -/
def standardWithId (value : String) (server : Nat) : Registry Rehearsal.Stage :=
  ⟨withId value, server, ⟨ObjectName.hostDomain,
    .ofList [("type", "AdapterRegistry"), ("id", ObjectName.defaultRegistryId)], rfl⟩,
    .standard _, none, [], []⟩

/-- The creation of an adapter whose id is the value of a variable. -/
def createWithId : Registry.Action :=
  .createFromText "\x7b\"uniqueId\":\"$\x7bid\x7d\"\x7d"

/-- What the creation leaves of a registry of its own, and of its host. -/
def createdWithId (value : String) :
    Registry Rehearsal.Stage × Host Rehearsal.Stage (LiveAdapter Rehearsal.Stage) :=
  createWithId.run (LiveAdapter.kind Rehearsal.Stage) (standardWithId value 0) (.new default)

/-- An adapter is persisted at a path that begins at the root, and restored from there. -/
theorem restores_persisted_iff_filled :
    let kind := LiveAdapter.kind Rehearsal.Stage
    let name : ObjectName :=
      ⟨ObjectName.hostDomain, .ofList [("type", "Adapter"), ("id", "a")], by decide⟩
    let created := createdWithId "a"
    ∃ left, created.1.persistNamed name (.file "/p.json") created.2 = (.ok (), left) ∧
      (standardWithId "a" 1).Restores kind (.new left.world) (.file "/p.json") name
        ⟨some "a", []⟩ := by
  intro kind name _
  let f : Fleet Rehearsal.Stage (LiveAdapter Rehearsal.Stage) :=
    start [standardWithId "a" 0] default
  have isRegistry : f.registries[0]? = some (standardWithId "a" 0) := rfl
  have stepped : f.step kind (.act 0 createWithId) =
      ⟨[(createdWithId "a").1], (createdWithId "a").2⟩ := step_act isRegistry createWithId
  have isStill : (f.step kind (.act 0 createWithId)).registries[0]? =
      some (createdWithId "a").1 := by
    rw [stepped, List.getElem?_cons_zero]
  have host_eq : (f.step kind (.act 0 createWithId)).host = (createdWithId "a").2 := by
    rw [stepped]
  have admits : createWithId.admission kind (standardWithId "a" 0) f.host = some (name, 0) := by
    decide +kernel
  have served : (createdWithId "a").2.find (createdWithId "a").1.server name = .ok 0 := by
    decide +kernel
  have answer : ((createdWithId "a").1.persistNamed name (.file "/p.json")
      (createdWithId "a").2).1 = .ok () := by
    decide +kernel
  obtain ⟨left, persisted⟩ : ∃ left, (createdWithId "a").1.persistNamed name (.file "/p.json")
      (createdWithId "a").2 = (.ok (), left) := by
    generalize (createdWithId "a").1.persistNamed name (.file "/p.json") (createdWithId "a").2 =
      reply at answer
    exact ⟨reply.2, Prod.ext answer rfl⟩
  have definitions : (createdWithId "a").2.handles[0]?.map Handle.definition =
      some ⟨some "a", []⟩ := by
    decide +kernel
  have built : Registry.build (standardWithId "a" 0).settings 1 (.standard _) =
      .ok (standardWithId "a" 1) := by
    rfl
  have empty : (Host.new (A := LiveAdapter Rehearsal.Stage) left.world).servers 1 = .empty := rfl
  rw [← host_eq] at served persisted
  obtain ⟨handle, found, _, _, restores⟩ := restores_persisted_iff kind f isRegistry rfl admits
    (Nat.zero_le 0) [] isStill served persisted built empty rfl
  rw [host_eq] at found persisted
  rw [found] at definitions
  rw [Option.some.inj definitions] at restores
  exact ⟨left, persisted, restores (by decide +kernel) (Or.inr (by decide +kernel))⟩

/-- The id of an adapter is the value of a variable, and reads like a reference to another variable,
which there is not. The adapter is created and persisted, but it cannot be created again from what
lies at the path then. -/
theorem persisted_not_restored :
    let kind := LiveAdapter.kind Rehearsal.Stage
    let name : ObjectName :=
      ⟨ObjectName.hostDomain, .ofList [("type", "Adapter"), ("id", "$\x7bx\x7d")], by decide⟩
    let created := createdWithId "$\x7bx\x7d"
    let persisted := created.1.persistNamed name (.file "p.json") created.2
    createWithId.admission kind (standardWithId "$\x7bx\x7d" 0) (.new default) =
        some (name, 0) ∧
      created.2.find created.1.server name = .ok 0 ∧ persisted.1 = .ok () ∧
      ((standardWithId "$\x7bx\x7d" 1).createFrom kind (.file "p.json")
        (.new persisted.2.world)).answer = .error (.configuration
          (.preProcessing Config.PreProcessor.substitutionName
            "variable 'x' is not defined")) := by
  refine ⟨?_, ?_, ?_, ?_⟩
  · decide +kernel
  · decide +kernel
  · decide +kernel
  · decide +kernel

end Fleet

end IntegrationHost
