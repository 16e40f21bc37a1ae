import IntegrationHost.Proofs.Registry.Moves

/-!
# Several registries

Registries work on one host. They know the same handles, and some of them may have a server in
common. What happens to them is a sequence of actions: of one registry or another, or of somebody
who goes to a server directly. An admission that fails changes none of them.
-/

namespace IntegrationHost

variable {ω A : Type}

/-- Registries and the host that they share. -/
structure Fleet (ω A : Type) where
  registries : List (Registry ω)
  host : Host ω A

namespace Fleet

/-! ## Actions -/

/-- What can happen to registries. -/
inductive Action where
  /-- The registry of an index acts. -/
  | act (i : Nat) (action : Registry.Action)
  | putLocation (i : Nat) (name : ObjectName) (location : Option Config.Location)
  | removeLocation (i : Nat) (name : ObjectName)
  /-- A handle is put on a server past all registries. -/
  | registerHandle (s n : Nat)
  | registerStranger (s : Nat) (name : ObjectName) (stranger : Management.Stranger)
  /-- Something is taken off a server past all registries. -/
  | unregister (s : Nat) (name : ObjectName)

/-- Registries on a host without adapters. -/
def start (registries : List (Registry ω)) (world : ω) : Fleet ω A :=
  ⟨registries, .new world⟩

/-- What the registry of an index leaves, if there is one. -/
def change (i : Nat) (next : Registry ω → Host ω A → Registry ω × Host ω A) (f : Fleet ω A) :
    Fleet ω A :=
  match f.registries[i]? with
  | none => f
  | some r =>
    let left := next r f.host
    ⟨f.registries.set i left.1, left.2⟩

/-- What an action leaves. -/
def step (kind : AdapterKind ω A) (f : Fleet ω A) : Action → Fleet ω A
  | .act i action => f.change i fun r h => action.run kind r h
  | .putLocation i name location => f.change i fun r h => (r.putLocation name location, h)
  | .removeLocation i name => f.change i fun r h => (r.removeLocation name, h)
  | .registerHandle s n => { f with host := (f.host.registerHandle s n).2 }
  | .registerStranger s name stranger =>
    { f with host := (f.host.registerStranger s name stranger).2 }
  | .unregister s name => { f with host := (f.host.unregister s name).2 }

/-- Actions, one after the other. -/
def run (kind : AdapterKind ω A) (f : Fleet ω A) (actions : List Action) : Fleet ω A :=
  actions.foldl (step kind) f

open Host (Reaches)

variable {kind : AdapterKind ω A} {f : Fleet ω A}

theorem step_act {i : Nat} {r : Registry ω} (isRegistry : f.registries[i]? = some r)
    (action : Registry.Action) :
    f.step kind (.act i action) =
      ⟨f.registries.set i (action.run kind r f.host).1, (action.run kind r f.host).2⟩ := by
  simp only [step, change, isRegistry]

theorem change_reaches {next : Registry ω → Host ω A → Registry ω × Host ω A}
    (moves : ∀ r, Reaches kind f.host (next r f.host).2) (i : Nat) :
    Reaches kind f.host (f.change i next).host := by
  unfold change
  cases f.registries[i]? with
  | none => exact .refl
  | some r => exact moves r

/-- Every action moves the host. -/
theorem step_reaches (f : Fleet ω A) (action : Action) :
    Reaches kind f.host (f.step kind action).host := by
  cases action with
  | act i action => exact change_reaches (fun r => action.reaches kind r f.host) i
  | putLocation i name location =>
      apply change_reaches
      intro r
      exact .refl
  | removeLocation i name =>
      apply change_reaches
      intro r
      exact .refl
  | registerHandle s n => exact Host.registerHandle_reaches f.host s n
  | registerStranger s name stranger =>
      exact Host.registerStranger_reaches f.host s name stranger
  | unregister s name => exact (Host.Move.unregister f.host s name).reaches

theorem run_reaches (f : Fleet ω A) (actions : List Action) :
    Reaches kind f.host (f.run kind actions).host := by
  induction actions generalizing f with
  | nil => exact .refl
  | cons first rest ih => exact (f.step_reaches first).trans (ih _)

/-- However registries are used, adapters are on servers under their own names. -/
theorem wellNamed_run (registries : List (Registry ω)) (world : ω) (actions : List Action) :
    ((start registries world).run kind actions).host.WellNamed :=
  (Host.wellNamed_new world).reaches (run_reaches (start registries world) actions)

/-! ## Admissions -/

/-- The ways in which an adapter can be admitted. -/
inductive Admission where
  | createFromText (text : String)
  | createFrom (location : Config.Location)
  | createFromUrl (url : String)
  | add (n : Nat)

/-- What an admission answers and leaves. -/
def Admission.reply (kind : AdapterKind ω A) (r : Registry ω) (h : Host ω A) :
    Admission → Reply ω A ObjectName
  | createFromText text => r.createFromText kind text h
  | createFrom location => r.createFrom kind location h
  | createFromUrl url => r.createFromUrl kind url h
  | add n => r.add n h

/-- An admission by the registry of an index. -/
def attempt (kind : AdapterKind ω A) (i : Nat) (admission : Admission) (f : Fleet ω A) :
    Except Error ObjectName × Fleet ω A :=
  match f.registries[i]? with
  | none => (.error (.core "no such registry"), f)
  | some r =>
    let reply := admission.reply kind r f.host
    (reply.answer, ⟨f.registries.set i reply.registry, reply.host⟩)

theorem Admission.leavesOnError (admission : Admission) (r : Registry ω) (h : Host ω A) :
    (admission.reply kind r h).LeavesOnError r h := by
  cases admission with
  | createFromText text => exact Registry.create_leavesOnError text none
  | createFrom location => exact Registry.createFrom_leavesOnError location
  | createFromUrl url =>
      dsimp only [Admission.reply]
      exact Registry.createFromUrl_leavesOnError url
  | add n => exact Registry.add_leavesOnError n

/-- An admission that fails, at whatever point, leaves all registries, all servers and all handles
as they were, whatever state they are in. -/
theorem attempt_of_error (kind : AdapterKind ω A) (f : Fleet ω A) (i : Nat) (admission : Admission)
    {error : Error} (failed : (f.attempt kind i admission).1 = .error error) :
    (f.attempt kind i admission).2 = f := by
  unfold attempt at failed ⊢
  cases found : f.registries[i]? with
  | none => rfl
  | some r =>
      rw [found] at failed
      obtain ⟨within, isThis⟩ := List.getElem?_eq_some_iff.mp found
      have same : f.registries.set i r = f.registries := by
        rw [← isThis, List.set_getElem_self]
      simp only [admission.leavesOnError r f.host failed, Reply.refuse, same]

/-- A registry whose adapters have no channels and are configured by their bare ids. -/
def ofIds (url : Option String) (server : Nat) : Registry Rehearsal.Stage :=
  ⟨{ Config.Settings.default with adapterConfigUrl := url }, server,
    ⟨ObjectName.hostDomain,
      .ofList [("type", "AdapterRegistry"), ("id", ObjectName.defaultRegistryId)], by decide⟩,
    Registry.Ledger.ofIds, none, [], []⟩

/-- Two registries share a server. Where the first has created an adapter, the second lists one of
the same name, cannot put it on the server, and does not list it any longer; and the first does not
create it again. -/
theorem attempt_of_error_shared_server :
    let kind := LiveAdapter.kind Rehearsal.Stage
    let f := (start [ofIds none 0, ofIds none 0] default).run kind
      [.act 0 (.createFromText "a"), .act 0 (.request .start 0)]
    ∃ name, ObjectName.adapter "a" = .ok name ∧
      ((f.attempt kind 1 (.createFromText "a")).1 = .error (.management (.alreadyRegistered name)) ∧
        (f.attempt kind 1 (.createFromText "a")).2 = f) ∧
      (f.attempt kind 0 (.createFromText "a")).1 = .error (.collision name) ∧
        (f.attempt kind 0 (.createFromText "a")).2 = f := by
  intro kind f
  refine ⟨⟨ObjectName.hostDomain, .ofList [("type", "Adapter"), ("id", "a")], by decide⟩,
    by rfl, ?_, ?_⟩
  · have refused : (f.attempt kind 1 (.createFromText "a")).1 = .error (.management
        (.alreadyRegistered ⟨ObjectName.hostDomain, .ofList [("type", "Adapter"), ("id", "a")],
          by decide⟩)) := by
      rfl
    exact ⟨refused, attempt_of_error kind f 1 (.createFromText "a") refused⟩
  · have refused : (f.attempt kind 0 (.createFromText "a")).1 = .error (.collision
        ⟨ObjectName.hostDomain, .ofList [("type", "Adapter"), ("id", "a")], by decide⟩) := by
      rfl
    exact ⟨refused, attempt_of_error kind f 0 (.createFromText "a") refused⟩

end Fleet

end IntegrationHost
