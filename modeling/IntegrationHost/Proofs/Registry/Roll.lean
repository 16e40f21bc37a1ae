import IntegrationHost.Proofs.Registry.Fleet
import Mathlib.Logic.Function.Basic

/-!
# What registries have admitted

A registry does not say which handle it has admitted under a name. A roll, kept beside the
registries, does: it notes down each admission as it happens. For it every action is looked at for
what it admits, for what it lists beside that, and for what it leaves of the registry, which is
everything but what is listed and remembered.
-/

namespace IntegrationHost

variable {ω A : Type}

/-! ## Admissions -/

/-- The adapter that a creation admits: its name and its handle, which is the newest. -/
def Reply.newest (reply : Reply ω A ObjectName) : Option (ObjectName × Nat) :=
  reply.answer.toOption.map fun name => (name, reply.host.handles.length - 1)

namespace Registry

/-- The adapter that an action of a registry admits, if it admits one: its name and its handle. -/
def Action.admission (kind : AdapterKind ω A) (r : Registry ω) (h : Host ω A) :
    Action → Option (ObjectName × Nat)
  | createFromText text => (r.createFromText kind text h).newest
  | createFrom location => (r.createFrom kind location h).newest
  | createFromUrl url => (r.createFromUrl kind url h).newest
  | add n => (r.add n h).answer.toOption.map fun name => (name, n)
  | reload order =>
    ((r.destroyEach kind order h).andThen fun _ r h => r.createFromSettings kind h).newest
  | reloadUpdated order => (r.reloadUpdatedInOrder kind order h).newest
  | _ => none

/-- A registry without what it lists and remembers. -/
def bare (r : Registry ω) : Registry ω := { r with listed := [], locations := [] }

/-- A registry is left as another one, but that it may list less. -/
structure Within (left r : Registry ω) : Prop where
  bare : left.bare = r.bare
  listed : ∀ {name}, left.lists name = true → r.lists name = true

/-- A registry is left as it was but for what it lists and remembers. All that it lists it listed
before, or has admitted. What was admitted has the name that it was admitted under, and if it was
not among the handles that were known then, it was made from a text. -/
structure Accounted (kind : AdapterKind ω A) (known : Nat) (admission : Option (ObjectName × Nat))
    (r : Registry ω) (left : Registry ω × Host ω A) : Prop where
  bare : left.1.bare = r.bare
  listed : ∀ {name}, left.1.lists name = true →
    r.lists name = true ∨ ∃ n, admission = some (name, n)
  admitted : ∀ {name n}, admission = some (name, n) →
    ∃ handle, left.2.handles[n]? = some handle ∧ handle.name = name ∧
      (known ≤ n → ∃ text, r.prepare kind text = .ok handle)

end Registry

/-- A creation, or what ends with one, lists what it admits, and admits what it makes. -/
def Reply.Accounts (kind : AdapterKind ω A) (reply : Reply ω A ObjectName) (r : Registry ω) :
    Prop :=
  Registry.Accounted kind 0 reply.newest r reply.left

namespace Registry

variable {kind : AdapterKind ω A} {r left : Registry ω} {h : Host ω A} {known : Nat}

/-- What a registry lists and remembers has no influence on what it prepares. -/
theorem prepare_congr (same : left.bare = r.bare) (kind : AdapterKind ω A) (text : String) :
    left.prepare kind text = r.prepare kind text := by
  change left.bare.prepare kind text = r.bare.prepare kind text
  rw [same]

theorem bare_enlisted (r : Registry ω) (name : ObjectName) (location : Option Config.Location) :
    (r.enlisted name location).bare = r.bare := by
  cases location <;> rfl

theorem Within.refl (r : Registry ω) : r.Within r := ⟨rfl, id⟩

theorem Within.trans {first second third : Registry ω} (inner : first.Within second)
    (outer : second.Within third) : first.Within third :=
  ⟨inner.bare.trans outer.bare, fun isListed => outer.listed (inner.listed isListed)⟩

/-- Where no more is listed than before, nothing has to be admitted. -/
theorem Within.accounted {host : Host ω A} (within : left.Within r) :
    Accounted kind known none r (left, host) :=
  ⟨within.bare, fun isListed => Or.inl (within.listed isListed), nofun⟩

/-- A handle is admitted under its name. -/
theorem Accounted.enlisted {host : Host ω A} {n : Nat} {handle : Handle A}
    (found : host.handles[n]? = some handle)
    (made : known ≤ n → ∃ text, r.prepare kind text = .ok handle)
    (location : Option Config.Location) :
    Accounted kind known (some (handle.name, n)) r (r.enlisted handle.name location, host) := by
  refine ⟨bare_enlisted r handle.name location, ?_, ?_⟩
  · intro other isListed
    rw [lists_enlisted] at isListed
    split at isListed
    · rename_i same
      exact Or.inr ⟨n, by rw [same]⟩
    · exact Or.inl isListed
  · intro other m admitted
    cases admitted
    exact ⟨handle, found, rfl, made⟩

theorem Accounted.own {admission : Option (ObjectName × Nat)} {left : Registry ω × Host ω A}
    (accounted : Accounted kind known admission r left) {name : ObjectName} {n : Nat}
    (admitted : admission = some (name, n)) : left.2.name? n = some name := by
  obtain ⟨handle, found, own, _⟩ := accounted.admitted admitted
  exact Host.name?_eq_some_iff.mpr ⟨handle, found, own⟩

theorem create_accounts (kind : AdapterKind ω A) (text : String)
    (location : Option Config.Location) (r : Registry ω) (h : Host ω A) :
    (r.create kind text location h).Accounts kind r := by
  rcases create_cases kind text location r h with
    ⟨error, refused⟩ | ⟨handle, server, prepared, _, _, created⟩
  · rw [refused]
    exact (Within.refl r).accounted
  · have newest_eq : (r.create kind text location h).newest =
        some (handle.name, h.handles.length) := by
      rw [created]
      simp [Reply.newest, Except.toOption, Host.addHandle, Host.setServer]
    have found : ((h.addHandle handle).2.setServer r.server server).handles[h.handles.length]? =
        some handle :=
      h.handle_addHandle handle
    rw [Reply.Accounts, newest_eq, created]
    exact .enlisted found (fun _ => ⟨text, prepared⟩) location

theorem createFrom_accounts (kind : AdapterKind ω A) (location : Config.Location)
    (r : Registry ω) (h : Host ω A) : (r.createFrom kind location h).Accounts kind r := by
  unfold createFrom
  cases r.collaborators.transport.read location h.world with
  | error error => exact (Within.refl r).accounted
  | ok text => exact create_accounts kind text (some location) r h

theorem createFromUrl_accounts (kind : AdapterKind ω A) (url : String) (r : Registry ω)
    (h : Host ω A) : (r.createFromUrl kind url h).Accounts kind r := by
  unfold createFromUrl
  cases Config.Location.ofText url with
  | error error => exact (Within.refl r).accounted
  | ok location => exact createFrom_accounts kind location r h

theorem createFromSettings_accounts (kind : AdapterKind ω A) (r : Registry ω) (h : Host ω A) :
    (r.createFromSettings kind h).Accounts kind r := by
  unfold createFromSettings
  cases r.settings.adapterLocation with
  | error error => exact (Within.refl r).accounted
  | ok url => exact createFromUrl_accounts kind url r h

/-- A handle that is added was known before. -/
theorem add_accounted (kind : AdapterKind ω A) (n : Nat) (r : Registry ω) (h : Host ω A) :
    Accounted kind h.handles.length ((r.add n h).answer.toOption.map fun name => (name, n)) r
      (r.add n h).left := by
  rcases add_cases n r h with
    ⟨error, refused⟩ | ⟨handle, found, _, _, ⟨_, added⟩ | ⟨server, _, added⟩⟩
  · rw [refused]
    exact (Within.refl r).accounted
  · rw [added]
    refine .enlisted found (fun unknown => ?_) none
    exact absurd (List.getElem?_eq_some_iff.mp found).1 (Nat.not_lt.mpr unknown)
  · have kept : (h.setServer r.server server).handles[n]? = some handle := found
    rw [added]
    refine .enlisted kept (fun unknown => ?_) none
    exact absurd (List.getElem?_eq_some_iff.mp found).1 (Nat.not_lt.mpr unknown)

/-! ## Destructions -/

theorem forget_within (r : Registry ω) (name : ObjectName) : (r.forget name).Within r := by
  refine ⟨rfl, fun isListed => ?_⟩
  rw [lists_forget] at isListed
  split at isListed
  · cases isListed
  · exact isListed

theorem destroy_within (kind : AdapterKind ω A) (n : Nat) (r : Registry ω) (h : Host ω A) :
    (r.destroy kind n h).registry.Within r := by
  rcases destroy_cases kind n r h with ⟨error, refused⟩ | ⟨handle, _, _, _, destroyed⟩
  · rw [refused]
    exact .refl r
  · rw [destroyed]
    exact forget_within r handle.name

theorem destroyNamed_within (kind : AdapterKind ω A) (name : ObjectName) (r : Registry ω)
    (h : Host ω A) : (r.destroyNamed kind name h).registry.Within r := by
  unfold destroyNamed
  cases h.find r.server name with
  | error error => exact forget_within r name
  | ok n => exact destroy_within kind n r h

theorem destroyEach_within (kind : AdapterKind ω A) (names : List ObjectName) (r : Registry ω)
    (h : Host ω A) : (r.destroyEach kind names h).registry.Within r := by
  induction names generalizing r h with
  | nil => exact .refl r
  | cons name rest ih =>
      have first := destroyNamed_within kind name r h
      unfold destroyEach
      dsimp only
      split
      · exact (ih _ _).trans first
      · exact (ih _ _).trans first
      · exact first

/-! ## Actions -/

/-- An operation that admits nothing may be followed by one that does. -/
theorem andThen_accounts {α : Type} {first : Reply ω A α}
    {next : α → Registry ω → Host ω A → Reply ω A ObjectName} (within : first.registry.Within r)
    (following : ∀ a r h, (next a r h).Accounts kind r) :
    (first.andThen next).Accounts kind r := by
  unfold Reply.andThen
  cases first.answer with
  | error error => exact within.accounted
  | ok a =>
      have accounted := following a first.registry first.host
      refine ⟨accounted.bare.trans within.bare,
        fun isListed => (accounted.listed isListed).imp_left within.listed, fun admits => ?_⟩
      obtain ⟨handle, found, own, made⟩ := accounted.admitted admits
      refine ⟨handle, found, own, fun unknown => ?_⟩
      obtain ⟨text, prepared⟩ := made unknown
      exact ⟨text, (prepare_congr within.bare kind text).symm.trans prepared⟩

/-- A reload leaves what its last step does. -/
theorem left_reloadInOrder (kind : AdapterKind ω A) (order : List ObjectName) (r : Registry ω)
    (h : Host ω A) :
    (r.reloadInOrder kind order h).left =
      ((r.destroyEach kind order h).andThen fun _ r h => r.createFromSettings kind h).left := by
  unfold reloadInOrder Reply.andThen
  cases (r.destroyEach kind order h).answer <;> rfl

theorem reloadUpdatedInOrder_accounts (kind : AdapterKind ω A) (order : List ObjectName)
    (r : Registry ω) (h : Host ω A) : (r.reloadUpdatedInOrder kind order h).Accounts kind r := by
  unfold reloadUpdatedInOrder
  cases r.versionControl with
  | none => exact (Within.refl r).accounted
  | some versionControl =>
      refine andThen_accounts ?_ fun _ r h => createFromSettings_accounts kind r h
      have within := destroyEach_within kind order r h
      unfold Reply.andThen
      cases (r.destroyEach kind order h).answer with
      | error error => exact within
      | ok _ => exact within

/-- What is made by a creation was not known before. -/
theorem Accounted.all {admission : Option (ObjectName × Nat)} {left : Registry ω × Host ω A}
    (accounted : Accounted kind 0 admission r left) (known : Nat) :
    Accounted kind known admission r left := by
  refine ⟨accounted.bare, accounted.listed, fun admits => ?_⟩
  obtain ⟨handle, found, own, made⟩ := accounted.admitted admits
  exact ⟨handle, found, own, fun _ => made (Nat.zero_le _)⟩

/-- Every action of a registry accounts for what it admits and lists. -/
theorem Action.accounted (kind : AdapterKind ω A) (r : Registry ω) (h : Host ω A)
    (action : Action) :
    Accounted kind h.handles.length (action.admission kind r h) r (action.run kind r h) := by
  cases action with
  | createFromText text => exact (create_accounts kind text none r h).all _
  | createFrom location => exact (createFrom_accounts kind location r h).all _
  | createFromUrl url =>
      dsimp only [admission, run]
      exact (createFromUrl_accounts kind url r h).all _
  | add n => exact add_accounted kind n r h
  | destroy n => exact (destroy_within kind n r h).accounted
  | destroyNamed name => exact (destroyNamed_within kind name r h).accounted
  | reload order =>
      have accounts := andThen_accounts (destroyEach_within kind order r h)
        fun _ r h => createFromSettings_accounts kind r h
      dsimp only [admission, run]
      rw [left_reloadInOrder]
      exact Accounted.all accounts _
  | reloadUpdated order => exact (reloadUpdatedInOrder_accounts kind order r h).all _
  | makeHandle d => exact (Within.refl r).accounted
  | persist data location => exact (Within.refl r).accounted
  | persistHandle n location => exact (Within.refl r).accounted
  | persistNamed name location => exact (Within.refl r).accounted
  | registerSelf => exact (Within.refl r).accounted
  | unregisterSelf => exact (Within.refl r).accounted
  | request event n => exact (Within.refl r).accounted

end Registry

/-! ## Rolls -/

namespace Fleet

variable {kind : AdapterKind ω A} {f : Fleet ω A}

/-- The registry of an index after a change was there before, or is what the change left. -/
theorem change_cases {i j : Nat} {next : Registry ω → Host ω A → Registry ω × Host ω A}
    {left : Registry ω} (found : (f.change i next).registries[j]? = some left) :
    f.registries[j]? = some left ∨
      ∃ r, f.registries[i]? = some r ∧ j = i ∧ left = (next r f.host).1 := by
  unfold change at found
  cases isRegistry : f.registries[i]? with
  | none =>
      rw [isRegistry] at found
      exact Or.inl found
  | some r =>
      rw [isRegistry] at found
      dsimp only at found
      by_cases here : j = i
      · subst here
        rw [List.getElem?_set_self (List.getElem?_eq_some_iff.mp isRegistry).1] at found
        cases found
        exact Or.inr ⟨r, rfl, rfl, rfl⟩
      · rw [List.getElem?_set_ne (Ne.symm here)] at found
        exact Or.inl found

/-- Whatever happens to registries, each stays what it was built as. -/
theorem step_bare (action : Action) {i : Nat} {left : Registry ω}
    (found : (f.step kind action).registries[i]? = some left) :
    ∃ r, f.registries[i]? = some r ∧ left.bare = r.bare := by
  have changed {j : Nat} {next : Registry ω → Host ω A → Registry ω × Host ω A}
      (bare : ∀ r, (next r f.host).1.bare = r.bare)
      (found : (f.change j next).registries[i]? = some left) :
      ∃ r, f.registries[i]? = some r ∧ left.bare = r.bare := by
    rcases change_cases found with before | ⟨r, isRegistry, rfl, rfl⟩
    · exact ⟨left, before, rfl⟩
    · exact ⟨r, isRegistry, bare r⟩
  cases action with
  | act j action => exact changed (fun r => (action.accounted kind r f.host).bare) found
  | putLocation j name location =>
      refine changed (fun r => ?_) found
      cases location <;> rfl
  | removeLocation j name => exact changed (fun _ => rfl) found
  | registerHandle s n => exact ⟨left, found, rfl⟩
  | registerStranger s name stranger => exact ⟨left, found, rfl⟩
  | unregister s name => exact ⟨left, found, rfl⟩

theorem run_bare (actions : List Action) {i : Nat} {left : Registry ω}
    (found : (f.run kind actions).registries[i]? = some left) :
    ∃ r, f.registries[i]? = some r ∧ left.bare = r.bare := by
  induction actions generalizing f with
  | nil => exact ⟨left, found, rfl⟩
  | cons first rest ih =>
      obtain ⟨between, isRegistry, same⟩ := ih found
      obtain ⟨r, before, bare⟩ := step_bare first isRegistry
      exact ⟨r, before, same.trans bare⟩

/-- Registries on a host, and the handle that each of them has admitted last under each name. -/
structure Roll (ω A : Type) where
  fleet : Fleet ω A
  admitted : Nat → ObjectName → Option Nat

namespace Roll

/-- Registries that have admitted nothing. -/
def start (registries : List (Registry ω)) (world : ω) : Roll ω A :=
  ⟨.start registries world, fun _ _ => none⟩

/-- What is admitted by the registry of an index takes the place of what was admitted before. -/
def note (i : Nat) (admitted : Nat → ObjectName → Option Nat) :
    Option (ObjectName × Nat) → Nat → ObjectName → Option Nat
  | none => admitted
  | some (name, n) => Function.update admitted i (Function.update (admitted i) name (some n))

/-- Do an action, and note down what it admits. -/
def step (kind : AdapterKind ω A) (l : Roll ω A) (action : Action) : Roll ω A :=
  ⟨l.fleet.step kind action,
    match action with
    | .act i action =>
      note i l.admitted (l.fleet.registries[i]?.bind fun r => action.admission kind r l.fleet.host)
    | _ => l.admitted⟩

/-- Do actions one after the other. -/
def run (kind : AdapterKind ω A) (l : Roll ω A) (actions : List Action) : Roll ω A :=
  actions.foldl (step kind) l

/-- What a registry lists it has admitted, and what was admitted has its name. -/
structure Complete (l : Roll ω A) : Prop where
  listed : ∀ {i r name}, l.fleet.registries[i]? = some r → r.lists name = true →
    ∃ n, l.admitted i name = some n
  own : ∀ {i name n}, l.admitted i name = some n → l.fleet.host.name? n = some name

variable {l : Roll ω A}

section

variable {admitted : Nat → ObjectName → Option Nat} {admission : Option (ObjectName × Nat)}
  {i j n : Nat} {name : ObjectName}

/-- What is noted down was so before, or has just been admitted. -/
theorem note_cases (noted : note i admitted admission j name = some n) :
    admitted j name = some n ∨ j = i ∧ admission = some (name, n) := by
  cases admission with
  | none => exact Or.inl noted
  | some entry =>
      rcases entry with ⟨other, m⟩
      rw [note] at noted
      by_cases here : j = i
      · subst here
        rw [Function.update_self] at noted
        by_cases same : name = other
        · subst same
          rw [Function.update_self] at noted
          cases noted
          exact Or.inr ⟨rfl, rfl⟩
        · rw [Function.update_of_ne same] at noted
          exact Or.inl noted
      · rw [Function.update_of_ne here] at noted
        exact Or.inl noted

/-- Under a name that something was noted down under, something is. -/
theorem exists_note (known : admitted j name = some n) (i : Nat)
    (admission : Option (ObjectName × Nat)) : ∃ m, note i admitted admission j name = some m := by
  cases admission with
  | none => exact ⟨n, known⟩
  | some entry =>
      rcases entry with ⟨other, m⟩
      rw [note]
      by_cases here : j = i
      · subst here
        rw [Function.update_self]
        by_cases same : name = other
        · subst same
          exact ⟨m, Function.update_self ..⟩
        · rw [Function.update_of_ne same]
          exact ⟨n, known⟩
      · rw [Function.update_of_ne here]
        exact ⟨n, known⟩

theorem note_self (i : Nat) (admitted : Nat → ObjectName → Option Nat) (name : ObjectName)
    (n : Nat) : note i admitted (some (name, n)) i name = some n := by
  rw [note, Function.update_self, Function.update_self]

end

variable (kind) in
/-- Registries that are changed without listing more names have still admitted all they list. -/
theorem Complete.change (complete : l.Complete) (i : Nat)
    {next : Registry ω → Host ω A → Registry ω × Host ω A}
    (moves : ∀ r, Host.Reaches kind l.fleet.host (next r l.fleet.host).2)
    (listed : ∀ r name, (next r l.fleet.host).1.lists name = r.lists name) :
    (⟨l.fleet.change i next, l.admitted⟩ : Roll ω A).Complete := by
  constructor
  · intro j left name found isListed
    rcases change_cases found with before | ⟨r, isRegistry, rfl, rfl⟩
    · exact complete.listed before isListed
    · rw [listed] at isListed
      exact complete.listed isRegistry isListed
  · intro j name n noted
    exact (change_reaches moves i).name? (complete.own noted)

variable (kind) in
/-- Whatever becomes of the host past all registries, they have still admitted all they list. -/
theorem Complete.moved (complete : l.Complete) {host : Host ω A}
    (reaches : Host.Reaches kind l.fleet.host host) :
    (⟨{ l.fleet with host }, l.admitted⟩ : Roll ω A).Complete :=
  ⟨complete.listed, fun noted => reaches.name? (complete.own noted)⟩

/-- What an action of a registry lists is noted down. -/
theorem Complete.act (complete : l.Complete) (i : Nat) (action : Registry.Action) :
    (l.step kind (.act i action)).Complete := by
  constructor
  · intro j left name found isListed
    dsimp only [Roll.step]
    rcases change_cases found with before | ⟨r, isRegistry, rfl, rfl⟩
    · obtain ⟨n, known⟩ := complete.listed before isListed
      exact exists_note known i _
    · rw [isRegistry, Option.bind_some]
      rcases (action.accounted kind r l.fleet.host).listed isListed with wasListed | ⟨n, admits⟩
      · obtain ⟨n, known⟩ := complete.listed isRegistry wasListed
        exact exists_note known j _
      · rw [admits]
        exact ⟨n, note_self ..⟩
  · intro j name n noted
    rcases note_cases noted with before | ⟨_, admits⟩
    · exact (step_reaches l.fleet (.act i action)).name? (complete.own before)
    · obtain ⟨r, isRegistry, admitted⟩ := Option.bind_eq_some_iff.mp admits
      have own := (action.accounted kind r l.fleet.host).own admitted
      dsimp only [Roll.step, Fleet.step, Fleet.change]
      rw [isRegistry]
      exact own

/-- Every action keeps the roll complete. -/
theorem Complete.step (complete : l.Complete) (action : Action) :
    (l.step kind action).Complete := by
  cases action with
  | act i action => exact complete.act i action
  | putLocation i name location =>
      refine complete.change kind i (fun _ => .refl) ?_
      intro r other
      cases location <;> rfl
  | removeLocation i name => exact complete.change kind i (fun _ => .refl) fun _ _ => rfl
  | registerHandle s n => exact complete.moved kind (Host.registerHandle_reaches _ s n)
  | registerStranger s name stranger =>
      exact complete.moved kind (Host.registerStranger_reaches _ s name stranger)
  | unregister s name => exact complete.moved kind (Host.Move.unregister _ s name).reaches

/-- A whole run does. -/
theorem Complete.run (complete : l.Complete) (actions : List Action) :
    (l.run kind actions).Complete := by
  induction actions generalizing l with
  | nil => exact complete
  | cons first rest ih => exact ih (complete.step first)

theorem complete_start {registries : List (Registry ω)} (new : ∀ r ∈ registries, r.listed = [])
    (world : ω) : (start registries world : Roll ω A).Complete := by
  constructor
  · intro i r name found isListed
    have member : r ∈ registries := List.mem_of_getElem? found
    rw [Registry.lists, new r member] at isListed
    cases isListed
  · intro i name n noted
    cases noted

end Roll

end Fleet

end IntegrationHost
