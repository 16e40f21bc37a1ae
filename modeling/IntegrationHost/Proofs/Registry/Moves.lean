import IntegrationHost.Proofs.Registry.Destruction
import IntegrationHost.Proofs.Registry.Ledger
import Mathlib.Logic.Relation

/-!
# Moves of a host

Whatever registries do with a host, they do by a few moves: keep a handle, send a request, claim an
adapter, put something on a server or take it off, and let strangers and the surroundings change.
What every move keeps is kept by every operation. A handle keeps its name for ever, and an adapter
is on a server under its own name only.
-/

namespace IntegrationHost

open Lifecycle

variable {ω A : Type}

namespace Host

/-! ## Names of handles -/

/-- The name of a handle. -/
def name? (h : Host ω A) (n : Nat) : Option ObjectName :=
  (h.mark? n).map Prod.fst

variable {h host : Host ω A} {n : Nat} {name : ObjectName} {handle : Handle A}

theorem name?_eq_some_iff :
    h.name? n = some name ↔ ∃ handle, h.handles[n]? = some handle ∧ handle.name = name := by
  simp [name?, mark?, Option.map_map, Option.map_eq_some_iff]

theorem name?_of_found (found : h.handles[n]? = some handle) : h.name? n = some handle.name :=
  name?_eq_some_iff.mpr ⟨handle, found, rfl⟩

theorem name?_setHandle (found : h.handles[n]? = some handle) (changed : Handle A)
    (same : changed.name = handle.name) (m : Nat) :
    (h.setHandle n changed).name? m = h.name? m := by
  unfold name?
  rw [mark?_setHandle found]
  by_cases isThis : m = n
  · rw [if_pos isThis, isThis, mark?, found]
    exact congrArg some same
  · rw [if_neg isThis]

theorem name?_claim (h : Host ω A) (n m : Nat) : (h.claim n).2.name? m = h.name? m := by
  unfold claim
  cases found : h.handles[n]? with
  | none => rfl
  | some handle =>
      dsimp only
      split
      · rfl
      · exact name?_setHandle found { handle with destroyed := true } rfl m

theorem name?_request (kind : AdapterKind ω A) (event : Event) (n : Nat) (h : Host ω A) (m : Nat) :
    (h.request kind event n).2.name? m = h.name? m :=
  congrArg (Option.map Prod.fst) (mark?_request kind event n h m)

theorem name?_addHandle (known : h.name? n = some name) (handle : Handle A) :
    (h.addHandle handle).2.name? n = some name := by
  obtain ⟨mark, marked, _⟩ := Option.map_eq_some_iff.mp known
  unfold name?
  rw [mark?_addHandle, if_neg (Nat.ne_of_lt (mark?_lt marked))]
  exact known

/-- Adapters are on servers under their own names. -/
def WellNamed (h : Host ω A) : Prop :=
  ∀ ⦃s name n⦄, (h.servers s).adapter? name = some n → h.name? n = some name

theorem WellNamed.name_eq (named : h.WellNamed) {s : Nat}
    (served : (h.servers s).adapter? name = some n) (found : h.handles[n]? = some handle) :
    handle.name = name :=
  Option.some.inj ((name?_of_found found).symm.trans (named served))

theorem wellNamed_new (world : ω) : (Host.new world : Host ω A).WellNamed := by
  intro s name n found
  cases found

/-! ## Moves -/

/-- A single move. -/
inductive Move (kind : AdapterKind ω A) : Host ω A → Host ω A → Prop where
  /-- Keep the handle of a new adapter. -/
  | keep {h : Host ω A} {d : AdapterDefinition} {handle : Handle A}
      (made : Handle.new kind d = .ok handle) : Move kind h (h.addHandle handle).2
  | request (h : Host ω A) (event : Event) (n : Nat) : Move kind h (h.request kind event n).2
  | claim (h : Host ω A) (n : Nat) : Move kind h (h.claim n).2
  /-- Put an adapter on a server, under its own name. -/
  | serve {h : Host ω A} {s n : Nat} {handle : Handle A} {server : Management.Server}
      (found : h.handles[n]? = some handle)
      (registered : (h.servers s).register handle.name (.adapter n) = .ok server) :
      Move kind h (h.setServer s server)
  /-- Put something else on a server. -/
  | register {h : Host ω A} {s : Nat} {name : ObjectName} {bean : Management.Bean}
      {server : Management.Server} (other : bean.handle? = none)
      (registered : (h.servers s).register name bean = .ok server) :
      Move kind h (h.setServer s server)
  | unregister (h : Host ω A) (s : Nat) (name : ObjectName) : Move kind h (h.unregister s name).2
  | estrange (h : Host ω A) (strangers : Nat → ObjectName → Management.Stranger) :
      Move kind h { h with strangers }
  | pass (h : Host ω A) (world : ω) : Move kind h { h with world }

/-- Any number of moves, one after the other. -/
def Reaches (kind : AdapterKind ω A) : Host ω A → Host ω A → Prop :=
  Relation.ReflTransGen (Move kind)

variable {kind : AdapterKind ω A}

theorem Move.reaches (move : Move kind h host) : Reaches kind h host :=
  Relation.ReflTransGen.single move

/-- A handle keeps its name. -/
theorem Move.name? (move : Move kind h host) (known : h.name? n = some name) :
    host.name? n = some name := by
  cases move with
  | keep _ => exact name?_addHandle known _
  | request event m => exact (name?_request kind event m h n).trans known
  | claim m => exact (name?_claim h m n).trans known
  | serve _ _ => exact known
  | register _ _ => exact known
  | unregister _ _ => exact known
  | estrange _ => exact known
  | pass _ => exact known

theorem Reaches.name? (reaches : Reaches kind h host) (known : h.name? n = some name) :
    host.name? n = some name := by
  induction reaches with
  | refl => exact known
  | tail _ move ih => exact move.name? ih

/-- A handle keeps its definition as well. -/
theorem Move.kept (move : Move kind h host) (found : h.handles[n]? = some handle) :
    ∃ later, host.handles[n]? = some later ∧ later.name = handle.name ∧
      later.definition = handle.definition := by
  have within : n < h.handles.length := (List.getElem?_eq_some_iff.mp found).1
  cases move with
  | keep _ => exact ⟨handle, (List.getElem?_append_left within).trans found, rfl, rfl⟩
  | request event m =>
      by_cases same : n = m
      · subst same
        exact ⟨_, handle_request found kind event, rfl, rfl⟩
      · exact ⟨handle, (handle_request_of_ne same kind event h).trans found, rfl, rfl⟩
  | claim m =>
      unfold Host.claim
      cases claimed : h.handles[m]? with
      | none => exact ⟨handle, found, rfl, rfl⟩
      | some other =>
          dsimp only
          split
          · exact ⟨handle, found, rfl, rfl⟩
          · by_cases same : n = m
            · subst same
              cases found.symm.trans claimed
              exact ⟨_, handle_setHandle found _, rfl, rfl⟩
            · exact ⟨handle, (List.getElem?_set_ne (Ne.symm same)).trans found, rfl, rfl⟩
  | serve _ _ => exact ⟨handle, found, rfl, rfl⟩
  | register _ _ => exact ⟨handle, found, rfl, rfl⟩
  | unregister _ _ => exact ⟨handle, found, rfl, rfl⟩
  | estrange _ => exact ⟨handle, found, rfl, rfl⟩
  | pass _ => exact ⟨handle, found, rfl, rfl⟩

theorem Reaches.kept (reaches : Reaches kind h host) (found : h.handles[n]? = some handle) :
    ∃ later, host.handles[n]? = some later ∧ later.name = handle.name ∧
      later.definition = handle.definition := by
  induction reaches with
  | refl => exact ⟨handle, found, rfl, rfl⟩
  | tail _ move ih =>
      obtain ⟨between, kept, name_eq, definition_eq⟩ := ih
      obtain ⟨later, found, name_eq', definition_eq'⟩ := move.kept kept
      exact ⟨later, found, name_eq'.trans name_eq, definition_eq'.trans definition_eq⟩

theorem servers_setServer (h : Host ω A) (s : Nat) (server : Management.Server) (t : Nat) :
    (h.setServer s server).servers t = if t = s then server else h.servers t :=
  rfl

theorem servers_claim (h : Host ω A) (n : Nat) : (h.claim n).2.servers = h.servers := by
  unfold Host.claim
  cases h.handles[n]? with
  | none => rfl
  | some handle => cases isDestroyed : handle.destroyed <;> simp [isDestroyed, setHandle]

/-- What is on the servers after a move was there before, or was just put there under its name. -/
theorem Move.adapter? (move : Move kind h host) {s : Nat}
    (served : (host.servers s).adapter? name = some n) :
    (h.servers s).adapter? name = some n ∨ h.name? n = some name := by
  cases move with
  | keep _ => exact Or.inl served
  | request event m =>
      rw [servers_request] at served
      exact Or.inl served
  | claim m =>
      rw [servers_claim] at served
      exact Or.inl served
  | @serve t m handle server found registered =>
      by_cases here : s = t
      · rw [servers_setServer, if_pos here, Management.Server.adapter?_register registered]
          at served
        split at served
        · rename_i same
          cases served
          exact Or.inr (same ▸ name?_of_found found)
        · rw [here]
          exact Or.inl served
      · rw [servers_setServer, if_neg here] at served
        exact Or.inl served
  | @register t other bean server notAdapter registered =>
      by_cases here : s = t
      · rw [servers_setServer, if_pos here, Management.Server.adapter?_register_bean registered,
          notAdapter] at served
        split at served
        · cases served
        · rw [here]
          exact Or.inl served
      · rw [servers_setServer, if_neg here] at served
        exact Or.inl served
  | unregister t other =>
      by_cases here : s = t
      · rw [Host.unregister, servers_setServer, if_pos here,
          Management.Server.adapter?_unregister] at served
        split at served
        · cases served
        · rw [here]
          exact Or.inl served
      · rw [Host.unregister, servers_setServer, if_neg here] at served
        exact Or.inl served
  | estrange _ => exact Or.inl served
  | pass _ => exact Or.inl served

theorem WellNamed.move (named : h.WellNamed) (move : Move kind h host) : host.WellNamed := by
  intro s name n served
  rcases move.adapter? served with before | new
  · exact move.name? (named before)
  · exact move.name? new

theorem WellNamed.reaches (named : h.WellNamed) (reaches : Reaches kind h host) :
    host.WellNamed := by
  induction reaches with
  | refl => exact named
  | tail _ move ih => exact ih.move move

/-! ## Operations as moves -/

theorem register_reaches (h : Host ω A) (s : Nat) (name : ObjectName) {bean : Management.Bean}
    (other : bean.handle? = none) : Reaches kind h (h.register s name bean).2 := by
  unfold Host.register
  cases registered : (h.servers s).register name bean with
  | error error => exact .refl
  | ok server => exact (Move.register other registered).reaches

theorem registerStranger_reaches (h : Host ω A) (s : Nat) (name : ObjectName)
    (stranger : Management.Stranger) : Reaches kind h (h.registerStranger s name stranger).2 := by
  have registered : Reaches kind h (h.register s name .stranger).2 := register_reaches h s name rfl
  unfold registerStranger
  split
  · rename_i left done
    rw [done] at registered
    exact registered.tail (Move.estrange _ _)
  · exact registered

theorem registerHandle_reaches (h : Host ω A) (s n : Nat) :
    Reaches kind h (h.registerHandle s n).2 := by
  cases found : h.handles[n]? with
  | none =>
      simp only [registerHandle, found]
      exact .refl
  | some handle =>
      rcases registerHandle_cases found s with ⟨error, refused⟩ | ⟨server, registered, done⟩
      · rw [refused]
        exact .refl
      · rw [done]
        exact (Move.serve found registered).reaches

theorem makeHandle_reaches (kind : AdapterKind ω A) (d : AdapterDefinition) (h : Host ω A) :
    Reaches kind h (h.makeHandle kind d) := by
  unfold makeHandle
  cases made : Handle.new kind d with
  | error error => exact .refl
  | ok handle => exact (Move.keep made).reaches

/-- An adapter is torn down by a claim, a request and its removal from the server. -/
theorem tornDown_reaches (kind : AdapterKind ω A) (s : Nat) (found : h.handles[n]? = some handle)
    (alive : handle.destroyed = false) : Reaches kind h (h.tornDown kind s n handle) := by
  have claimed : (h.claim n).2 = h.setHandle n { handle with destroyed := true } := by
    simp [Host.claim, found, alive]
  have first : Reaches kind h (h.claim n).2 := (Move.claim h n).reaches
  rw [claimed] at first
  exact (first.tail (Move.request _ .close n)).tail (Move.unregister _ s handle.name)

end Host

namespace Registry

open Host (Reaches)

variable (kind : AdapterKind ω A) (r : Registry ω) (h : Host ω A)

theorem create_reaches (text : String) (location : Option Config.Location) :
    Reaches kind h (r.create kind text location h).host := by
  rcases create_cases kind text location r h with
    ⟨error, refused⟩ | ⟨handle, server, prepared, _, registered, created⟩
  · rw [refused]
    exact .refl
  · obtain ⟨_, _, _, made⟩ := prepare_ok prepared
    rw [created]
    have kept : Reaches kind h (h.addHandle handle).2 := (Host.Move.keep made).reaches
    exact kept.tail (Host.Move.serve (h.handle_addHandle handle) registered)

theorem createFrom_reaches (location : Config.Location) :
    Reaches kind h (r.createFrom kind location h).host := by
  unfold createFrom
  cases r.collaborators.transport.read location h.world with
  | error error => exact .refl
  | ok text => exact create_reaches kind r h text (some location)

theorem createFromUrl_reaches (url : String) :
    Reaches kind h (r.createFromUrl kind url h).host := by
  unfold createFromUrl
  cases Config.Location.ofText url with
  | error error => exact .refl
  | ok location => exact createFrom_reaches kind r h location

theorem createFromSettings_reaches : Reaches kind h (r.createFromSettings kind h).host := by
  unfold createFromSettings
  cases r.settings.adapterLocation with
  | error error => exact .refl
  | ok url => exact createFromUrl_reaches kind r h url

theorem add_reaches (n : Nat) : Reaches kind h (r.add n h).host := by
  rcases add_cases n r h with
    ⟨error, refused⟩ | ⟨handle, found, _, _, ⟨_, added⟩ | ⟨server, registered, added⟩⟩
  · rw [refused]
    exact .refl
  · rw [added]
    exact .refl
  · rw [added]
    exact (Host.Move.serve found registered).reaches

theorem destroy_reaches (n : Nat) : Reaches kind h (r.destroy kind n h).host := by
  rcases destroy_cases kind n r h with ⟨error, refused⟩ | ⟨handle, found, alive, _, destroyed⟩
  · rw [refused]
    exact .refl
  · rw [destroyed]
    exact Host.tornDown_reaches kind r.server found alive

theorem destroyNamed_reaches (name : ObjectName) :
    Reaches kind h (r.destroyNamed kind name h).host := by
  unfold destroyNamed
  cases h.find r.server name with
  | error error => exact .refl
  | ok n => exact destroy_reaches kind r h n

theorem destroyEach_reaches (names : List ObjectName) :
    Reaches kind h (r.destroyEach kind names h).host := by
  induction names generalizing r h with
  | nil => exact .refl
  | cons name rest ih =>
      have first := destroyNamed_reaches kind r h name
      unfold destroyEach
      dsimp only
      split
      · exact first.trans (ih _ _)
      · exact first.trans (ih _ _)
      · exact first

theorem andThen_reaches {α β : Type} {first : Reply ω A α}
    {next : α → Registry ω → Host ω A → Reply ω A β} (reaches : Reaches kind h first.host)
    (following : ∀ a r h, Reaches kind h (next a r h).host) :
    Reaches kind h (first.andThen next).host := by
  unfold Reply.andThen
  cases first.answer with
  | error error => exact reaches
  | ok a => exact reaches.trans (following a _ _)

theorem reloadInOrder_reaches (order : List ObjectName) :
    Reaches kind h (r.reloadInOrder kind order h).host :=
  andThen_reaches kind h (destroyEach_reaches kind r h order)
    fun _ r h => createFromSettings_reaches kind r h

theorem reloadUpdatedInOrder_reaches (order : List ObjectName) :
    Reaches kind h (r.reloadUpdatedInOrder kind order h).host := by
  unfold reloadUpdatedInOrder
  cases r.versionControl with
  | none => exact .refl
  | some versionControl =>
      apply andThen_reaches
      · apply andThen_reaches kind h (destroyEach_reaches kind r h order)
        intro _ r h
        exact (Host.Move.pass h _).reaches
      · intro _ r h
        exact createFromSettings_reaches kind r h

theorem persistHandle_reaches (n : Nat) (location : Config.Location) :
    Reaches kind h (r.persistHandle n location h).2 := by
  unfold persistHandle
  cases h.handles[n]? with
  | none => exact .refl
  | some handle => exact (Host.Move.pass h _).reaches

theorem persistNamed_reaches (name : ObjectName) (location : Config.Location) :
    Reaches kind h (r.persistNamed name location h).2 := by
  unfold persistNamed
  cases h.find r.server name with
  | error error => exact .refl
  | ok n => exact persistHandle_reaches kind r h n location

/-- Every action on a registry moves the host. -/
theorem Action.reaches (action : Action) : Reaches kind h (action.run kind r h).2 := by
  cases action with
  | makeHandle d => exact Host.makeHandle_reaches kind d h
  | createFromText text => exact create_reaches kind r h text none
  | createFrom location => exact createFrom_reaches kind r h location
  | createFromUrl url =>
      dsimp only [Action.run, Reply.left]
      exact createFromUrl_reaches kind r h url
  | add n => exact add_reaches kind r h n
  | destroy n => exact destroy_reaches kind r h n
  | destroyNamed name => exact destroyNamed_reaches kind r h name
  | reload order => exact reloadInOrder_reaches kind r h order
  | reloadUpdated order => exact reloadUpdatedInOrder_reaches kind r h order
  | persist data location => exact (Host.Move.pass h _).reaches
  | persistHandle n location => exact persistHandle_reaches kind r h n location
  | persistNamed name location => exact persistNamed_reaches kind r h name location
  | registerSelf => exact Host.register_reaches h r.server r.name rfl
  | unregisterSelf => exact (Host.Move.unregister h r.server r.name).reaches
  | request event n => exact (Host.Move.request h event n).reaches

end Registry

end IntegrationHost
