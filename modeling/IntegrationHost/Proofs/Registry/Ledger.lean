import IntegrationHost.Proofs.Registry.Operations
import IntegrationHost.Rehearsal.Programs

/-!
# Runs of a registry

What happens to a registry is a sequence of actions, each of which may fail, and fail anywhere on
its way. Beside the registry and the host, a ledger keeps from which location the adapter of each
handle was created: an action that makes handles reads one location, or none.
-/

namespace IntegrationHost.Registry

open Lifecycle

variable {ω A : Type}

/-! ## Actions -/

/-- What can be done with a registry and with the handles of adapters, as long as nobody reaches
past the registry to its server. -/
inductive Action where
  /-- Make a handle that no registry knows of. -/
  | makeHandle (d : AdapterDefinition)
  | createFromText (text : String)
  | createFrom (location : Config.Location)
  | createFromUrl (url : String)
  | add (n : Nat)
  | destroy (n : Nat)
  | destroyNamed (name : ObjectName)
  /-- Reload, destroying adapters in an order. -/
  | reload (order : List ObjectName)
  | reloadUpdated (order : List ObjectName)
  | persist (data : String) (location : Config.Location)
  | persistHandle (n : Nat) (location : Config.Location)
  | persistNamed (name : ObjectName) (location : Config.Location)
  | registerSelf
  | unregisterSelf
  | request (event : Event) (n : Nat)

namespace Action

/-- What an action leaves, whether it succeeds or fails. -/
def run (kind : AdapterKind ω A) (r : Registry ω) (h : Host ω A) :
    Action → Registry ω × Host ω A
  | makeHandle d => (r, h.makeHandle kind d)
  | createFromText text => (r.createFromText kind text h).left
  | createFrom location => (r.createFrom kind location h).left
  | createFromUrl url => (r.createFromUrl kind url h).left
  | add n => (r.add n h).left
  | destroy n => (r.destroy kind n h).left
  | destroyNamed name => (r.destroyNamed kind name h).left
  | reload order => (r.reloadInOrder kind order h).left
  | reloadUpdated order => (r.reloadUpdatedInOrder kind order h).left
  | persist data location => (r, (r.persist data location h).2)
  | persistHandle n location => (r, (r.persistHandle n location h).2)
  | persistNamed name location => (r, (r.persistNamed name location h).2)
  | registerSelf => (r, (r.registerSelf h).2)
  | unregisterSelf => (r, (h.unregister r.server r.name).2)
  | request event n => (r, (h.request kind event n).2)

/-- The location that an action reads the configuration of new adapters from. -/
def source (settings : Config.Settings) : Action → Option Config.Location
  | createFrom location => some location
  | createFromUrl url => spelt? url
  | reload _ => settled? settings
  | reloadUpdated _ => settled? settings
  | _ => none

end Action

/-- Whatever comes of an action, the registry, its server and the handles agree afterwards. -/
theorem Consistent.action {r : Registry ω} {h : Host ω A} {origin : Nat → Option Config.Location}
    (consistent : r.Consistent origin h) (kind : AdapterKind ω A) (action : Action) :
    (action.run kind r h).1.Consistent
      (extended h.handles.length (action.source r.settings) origin) (action.run kind r h).2 := by
  have kept := consistent.traced none
  cases action with
  | makeHandle d => exact consistent.makeHandle kind d
  | createFromText text => exact consistent.create_grown kind text none
  | createFrom location => exact consistent.createFrom_grown kind location
  | createFromUrl url =>
      dsimp only [Action.run, Action.source, Reply.left]
      exact consistent.createFromUrl_grown kind url
  | add n => exact (kept.add_settled n).consistent
  | destroy n => exact (kept.destroy_settled kind n).consistent
  | destroyNamed name => exact (kept.destroyNamed_settled kind name).consistent
  | reload order => exact consistent.reloadInOrder_grown kind order
  | reloadUpdated order => exact consistent.reloadUpdatedInOrder_grown kind order
  | persist data location => exact kept.withWorld _
  | persistHandle n location => exact kept.persistHandle n location
  | persistNamed name location => exact kept.persistNamed name location
  | registerSelf => exact kept.registerSelf
  | unregisterSelf => exact kept.unregisterSelf
  | request event n => exact kept.request kind event n

/-! ## Ledgers -/

/-- A registry, its host, and from which location the adapter of each handle was created. -/
structure Ledger (ω A : Type) where
  registry : Registry ω
  host : Host ω A
  origin : Nat → Option Config.Location

namespace Ledger

/-- A registry on a host without adapters. -/
def start (r : Registry ω) (world : ω) : Ledger ω A := ⟨r, .new world, fun _ => none⟩

/-- Do an action, and note down the source of the handles that it makes. -/
def step (kind : AdapterKind ω A) (l : Ledger ω A) (action : Action) : Ledger ω A :=
  let left := action.run kind l.registry l.host
  ⟨left.1, left.2,
    extended l.host.handles.length (action.source l.registry.settings) l.origin⟩

/-- Do actions one after the other. -/
def run (kind : AdapterKind ω A) (l : Ledger ω A) (actions : List Action) : Ledger ω A :=
  actions.foldl (step kind) l

/-- The registry, the server and the handles of a ledger agree. -/
def Consistent (l : Ledger ω A) : Prop := l.registry.Consistent l.origin l.host

variable {kind : AdapterKind ω A} {l : Ledger ω A}

theorem Consistent.step (consistent : l.Consistent) (action : Action) :
    (l.step kind action).Consistent :=
  Registry.Consistent.action consistent kind action

/-- A whole run leaves it consistent. -/
theorem Consistent.run (consistent : l.Consistent) (actions : List Action) :
    (l.run kind actions).Consistent := by
  induction actions generalizing l with
  | nil => exact consistent
  | cons first rest ih => exact ih (consistent.step first)

/-! ## What a run leaves -/

variable [Config.RunsPrograms ω] {settings : Config.Settings} {server : Nat}
  {collaborators : Collaborators ω} {r : Registry ω}

/-- A registry that was built has the name of a registry and knows no adapter. -/
theorem build_ok (built : build settings server collaborators = .ok r) :
    r.name.get? ObjectName.typeKey = some "AdapterRegistry" ∧ r.listed = [] ∧
      r.locations = [] := by
  unfold build at built
  cases checked : settings.check with
  | error error =>
      rw [checked] at built
      cases built
  | ok _ =>
      cases named : nameFor settings with
      | error error =>
          rw [checked, named] at built
          cases built
      | ok name =>
          rw [checked, named] at built
          cases built
          refine ⟨?_, rfl, rfl⟩
          unfold nameFor at named
          cases made : ObjectName.registry
              (settings.registryId.getD ObjectName.defaultRegistryId) with
          | error flaw =>
              rw [made] at named
              cases named
          | ok _ =>
              rw [made] at named
              cases named
              exact ObjectName.type_of_registry made

theorem Consistent.start (built : build settings server collaborators = .ok r) (world : ω) :
    (Ledger.start r world : Ledger ω A).Consistent := by
  obtain ⟨self, listed_eq, locations_eq⟩ := build_ok built
  constructor
  · exact self
  · intro n name destroyed marked
    cases marked
  · intro name
    constructor
    · intro known
      cases known
    · intro isListed
      simp [Ledger.start, lists, listed_eq] at isListed
    · intro n found
      cases found
    · intro location
      constructor
      · intro located
        simp [Ledger.start, location?, locations_eq] at located
      · rintro ⟨n, found, _⟩
        cases found
  · intro n name marked
    cases marked

/-- However a registry is used, after each action it lists a name if and only if an adapter is on
its server by that name, which is the adapter's own, and that adapter was not destroyed. It
remembers a location for a name if and only if it lists the name, and the adapter on the server was
created from that location. -/
theorem lists_iff_and_located_iff (built : build settings server collaborators = .ok r)
    (kind : AdapterKind ω A) (world : ω) (actions : List Action) :
    let left := (Ledger.start r world).run kind actions
    let bean? := (left.host.servers left.registry.server).adapter?
    (∀ name, left.registry.lists name = true ↔
      ∃ n handle, bean? name = some n ∧ left.host.handles[n]? = some handle ∧
        handle.name = name ∧ handle.destroyed = false) ∧
    ∀ name location, left.registry.location? name = some location ↔
      left.registry.lists name = true ∧
        ∃ n, bean? name = some n ∧ left.origin n = some location := by
  intro left bean?
  have consistent : left.registry.Consistent left.origin left.host :=
    (Consistent.start built world).run actions
  constructor
  · intro name
    constructor
    · intro isListed
      obtain ⟨n, found⟩ := consistent.agrees.listed isListed
      obtain ⟨handle, isHandle, own, alive⟩ :=
        Host.mark?_eq_some_iff.mp (consistent.agrees.current found).2
      exact ⟨n, handle, found, isHandle, own, alive⟩
    · rintro ⟨n, _, found, _⟩
      exact (consistent.agrees.current found).1
  · intro name location
    rw [consistent.agrees.located]
    constructor
    · rintro ⟨n, found, created⟩
      exact ⟨(consistent.agrees.current found).1, n, found, created⟩
    · rintro ⟨_, created⟩
      exact created

/-- A registry whose adapters have no channels and are configured by their bare ids. -/
def ofIds : Collaborators Rehearsal.Stage :=
  ⟨Rehearsal.Stage.memoryTransport none none, fun _ => .ok [],
    ⟨AdapterDefinition.id, fun id => .ok ⟨some id, []⟩⟩, AdapterDefinition.broken, none⟩

/-- An adapter is created from a location, started, destroyed and created again; then its name is
taken, and another location holds nothing. -/
theorem lists_and_located_created_twice :
    let location := Config.Location.url "memory://a"
    let stage := (default : Rehearsal.Stage).keep location "a"
    let actions : List Action :=
      [.createFrom location, .request .start 0, .destroy 0, .createFromUrl "memory://a",
        .createFromText "a", .createFrom (.url "memory://b")]
    ∃ r, build .default 0 ofIds = .ok r ∧
      let left := (Ledger.start r stage).run (LiveAdapter.kind _) actions
      let bean? := (left.host.servers left.registry.server).adapter?
      (∃ name, ObjectName.adapter "a" = .ok name ∧ left.registry.listed = [name] ∧
        bean? name = some 1 ∧ left.registry.location? name = some location) ∧
      (∀ name, left.registry.lists name = true ↔
        ∃ n handle, bean? name = some n ∧ left.host.handles[n]? = some handle ∧
          handle.name = name ∧ handle.destroyed = false) ∧
      ∀ name location, left.registry.location? name = some location ↔
        left.registry.lists name = true ∧
          ∃ n, bean? name = some n ∧ left.origin n = some location := by
  intro location stage actions
  have built : build .default 0 ofIds = .ok ⟨.default, 0,
      ⟨ObjectName.hostDomain,
        .ofList [("type", "AdapterRegistry"), ("id", ObjectName.defaultRegistryId)], by decide⟩,
      ofIds, none, [], []⟩ := by
    rfl
  refine ⟨_, built, ?_, lists_iff_and_located_iff built (LiveAdapter.kind _) stage actions⟩
  exact ⟨⟨ObjectName.hostDomain, .ofList [("type", "Adapter"), ("id", "a")], by decide⟩,
    by rfl, by decide, by decide, by decide⟩

end Ledger

end IntegrationHost.Registry
