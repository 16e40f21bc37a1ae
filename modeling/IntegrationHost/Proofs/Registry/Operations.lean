import IntegrationHost.Proofs.Registry.Destruction

/-!
# What operations on a registry keep

Each operation of a registry leaves it in agreement with its server and the handles, whether it
succeeds or fails, and at whatever point it fails. An operation that creates adapters creates them
from one location or from none.
-/

namespace IntegrationHost

open Lifecycle

variable {ω A : Type}

/-- The host with the handle of a new adapter, if there can be one. -/
def Host.makeHandle (kind : AdapterKind ω A) (d : AdapterDefinition) (h : Host ω A) : Host ω A :=
  match Handle.new kind d with
  | .ok handle => (h.addHandle handle).2
  | .error _ => h

/-- What an operation leaves, whether it succeeded or failed. -/
def Reply.left {α : Type} (reply : Reply ω A α) : Registry ω × Host ω A :=
  (reply.registry, reply.host)

/-- Where adapters were created from, when those of the first handles are from where they were and
all further ones are from `source`. -/
def Registry.extended (handles : Nat) (source : Option Config.Location)
    (origin : Nat → Option Config.Location) (n : Nat) : Option Config.Location :=
  if n < handles then origin n else source

/-- An operation that makes no handle leaves a registry and a host that agree. -/
structure Reply.Settled {α : Type} (origin : Nat → Option Config.Location) (r : Registry ω)
    (h : Host ω A) (reply : Reply ω A α) : Prop where
  consistent : reply.registry.Consistent origin reply.host
  settings : reply.registry.settings = r.settings
  handles : reply.host.handles.length = h.handles.length

/-- An operation whose handles are all of adapters created from `source` leaves a registry and a
host that agree. -/
def Reply.Grown {α : Type} (origin : Nat → Option Config.Location) (source : Option Config.Location)
    (h : Host ω A) (reply : Reply ω A α) : Prop :=
  reply.registry.Consistent (Registry.extended h.handles.length source origin) reply.host

namespace Registry

variable {origin : Nat → Option Config.Location} {r : Registry ω} {h : Host ω A} {α : Type}

/-! ## Sequences of operations -/

theorem Consistent.traced (consistent : r.Consistent origin h) (source : Option Config.Location) :
    r.Consistent (extended h.handles.length source origin) h :=
  consistent.congr fun _ within => if_pos within

/-- An operation that refuses leaves everything as it was. -/
theorem Consistent.refuse (consistent : r.Consistent origin h) (error : Error) :
    Reply.Settled (α := α) origin r h (.refuse error r h) :=
  ⟨consistent, rfl, rfl⟩

theorem Consistent.refuse_grown (consistent : r.Consistent origin h)
    (source : Option Config.Location) (error : Error) :
    Reply.Grown (α := α) origin source h (.refuse error r h) :=
  consistent.traced source

end Registry

namespace Reply

variable {origin : Nat → Option Config.Location} {r : Registry ω} {h : Host ω A} {α β : Type}

/-- An operation that made no handle may be followed by another one. -/
theorem Settled.andThen {first : Reply ω A α} (settled : first.Settled origin r h)
    {next : α → Registry ω → Host ω A → Reply ω A β}
    (following : ∀ a r h, r.Consistent origin h → (next a r h).Settled origin r h) :
    (first.andThen next).Settled origin r h := by
  unfold Reply.andThen
  cases first.answer with
  | error error => exact ⟨settled.consistent, settled.settings, settled.handles⟩
  | ok a =>
      have left := following a _ _ settled.consistent
      exact ⟨left.consistent, left.settings.trans settled.settings,
        left.handles.trans settled.handles⟩

/-- It may be followed by one that makes handles. -/
theorem Settled.andThen_grown {first : Reply ω A α} (settled : first.Settled origin r h)
    {next : α → Registry ω → Host ω A → Reply ω A β} {source : Option Config.Location}
    (following : ∀ a left h, left.settings = r.settings → left.Consistent origin h →
      (next a left h).Grown origin source h) :
    (first.andThen next).Grown origin source h := by
  unfold Reply.andThen Reply.Grown
  rw [← settled.handles]
  cases first.answer with
  | error error => exact settled.consistent.traced source
  | ok a => exact following a _ _ settled.settings settled.consistent

end Reply

namespace Registry

variable {origin : Nat → Option Config.Location} {r : Registry ω} {h : Host ω A} {α : Type}

/-! ## Admission -/

/-- The handle of a new adapter has the name of an adapter, which is closed and not destroyed. -/
theorem handle_new {kind : AdapterKind ω A} {d : AdapterDefinition} {handle : Handle A}
    (made : Handle.new kind d = .ok handle) :
    handle.name.get? ObjectName.typeKey = some "Adapter" ∧ handle.destroyed = false ∧
      handle.state = .closed := by
  unfold Handle.new at made
  cases named : ObjectName.adapter d.id with
  | error flaw =>
      rw [named] at made
      cases made
  | ok name =>
      rw [named] at made
      cases made
      exact ⟨ObjectName.type_of_adapter named, rfl, rfl⟩

/-- An adapter that is created is traced to the location that its configuration came from. -/
theorem Consistent.create_grown (consistent : r.Consistent origin h) (kind : AdapterKind ω A)
    (text : String) (location : Option Config.Location) :
    (r.create kind text location h).Grown origin location h := by
  rcases create_cases kind text location r h with
    ⟨error, refused⟩ | ⟨handle, server, prepared, unlisted, registered, created⟩
  · rw [refused]
    exact consistent.refuse_grown location error
  · obtain ⟨_, _, _, made⟩ := prepare_ok prepared
    obtain ⟨isAdapter, alive, _⟩ := handle_new made
    have isNew : extended h.handles.length none origin h.handles.length = none :=
      if_neg (Nat.lt_irrefl _)
    have kept := (consistent.traced none).addHandle isAdapter isNew
    have marked : (h.addHandle handle).2.mark? h.handles.length = some (handle.name, false) := by
      rw [Host.mark?_addHandle, if_pos rfl, alive]
    rw [created]
    apply (kept.enlist marked unlisted registered location).congr
    intro n within
    have atMost : n < h.handles.length + 1 := by
      simpa [Host.addHandle, Host.setServer] using within
    rcases Nat.lt_succ_iff_lt_or_eq.mp atMost with before | rfl
    · rw [Function.update_of_ne (Nat.ne_of_lt before), extended, extended, if_pos before,
        if_pos before]
    · rw [Function.update_self, extended, if_neg (Nat.lt_irrefl _)]

/-- The location that a text spells, if it spells one. -/
def spelt? (url : String) : Option Config.Location :=
  (Config.Location.ofText url).toOption

theorem Consistent.createFrom_grown (consistent : r.Consistent origin h) (kind : AdapterKind ω A)
    (location : Config.Location) :
    (r.createFrom kind location h).Grown origin (some location) h := by
  unfold createFrom
  cases r.collaborators.transport.read location h.world with
  | error error => exact consistent.refuse_grown _ error
  | ok text => exact consistent.create_grown kind text (some location)

theorem Consistent.createFromUrl_grown (consistent : r.Consistent origin h)
    (kind : AdapterKind ω A) (url : String) :
    (r.createFromUrl kind url h).Grown origin (spelt? url) h := by
  unfold createFromUrl spelt?
  cases Config.Location.ofText url with
  | error error => exact consistent.refuse_grown _ (.configuration error)
  | ok location => exact consistent.createFrom_grown kind location

/-- An adapter that is added by its handle was not created from a location. -/
theorem Consistent.add_settled (consistent : r.Consistent origin h) (n : Nat) :
    (r.add n h).Settled origin r h := by
  rcases add_cases n r h with
    ⟨error, refused⟩ | ⟨handle, found, alive, unlisted, ⟨known, _⟩ | ⟨server, registered, added⟩⟩
  · rw [refused]
    exact consistent.refuse error
  · have marked : h.mark? n = some (handle.name, false) :=
      Host.mark?_eq_some_iff.mpr ⟨handle, found, rfl, alive⟩
    cases known.symm.trans (consistent.unknown marked unlisted)
  · have marked : h.mark? n = some (handle.name, false) :=
      Host.mark?_eq_some_iff.mpr ⟨handle, found, rfl, alive⟩
    have left := consistent.enlist marked unlisted registered none
    have same : Function.update origin n none = origin := by
      rw [← consistent.untraced marked unlisted, Function.update_eq_self]
    rw [same] at left
    rw [added]
    exact ⟨left, rfl, rfl⟩

/-! ## Destruction -/

/-- What is not listed can be forgotten without effect. -/
theorem Consistent.forget_unlisted (consistent : r.Consistent origin h) {name : ObjectName}
    (unlisted : r.lists name = false) : r.forget name = r := by
  have locations_eq : withoutLocation name r.locations = r.locations := by
    apply List.filter_eq_self.mpr
    intro entry member
    have different :=
      List.lookup_eq_none_iff.mp (consistent.location?_unlisted unlisted) entry member
    exact bne_iff_ne.mpr (Ne.symm (bne_iff_ne.mp different))
  simp only [forget, delist_unlisted unlisted, removeLocation, locations_eq]

theorem Consistent.destroy_settled (consistent : r.Consistent origin h) (kind : AdapterKind ω A)
    (n : Nat) : (r.destroy kind n h).Settled origin r h := by
  rcases destroy_cases kind n r h with ⟨error, refused⟩ | ⟨handle, found, _, held, destroyed⟩
  · rw [refused]
    exact consistent.refuse error
  · have current : (h.servers r.server).adapter? handle.name = some n := by
      unfold holds at held
      rw [Bool.and_eq_true] at held
      obtain ⟨m, registered⟩ := consistent.agrees.listed held.1
      rw [registered] at held ⊢
      rw [beq_iff_eq.mp held.2]
    rw [destroyed]
    refine ⟨consistent.drop current (Host.mark?_tornDown found) ?_, rfl, ?_⟩
    · rw [Host.servers_tornDown, if_pos rfl]
    · exact Host.length_tornDown kind r.server n handle h

theorem Consistent.destroyNamed_settled (consistent : r.Consistent origin h)
    (kind : AdapterKind ω A) (name : ObjectName) :
    (r.destroyNamed kind name h).Settled origin r h := by
  unfold destroyNamed Host.find
  cases found : (h.servers r.server).adapter? name with
  | some n => exact consistent.destroy_settled kind n
  | none =>
      have unlisted : r.lists name = false := by
        cases isListed : r.lists name with
        | false => rfl
        | true =>
            obtain ⟨n, registered⟩ := consistent.agrees.listed isListed
            cases found.symm.trans registered
      dsimp only
      rw [consistent.forget_unlisted unlisted]
      exact consistent.refuse _

/-- Whatever comes of one adapter, the others are destroyed or left alone. -/
theorem Consistent.destroyEach_settled (consistent : r.Consistent origin h)
    (kind : AdapterKind ω A) (names : List ObjectName) :
    (r.destroyEach kind names h).Settled origin r h := by
  induction names generalizing r h with
  | nil => exact ⟨consistent, rfl, rfl⟩
  | cons name rest ih =>
      obtain ⟨gone, settings, handles⟩ := consistent.destroyNamed_settled kind name
      obtain ⟨left, leftSettings, leftHandles⟩ := ih gone
      have goesOn : Reply.Settled origin r h
          (destroyEach kind rest (r.destroyNamed kind name h).registry
            (r.destroyNamed kind name h).host) :=
        ⟨left, leftSettings.trans settings, leftHandles.trans handles⟩
      unfold destroyEach
      dsimp only
      split
      · exact goesOn
      · exact goesOn
      · exact ⟨gone, settings, handles⟩

/-! ## Reloading -/

/-- The location that settings name, if they name one. -/
def settled? (settings : Config.Settings) : Option Config.Location :=
  settings.adapterLocation.toOption.bind spelt?

theorem Consistent.createFromSettings_grown (consistent : r.Consistent origin h)
    (kind : AdapterKind ω A) :
    (r.createFromSettings kind h).Grown origin (settled? r.settings) h := by
  unfold createFromSettings settled?
  cases r.settings.adapterLocation with
  | error error => exact consistent.refuse_grown _ (.configuration error)
  | ok url =>
      dsimp only [Except.toOption, Option.bind]
      exact consistent.createFromUrl_grown kind url

theorem Consistent.reloadInOrder_grown (consistent : r.Consistent origin h)
    (kind : AdapterKind ω A) (order : List ObjectName) :
    (r.reloadInOrder kind order h).Grown origin (settled? r.settings) h := by
  apply (consistent.destroyEach_settled kind order).andThen_grown
  intro _ left h settings consistent
  rw [← settings]
  exact consistent.createFromSettings_grown kind

/-- What changes nothing but the surroundings changes no agreement. -/
theorem Consistent.withWorld (consistent : r.Consistent origin h) (world : ω) :
    r.Consistent origin { h with world } :=
  consistent.unchanged (fun _ => rfl) (fun _ => rfl) fun _ => Or.inr

theorem Consistent.reloadUpdatedInOrder_grown (consistent : r.Consistent origin h)
    (kind : AdapterKind ω A) (order : List ObjectName) :
    (r.reloadUpdatedInOrder kind order h).Grown origin (settled? r.settings) h := by
  unfold reloadUpdatedInOrder
  cases r.versionControl with
  | none => exact consistent.refuse_grown _ _
  | some versionControl =>
      have updated : ((r.destroyEach kind order h).andThen fun _ r h =>
          r.update versionControl h).Settled origin r h := by
        apply (consistent.destroyEach_settled kind order).andThen
        intro _ r h consistent
        exact ⟨consistent.withWorld _, rfl, rfl⟩
      apply updated.andThen_grown
      intro _ left h settings consistent
      rw [← settings]
      exact consistent.createFromSettings_grown kind

/-! ## Everything else -/

theorem Consistent.persistHandle (consistent : r.Consistent origin h) (n : Nat)
    (location : Config.Location) : r.Consistent origin (r.persistHandle n location h).2 := by
  unfold Registry.persistHandle
  cases h.handles[n]? with
  | none => exact consistent
  | some handle => exact consistent.withWorld _

theorem Consistent.persistNamed (consistent : r.Consistent origin h) (name : ObjectName)
    (location : Config.Location) : r.Consistent origin (r.persistNamed name location h).2 := by
  unfold Registry.persistNamed
  cases h.find r.server name with
  | error error => exact consistent
  | ok n => exact consistent.persistHandle n location

theorem Consistent.request (consistent : r.Consistent origin h) (kind : AdapterKind ω A)
    (event : Event) (n : Nat) : r.Consistent origin (h.request kind event n).2 := by
  apply consistent.unchanged (Host.mark?_request kind event n h)
  · intro name
    rw [Host.servers_request]
  · intro name known
    rw [Host.servers_request] at known
    exact Or.inr known

/-- No adapter is on the server under the name of the registry. -/
theorem Consistent.no_adapter_self (consistent : r.Consistent origin h) :
    (h.servers r.server).adapter? r.name = none := by
  cases found : (h.servers r.server).adapter? r.name with
  | none => rfl
  | some n => exact absurd rfl (consistent.ne_self (consistent.agrees.current found).2)

/-- A server with the registry itself on it, or without it, has the same adapters. -/
theorem Consistent.setServer (consistent : r.Consistent origin h) {server : Management.Server}
    (others : ∀ name, name ≠ r.name → server.lookup name = (h.servers r.server).lookup name)
    (self : server.adapter? r.name = none) :
    r.Consistent origin (h.setServer r.server server) := by
  have server_eq : (h.setServer r.server server).servers r.server = server := if_pos rfl
  have marks : ∀ n, (h.setServer r.server server).mark? n = h.mark? n := fun _ => rfl
  apply consistent.unchanged marks
  · intro name
    rw [server_eq]
    by_cases isSelf : name = r.name
    · rw [isSelf, self, consistent.no_adapter_self]
    · unfold Management.Server.adapter?
      rw [others name isSelf]
  · intro name known
    rw [server_eq] at known
    by_cases isSelf : name = r.name
    · exact Or.inl isSelf
    · unfold Management.Server.knows at known ⊢
      rw [others name isSelf] at known
      exact Or.inr known

theorem Consistent.registerSelf (consistent : r.Consistent origin h) :
    r.Consistent origin (r.registerSelf h).2 := by
  unfold Registry.registerSelf Host.register
  cases registered : (h.servers r.server).register r.name (.registry r.settings) with
  | error error => exact consistent
  | ok server =>
      have lookup_eq := Management.Server.lookup_register registered
      apply consistent.setServer
      · intro name notSelf
        rw [lookup_eq, if_neg notSelf]
      · unfold Management.Server.adapter?
        rw [lookup_eq, if_pos rfl]
        rfl

theorem Consistent.unregisterSelf (consistent : r.Consistent origin h) :
    r.Consistent origin (h.unregister r.server r.name).2 := by
  have lookup_eq := Management.Server.lookup_unregister (h.servers r.server) r.name
  apply consistent.setServer
  · intro name notSelf
    rw [lookup_eq, if_neg notSelf]
  · unfold Management.Server.adapter?
    rw [lookup_eq, if_pos rfl]
    rfl

/-- A handle that was just made belongs to no registry yet. -/
theorem Consistent.makeHandle (consistent : r.Consistent origin h) (kind : AdapterKind ω A)
    (d : AdapterDefinition) :
    r.Consistent (extended h.handles.length none origin) (h.makeHandle kind d) := by
  unfold Host.makeHandle
  cases made : Handle.new kind d with
  | error error => exact consistent.traced none
  | ok handle =>
      apply (consistent.traced none).addHandle (handle_new made).1
      exact if_neg (Nat.lt_irrefl _)

end Registry

end IntegrationHost
