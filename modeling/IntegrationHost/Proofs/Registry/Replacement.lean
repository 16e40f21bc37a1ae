import IntegrationHost.Proofs.Registry.Fleet

/-!
# Reloading

A reload destroys what a registry lists and creates an adapter in its place. A name that the server
does not know is forgotten on the way. One by which it knows an adapter that was destroyed already
is not: it stays listed, and the adapter stays on the server. That happens when another registry has
destroyed the adapter, which it had on a server of its own.
-/

namespace IntegrationHost

variable {ω A : Type}

namespace Host

/-- The adapter of a handle was destroyed, is closed, and is not on a server. -/
def Gone (s n : Nat) (h : Host ω A) : Prop :=
  h.Retired n ∧ ∀ name, (h.servers s).adapter? name ≠ some n

variable {kind : AdapterKind ω A} {s n m : Nat} {handle : Handle A} {h : Host ω A}

/-- What is known of an adapter that is gone stays true where its handle stays as it is and no
server gets to know it. -/
theorem Gone.keep {host : Host ω A} (gone : h.Gone s n)
    (same : host.handles[n]? = h.handles[n]?)
    (served : ∀ {name}, (host.servers s).adapter? name = some n →
      (h.servers s).adapter? name = some n) : host.Gone s n := by
  obtain ⟨⟨handle, found, retired⟩, absent⟩ := gone
  constructor
  · exact ⟨handle, same.trans found, retired⟩
  · intro name isServed
    exact absent name (served isServed)

theorem Gone.lt (gone : h.Gone s n) : n < h.handles.length := by
  obtain ⟨⟨_, found, _⟩, _⟩ := gone
  exact (List.getElem?_eq_some_iff.mp found).1

/-- An adapter that is torn down is gone: the server knew it by its own name only. -/
theorem gone_tornDown (named : h.WellNamed) (found : h.handles[n]? = some handle) :
    (h.tornDown kind s n handle).Gone s n := by
  constructor
  · exact retired_tornDown found
  · intro name served
    rw [adapter?_tornDown] at served
    split at served
    · cases served
    · rename_i different
      exact different (named.name_eq served found).symm

/-- No adapter comes back when another one is torn down. -/
theorem Gone.tornDown (gone : h.Gone s n) (found : h.handles[m]? = some handle)
    (alive : handle.destroyed = false) : (h.tornDown kind s m handle).Gone s n := by
  obtain ⟨⟨retired, isRetired, destroyed, _⟩, _⟩ := id gone
  have different : n ≠ m := by
    rintro rfl
    cases found.symm.trans isRetired
    cases alive.symm.trans destroyed
  apply gone.keep (handle_tornDown_of_ne different)
  intro name served
  rw [adapter?_tornDown] at served
  split at served
  · cases served
  · exact served

/-- No adapter comes back when a new one is put on a server. -/
theorem Gone.serveNew (gone : h.Gone s n) {name : ObjectName} {server : Management.Server}
    (registered : (h.servers s).register name (.adapter h.handles.length) = .ok server)
    (handle : Handle A) : ((h.addHandle handle).2.setServer s server).Gone s n := by
  apply gone.keep (List.getElem?_append_left gone.lt)
  intro other served
  rw [servers_setServer, if_pos rfl, Management.Server.adapter?_register registered] at served
  split at served
  · exact absurd (Option.some.inj served).symm (Nat.ne_of_lt gone.lt)
  · exact served

end Host

namespace Registry

variable {kind : AdapterKind ω A} {r left : Registry ω} {h host : Host ω A} {n : Nat}
  {name : ObjectName}

/-! ## Destroying what is listed -/

/-- What is asked for by name is not on the server, or stays as it is because it is not listed or
was destroyed, or is torn down. -/
theorem destroyNamed_cases (kind : AdapterKind ω A) (named : h.WellNamed) (r : Registry ω)
    (name : ObjectName) :
    ((h.servers r.server).adapter? name = none ∧
        r.destroyNamed kind name h = .refuse (.notFound name) (r.forget name) h) ∨
      ∃ n handle, (h.servers r.server).adapter? name = some n ∧ h.handles[n]? = some handle ∧
        handle.name = name ∧
        ((r.lists name = false ∨ handle.destroyed = true) ∧
            r.destroyNamed kind name h = .refuse (.notFound name) r h ∨
          r.lists name = true ∧ handle.destroyed = false ∧
            r.destroyNamed kind name h =
              ⟨.ok (), r.forget name, h.tornDown kind r.server n handle⟩) := by
  cases served : (h.servers r.server).adapter? name with
  | none => exact Or.inl ⟨rfl, destroyNamed_of_unserved kind served⟩
  | some n =>
      obtain ⟨handle, found, rfl⟩ := Host.name?_eq_some_iff.mp (named served)
      refine Or.inr ⟨n, handle, rfl, found, rfl, ?_⟩
      cases listed : r.lists handle.name with
      | false =>
          apply Or.inl
          refine ⟨Or.inl rfl, ?_⟩
          simp [destroyNamed, Host.find, served, destroy, found, holds, listed]
      | true =>
          have destroyed_eq := destroyNamed_of_served kind found listed served
          cases alive : handle.destroyed with
          | true => exact Or.inl ⟨Or.inr rfl, by rw [destroyed_eq, if_pos alive]⟩
          | false =>
              refine Or.inr ⟨rfl, rfl, ?_⟩
              simp only [destroyed_eq, alive, Bool.false_eq_true, if_false]

/-- No adapter that was destroyed is on the server under a name that is listed. -/
def Fresh (r : Registry ω) (h : Host ω A) : Prop :=
  ∀ {name n handle}, r.lists name = true → (h.servers r.server).adapter? name = some n →
    h.handles[n]? = some handle → handle.destroyed = false

/-- It is enough to look at what is on the server. -/
theorem fresh_of_beans (alive : ∀ entry ∈ (h.servers r.server).beans, ∀ n ∈ entry.2.handle?,
    ∀ handle ∈ h.handles[n]?, handle.destroyed = false) : r.Fresh h := by
  intro name n handle _ served found
  obtain ⟨bean, isThere, isAdapter⟩ := Option.bind_eq_some_iff.mp served
  obtain ⟨before, behind, beans_eq, _⟩ := List.lookup_eq_some_iff.mp isThere
  have among : (name, bean) ∈ (h.servers r.server).beans := by
    rw [beans_eq]
    exact List.mem_append_right before List.mem_cons_self
  exact alive _ among n isAdapter handle found

/-- What is left of a registry and a host when the adapters of names were destroyed. -/
structure Cleared (names : List ObjectName) (r : Registry ω) (h : Host ω A) (left : Registry ω)
    (host : Host ω A) : Prop where
  alike : ∃ listed locations, left = { r with listed, locations }
  length : host.handles.length = h.handles.length
  named : host.WellNamed
  fresh : left.Fresh host
  lists : ∀ {name}, left.lists name = true ↔ r.lists name = true ∧ name ∉ names
  removed : ∀ {name n}, r.lists name = true → (h.servers r.server).adapter? name = some n →
    name ∈ names → host.Gone r.server n
  spared : ∀ {name n}, (h.servers r.server).adapter? name = some n → name ∉ names →
    (host.servers r.server).adapter? name = some n
  gone : ∀ {n}, h.Gone r.server n → host.Gone r.server n

namespace Cleared

theorem server_eq {names : List ObjectName} (cleared : Cleared names r h left host) :
    left.server = r.server := by
  obtain ⟨_, _, rfl⟩ := cleared.alike
  rfl

theorem nil (named : h.WellNamed) (fresh : r.Fresh h) : Cleared [] r h r h where
  alike := ⟨r.listed, r.locations, rfl⟩
  length := rfl
  named := named
  fresh := fresh
  lists := by simp
  removed _ _ := by simp
  spared served _ := served
  gone isGone := isGone

/-- Names that are destroyed one after the other. -/
theorem append {names more : List ObjectName} {last : Registry ω} {lastHost : Host ω A}
    (first : Cleared names r h left host) (second : Cleared more left host last lastHost) :
    Cleared (names ++ more) r h last lastHost := by
  have server_eq := first.server_eq
  have second_removed := @second.removed
  have second_spared := @second.spared
  have second_gone := @second.gone
  rw [server_eq] at second_removed second_spared second_gone
  constructor
  · obtain ⟨_, _, rfl⟩ := first.alike
    obtain ⟨listed, locations, rfl⟩ := second.alike
    exact ⟨listed, locations, rfl⟩
  · exact second.length.trans first.length
  · exact second.named
  · exact second.fresh
  · intro name
    rw [second.lists, first.lists, List.mem_append, not_or, and_assoc]
  · intro name n listed served among
    by_cases early : name ∈ names
    · exact second_gone (first.removed listed served early)
    · apply second_removed (first.lists.mpr ⟨listed, early⟩) (first.spared served early)
      exact (List.mem_append.mp among).resolve_left early
  · intro name n served spared
    rw [List.mem_append, not_or] at spared
    exact second_spared (first.spared served spared.1) spared.2
  · intro n isGone
    exact second_gone (first.gone isGone)

/-- What the server does not know is forgotten. -/
theorem forget (named : h.WellNamed) (fresh : r.Fresh h)
    (unserved : (h.servers r.server).adapter? name = none) :
    Cleared [name] r h (r.forget name) h where
  alike := ⟨_, _, rfl⟩
  length := rfl
  named := named
  fresh := by
    intro other n handle listed
    rw [lists_forget] at listed
    split at listed
    · cases listed
    · exact fresh listed
  lists := by
    intro other
    rw [lists_forget]
    by_cases same : other = name <;> simp [same]
  removed := by
    intro other n _ served among
    rw [List.mem_singleton.mp among, unserved] at served
    cases served
  spared served _ := served
  gone isGone := isGone

/-- What is not listed stays as it is. -/
theorem unlisted (named : h.WellNamed) (fresh : r.Fresh h) (unlisted : r.lists name = false) :
    Cleared [name] r h r h where
  alike := ⟨r.listed, r.locations, rfl⟩
  length := rfl
  named := named
  fresh := fresh
  lists := by
    intro other
    rw [List.mem_singleton]
    constructor
    · intro listed
      refine ⟨listed, ?_⟩
      rintro rfl
      cases unlisted.symm.trans listed
    · exact And.left
  removed := by
    intro other n listed _ among
    rw [List.mem_singleton.mp among, unlisted] at listed
    cases listed
  spared served _ := served
  gone isGone := isGone

/-- An adapter that was not destroyed is torn down. -/
theorem tearDown (named : h.WellNamed) (fresh : r.Fresh h) {handle : Handle A}
    (found : h.handles[n]? = some handle) (alive : handle.destroyed = false)
    (served : (h.servers r.server).adapter? handle.name = some n) :
    Cleared [handle.name] r h (r.forget handle.name) (h.tornDown kind r.server n handle) where
  alike := ⟨_, _, rfl⟩
  length := Host.length_tornDown kind r.server n handle h
  named := named.reaches (Host.tornDown_reaches kind r.server found alive)
  fresh := by
    intro other m otherHandle listed otherServed otherFound
    rw [lists_forget] at listed
    split at listed
    · cases listed
    · rename_i different
      rw [show (r.forget handle.name).server = r.server from rfl, Host.adapter?_tornDown,
        if_neg different] at otherServed
      have numbers : m ≠ n := by
        rintro rfl
        exact different (named.name_eq otherServed found).symm
      rw [Host.handle_tornDown_of_ne numbers] at otherFound
      exact fresh listed otherServed otherFound
  lists := by
    intro other
    rw [lists_forget]
    by_cases same : other = handle.name <;> simp [same]
  removed := by
    intro other m _ otherServed among
    rw [List.mem_singleton.mp among, served] at otherServed
    cases otherServed
    exact Host.gone_tornDown named found
  spared := by
    intro other m otherServed among
    rw [Host.adapter?_tornDown, if_neg (by simpa using among)]
    exact otherServed
  gone isGone := isGone.tornDown found alive

/-- One name is destroyed, or not found. -/
theorem destroyNamed (kind : AdapterKind ω A) (named : h.WellNamed) (fresh : r.Fresh h)
    (name : ObjectName) :
    let gone := r.destroyNamed kind name h
    (gone.answer = .ok () ∨ gone.answer = .error (.notFound name)) ∧
      Cleared [name] r h gone.registry gone.host := by
  intro gone
  rcases destroyNamed_cases kind named r name with
    ⟨unserved, refused⟩ | ⟨n, handle, served, found, rfl, ⟨why, refused⟩ | ⟨listed, alive, done⟩⟩
  · rw [show gone = _ from refused]
    exact ⟨Or.inr rfl, .forget named fresh unserved⟩
  · rw [show gone = _ from refused]
    refine ⟨Or.inr rfl, .unlisted named fresh ?_⟩
    rcases why with unlisted | destroyed
    · exact unlisted
    · cases listed : r.lists handle.name with
      | false => rfl
      | true => cases destroyed.symm.trans (fresh listed served found)
  · rw [show gone = _ from done]
    exact ⟨Or.inl rfl, .tearDown named fresh found alive served⟩

/-- All names are destroyed, or not found. -/
theorem destroyEach (kind : AdapterKind ω A) (named : h.WellNamed) (fresh : r.Fresh h)
    (names : List ObjectName) :
    let gone := r.destroyEach kind names h
    gone.answer = .ok () ∧ Cleared names r h gone.registry gone.host := by
  induction names generalizing r h with
  | nil => exact ⟨rfl, .nil named fresh⟩
  | cons name rest ih =>
      -- That a name is not found breaks nothing off, whatever the reason.
      obtain ⟨answer, first⟩ := destroyNamed kind named fresh name
      obtain ⟨answers, others⟩ := ih first.named first.fresh
      have goesOn : r.destroyEach kind (name :: rest) h =
          (r.destroyNamed kind name h).registry.destroyEach kind rest
            (r.destroyNamed kind name h).host := by
        rcases answer with done | missed
        · simp only [Registry.destroyEach, done]
        · simp only [Registry.destroyEach, missed]
      rw [goesOn]
      exact ⟨answers, first.append others⟩

end Cleared

/-! ## Creating what the settings name -/

/-- The location in the settings of a registry, and a handle for the configuration there. -/
def configured (kind : AdapterKind ω A) (r : Registry ω) (world : ω) :
    Except Error (Config.Location × Handle A) := do
  let url ← r.settings.adapterLocation.mapError Error.configuration
  let location ← (Config.Location.ofText url).mapError Error.configuration
  let text ← r.collaborators.transport.read location world
  let handle ← r.prepare kind text
  return (location, handle)

/-- The adapter that the settings name is created, or nothing happens at all. -/
theorem createFromSettings_cases (kind : AdapterKind ω A) (r : Registry ω) (h : Host ω A) :
    (∃ error, r.createFromSettings kind h = .refuse error r h) ∨
      ∃ location handle server, r.configured kind h.world = .ok (location, handle) ∧
        handle.destroyed = false ∧ handle.state = .closed ∧
        (h.servers r.server).register handle.name (.adapter h.handles.length) = .ok server ∧
        r.createFromSettings kind h =
          ⟨.ok handle.name, r.enlisted handle.name (some location),
            (h.addHandle handle).2.setServer r.server server⟩ := by
  unfold createFromSettings configured
  cases r.settings.adapterLocation with
  | error error => exact Or.inl ⟨_, rfl⟩
  | ok url =>
      dsimp only [createFromUrl]
      cases spelt : Config.Location.ofText url with
      | error error => exact Or.inl ⟨_, rfl⟩
      | ok location =>
          dsimp only [createFrom]
          cases read : r.collaborators.transport.read location h.world with
          | error error => exact Or.inl ⟨_, rfl⟩
          | ok text =>
              rcases create_cases kind text (some location) r h with
                refused | ⟨handle, server, prepared, _, registered, created⟩
              · exact Or.inl refused
              · obtain ⟨_, _, _, made⟩ := prepare_ok prepared
                obtain ⟨_, alive, closed⟩ := handle_new made
                refine Or.inr ⟨location, handle, server, ?_, alive, closed, registered, created⟩
                simp [Except.mapError, bind, Except.bind, spelt, read, prepared, pure, Except.pure]

/-! ## Reloading -/

/-- What a reload answers and leaves when it puts one adapter in place of all others. -/
structure Replaced (kind : AdapterKind ω A) (r : Registry ω) (h : Host ω A)
    (reply : Reply ω A (List ObjectName)) : Prop where
  /-- Where it succeeds, what is listed, and answered, is the name of the adapter that is configured
  at the location in the settings. On the server is a new handle of it. -/
  created : ∀ {names}, reply.answer = .ok names → reply.registry.listed = names ∧
    ∃ location handle, r.configured kind reply.host.world = .ok (location, handle) ∧
      names = [handle.name] ∧ reply.registry.location? handle.name = some location ∧
      (reply.host.servers r.server).adapter? handle.name = some h.handles.length ∧
      reply.host.handles[h.handles.length]? = some handle ∧ handle.destroyed = false ∧
      handle.state = .closed
  /-- Where it fails, nothing is listed. -/
  emptied : ∀ {error}, reply.answer = .error error → reply.registry.listed = []
  /-- The adapters that were on the server by the names that were listed are gone. -/
  gone : ∀ {name n}, r.lists name = true → (h.servers r.server).adapter? name = some n →
    reply.host.Gone r.server n

/-- A reload that visits all that is listed replaces it, unless an adapter that was destroyed before
is on the server under a name that is listed. -/
theorem reloadInOrder_replaces (kind : AdapterKind ω A) (named : h.WellNamed) (fresh : r.Fresh h)
    {order : List ObjectName} (visits : ∀ {name}, r.lists name = true → name ∈ order) :
    Replaced kind r h (r.reloadInOrder kind order h) := by
  obtain ⟨answer, cleared⟩ := Cleared.destroyEach kind named fresh order
  unfold reloadInOrder Reply.andThen
  rw [answer]
  generalize r.destroyEach kind order h = left at cleared
  have emptied : left.registry.listed = [] := by
    apply List.eq_nil_iff_forall_not_mem.mpr
    intro name isListed
    obtain ⟨wasListed, notVisited⟩ :=
      cleared.lists.mp (List.contains_iff_mem.mpr isListed : left.registry.lists name = true)
    exact notVisited (visits wasListed)
  have gone : ∀ {name n}, r.lists name = true → (h.servers r.server).adapter? name = some n →
      left.host.Gone r.server n := by
    intro name n listed served
    exact cleared.removed listed served (visits listed)
  dsimp only
  rcases createFromSettings_cases kind left.registry left.host with
    ⟨error, refused⟩ | ⟨location, handle, server, isConfigured, alive, closed, registered, created⟩
  · rw [refused]
    constructor
    · rintro names ⟨⟩
    · intro _ _
      exact emptied
    · exact gone
  · rw [created]
    constructor
    · intro names answered
      cases answered
      refine ⟨rfl, location, handle, ?_, ?_, ?_, ?_, ?_, alive, closed⟩
      · obtain ⟨_, _, alike⟩ := cleared.alike
        rw [alike] at isConfigured
        exact isConfigured
      · simp [enlisted, putLocation, list, emptied]
      · simp [enlisted, putLocation, Reply.listing, location?]
      · rw [← cleared.server_eq, ← cleared.length]
        simp only [Reply.listing, Host.servers_setServer, if_true,
          Management.Server.adapter?_register registered]
      · rw [← cleared.length]
        exact left.host.handle_addHandle handle
    · rintro error ⟨⟩
    · intro name n listed served
      rw [cleared.server_eq] at registered ⊢
      exact (gone listed served).serveNew registered handle

/-! ## Where nothing is replaced -/

/-- By a name that is listed the server of a number, which is that of the registry, knows an adapter
that was destroyed. -/
structure Stale (s : Nat) (name : ObjectName) (n : Nat) (r : Registry ω) (h : Host ω A) :
    Prop where
  server : r.server = s
  listed : r.lists name = true
  served : (h.servers s).adapter? name = some n
  destroyed : h.mark? n = some (name, true)

namespace Stale

variable {s : Nat}

/-- What was destroyed already is not found, and not forgotten. -/
theorem destroyNamed (stale : Stale s name n r h) (kind : AdapterKind ω A) (named : h.WellNamed)
    (other : ObjectName) :
    let gone := r.destroyNamed kind other h
    Stale s name n gone.registry gone.host := by
  intro gone
  obtain ⟨rfl, listed, served, destroyed⟩ := stale
  rcases destroyNamed_cases kind named r other with
    ⟨unserved, refused⟩ | ⟨m, handle, otherServed, found, rfl, ⟨_, refused⟩ | ⟨_, alive, done⟩⟩
  · rw [show gone = _ from refused]
    refine ⟨rfl, ?_, served, destroyed⟩
    have different : name ≠ other := by
      rintro rfl
      cases unserved.symm.trans served
    rw [Reply.refuse, lists_forget, if_neg different]
    exact listed
  · rw [show gone = _ from refused]
    exact ⟨rfl, listed, served, destroyed⟩
  · rw [show gone = _ from done]
    have numbers : n ≠ m := by
      rintro rfl
      rw [Host.mark?, found, Option.map_some, alive] at destroyed
      cases destroyed
    have names : name ≠ handle.name := by
      rintro rfl
      exact numbers (Option.some.inj (served.symm.trans otherServed))
    constructor
    · rfl
    · rw [lists_forget, if_neg names]
      exact listed
    · rw [Host.adapter?_tornDown, if_neg names]
      exact served
    · rw [Host.mark?_tornDown found, if_neg numbers]
      exact destroyed

theorem destroyEach (stale : Stale s name n r h) (kind : AdapterKind ω A) (named : h.WellNamed)
    (names : List ObjectName) :
    let gone := r.destroyEach kind names h
    Stale s name n gone.registry gone.host := by
  induction names generalizing r h with
  | nil => exact stale
  | cons first rest ih =>
      have next := stale.destroyNamed kind named first
      have stillNamed := named.reaches (destroyNamed_reaches kind r h first)
      unfold Registry.destroyEach
      dsimp only
      split
      · exact ih next stillNamed
      · exact ih next stillNamed
      · exact next

/-- After a reload it is still on the server. -/
theorem reloadInOrder (stale : Stale s name n r h) (kind : AdapterKind ω A) (named : h.WellNamed)
    (order : List ObjectName) :
    ((r.reloadInOrder kind order h).host.servers s).adapter? name = some n := by
  obtain ⟨rfl, _, served, _⟩ := stale.destroyEach kind named order
  unfold Registry.reloadInOrder Reply.andThen
  generalize r.destroyEach kind order h = left at served
  cases left.answer with
  | error error => exact served
  | ok _ =>
      rcases createFromSettings_cases kind left.registry left.host with
        ⟨error, refused⟩ | ⟨location, handle, server, _, _, _, registered, created⟩
      · simp only [refused]
        exact served
      · simp only [created, Reply.listing, Host.servers_setServer, if_true,
          Management.Server.adapter?_register registered]
        have unknown := (Management.Server.register_eq_ok_iff.mp registered).1
        have different : name ≠ handle.name := by
          rintro rfl
          cases (Management.Server.adapter?_of_unknown unknown).symm.trans served
        rw [if_neg different]
        exact served

end Stale

/-- A reload that visits all that is listed replaces it if and only if no adapter that was destroyed
before is on the server under a name that is listed. -/
theorem reloadInOrder_replaces_iff (kind : AdapterKind ω A) (named : h.WellNamed)
    {order : List ObjectName} (visits : ∀ {name}, r.lists name = true → name ∈ order) :
    Replaced kind r h (r.reloadInOrder kind order h) ↔ r.Fresh h := by
  constructor
  · intro replaced name n handle listed served found
    cases destroyed : handle.destroyed with
    | false => rfl
    | true =>
        have own := named.name_eq served found
        have stale : Stale r.server name n r h :=
          ⟨rfl, listed, served, Host.mark?_eq_some_iff.mpr ⟨handle, found, own, destroyed⟩⟩
        have stillServed := stale.reloadInOrder kind named order
        exact absurd stillServed ((replaced.gone listed served).2 name)
  · intro fresh
    exact reloadInOrder_replaces kind named fresh visits

end Registry

namespace Fleet

/-- However registries were used before, a reload by a registry, in whatever order it visits what it
lists, replaces it all if and only if no adapter that was destroyed before is on its server under a
name that it lists. -/
theorem reload_replaces_iff (kind : AdapterKind ω A) (registries : List (Registry ω)) (world : ω)
    (actions : List Action) (r : Registry ω) {order : List ObjectName}
    (visits : order.Perm r.listed) :
    let h := ((start registries world).run kind actions).host
    Registry.Replaced kind r h (r.reloadInOrder kind order h) ↔ r.Fresh h := by
  intro h
  apply Registry.reloadInOrder_replaces_iff kind (wellNamed_run registries world actions)
  intro name listed
  exact visits.mem_iff.mpr (List.contains_iff_mem.mp listed)

/-- Of two adapters of a registry one is running. The other was destroyed by a second registry,
which has put one of the same name in its place. A reload destroys what is on the server. -/
theorem reload_replaces_two :
    let kind := LiveAdapter.kind Rehearsal.Stage
    let registries := [ofIds (some "memory://a") 0, ofIds none 0]
    let world := (default : Rehearsal.Stage).keep (.url "memory://a") "a"
    let actions : List Action :=
      [.act 0 (.createFromText "a"), .act 0 (.createFromText "b"), .act 0 (.request .start 1),
        .act 1 (.add 0), .act 1 (.destroy 0), .act 1 (.createFromText "a")]
    let f := (start registries world).run kind actions
    ∃ r name, f.registries[0]? = some r ∧ r.listed.reverse.Perm r.listed ∧
      let reply := r.reloadInOrder kind r.listed.reverse f.host
      Registry.Replaced kind r f.host reply ∧ reply.answer = .ok [name] := by
  intro kind registries world actions f
  refine ⟨{ ofIds (some "memory://a") 0 with
      listed := [⟨ObjectName.hostDomain, .ofList [("type", "Adapter"), ("id", "a")], by decide⟩,
        ⟨ObjectName.hostDomain, .ofList [("type", "Adapter"), ("id", "b")], by decide⟩] },
    ⟨ObjectName.hostDomain, .ofList [("type", "Adapter"), ("id", "a")], by decide⟩, by rfl,
    List.reverse_perm _, ?_, by decide⟩
  apply (reload_replaces_iff kind registries world actions _ (List.reverse_perm _)).mpr
  apply Registry.fresh_of_beans
  decide

/-- The adapter of a registry is admitted by another one, with a server of its own, and destroyed by
it. Then the first cannot be reloaded: its adapter is not destroyed any more, and not forgotten, and
its name is taken. -/
theorem reload_keeps_destroyed :
    let kind := LiveAdapter.kind Rehearsal.Stage
    let registries := [ofIds (some "memory://a") 0, ofIds none 1]
    let world := (default : Rehearsal.Stage).keep (.url "memory://a") "a"
    let f := (start registries world).run kind
      [.act 0 (.createFromText "a"), .act 1 (.add 0), .act 1 (.destroy 0)]
    ∃ r name, f.registries[0]? = some r ∧
      let reply := r.reload kind f.host
      reply.answer = .error (.collision name) ∧ reply.registry.listed = [name] ∧
        (reply.host.servers r.server).adapter? name = some 0 := by
  intro kind registries world f
  refine ⟨{ ofIds (some "memory://a") 0 with
      listed := [⟨ObjectName.hostDomain, .ofList [("type", "Adapter"), ("id", "a")], by decide⟩] },
    ⟨ObjectName.hostDomain, .ofList [("type", "Adapter"), ("id", "a")], by decide⟩, by rfl, ?_⟩
  exact ⟨by decide, by decide, by decide⟩

end Fleet

end IntegrationHost
