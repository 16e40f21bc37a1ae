import IntegrationHost.Proofs.Registry.Traffic

/-!
# Nothing is left of a destroyed adapter

Where a registry destroys an adapter with success, whatever has happened to all registries before
and whichever hooks of its services fail, everything in the adapter is closed and holds nothing, and
its name is in no table of the registry and on its server no more. All that concerns other names,
other handles, other registries and other servers is as it was, and no registry ever admits the
handle again.
-/

namespace IntegrationHost

open Lifecycle Service

variable {ω A L : Type}

/-- A handle whose adapter was torn down. -/
theorem Host.handle_tornDown {kind : AdapterKind ω A} {h : Host ω A} {n : Nat} {handle : Handle A}
    (found : h.handles[n]? = some handle) (s : Nat) :
    (h.tornDown kind s n handle).handles[n]? =
      some { handle with
        adapter := (handle.adapter.request kind.hooks .close h.world).value
        destroyed := true } :=
  handle_request (handle_setHandle found { handle with destroyed := true }) kind .close

namespace Fleet

/-- What registries come to on a host that had no adapters in the beginning. -/
def Reached (kind : WorkingKind ω A) (f : Fleet ω A) : Prop :=
  ∃ registries world traffic, f = (start registries world).carryAll kind traffic

/-- The adapter of a handle is destroyed, and nothing in it holds anything. Its name is not in the
tables of a registry, nor on the server of that. -/
structure Erased (tree : A → AdapterTree ω L) (i n : Nat) (name : ObjectName) (f : Fleet ω A) :
    Prop where
  handle : ∃ handle, f.host.handles[n]? = some handle ∧ handle.name = name ∧
    handle.destroyed = true ∧ handle.state = .closed ∧ (tree handle.adapter.component).Shut
  registry : ∃ r, f.registries[i]? = some r ∧ r.lists name = false ∧ r.location? name = none ∧
    (f.host.servers r.server).lookup name = none

/-- All that does not concern a handle, or a name in the tables of a registry and on a server, is as
it was. -/
structure AgreesBut (i s n : Nat) (name : ObjectName) (f left : Fleet ω A) : Prop where
  handles : ∀ m, m ≠ n → left.host.handles[m]? = f.host.handles[m]?
  servers : ∀ t other, t ≠ s ∨ other ≠ name →
    (left.host.servers t).lookup other = (f.host.servers t).lookup other
  strangers : left.host.strangers = f.host.strangers
  registries : ∀ j, j ≠ i → left.registries[j]? = f.registries[j]?
  registry : ∀ r, f.registries[i]? = some r → ∃ later, left.registries[i]? = some later ∧
    later = { r with listed := later.listed, locations := later.locations } ∧
    ∀ other, other ≠ name →
      later.lists other = r.lists other ∧ later.location? other = r.location? other

variable {kind : WorkingKind ω A} {leaf : Behaviour ω L} {tree : A → AdapterTree ω L}
  {f : Fleet ω A} {i n : Nat} {r : Registry ω} {handle : Handle A}

/-- What a registry and the host are when an adapter is torn down. -/
def tornDown (kind : WorkingKind ω A) (i n : Nat) (r : Registry ω) (handle : Handle A)
    (f : Fleet ω A) : Fleet ω A :=
  ⟨f.registries.set i (r.forget handle.name),
    f.host.tornDown kind.toAdapterKind r.server n handle⟩

theorem registry_tornDown (isRegistry : f.registries[i]? = some r) :
    (f.tornDown kind i n r handle).registries[i]? = some (r.forget handle.name) :=
  List.getElem?_set_self (List.getElem?_eq_some_iff.mp isRegistry).1

/-- An adapter that was tidy is erased when it is torn down. -/
theorem erased_tornDown (trees : kind.Trees leaf tree)
    (tidy : f.host.Furnished (WorkingKind.Tidy tree)) (isRegistry : f.registries[i]? = some r)
    (found : f.host.handles[n]? = some handle) :
    (f.tornDown kind i n r handle).Erased tree i n handle.name := by
  have isClosed := Managed.request_close_state kind.hooks (m := handle.adapter) f.host.world
  have fits : handle.adapter.Fits (WorkingKind.Tidy tree) :=
    tidy handle (List.mem_of_getElem? found)
  have closedFits := fits.request trees.hooks_keep_tidy.expected .close f.host.world
  have shut := (AdapterTree.tidy_closed_iff _).mp (closedFits.of_state isClosed)
  constructor
  · exact ⟨_, Host.handle_tornDown found r.server, rfl, rfl, isClosed, shut⟩
  · refine ⟨r.forget handle.name, registry_tornDown isRegistry, ?_, ?_, ?_⟩
    · rw [Registry.lists_forget, if_pos rfl]
    · rw [Registry.location?_forget, if_pos rfl]
    · have forgot : (r.forget handle.name).server = r.server := rfl
      rw [forgot, tornDown, Host.servers_tornDown, if_pos rfl,
        Management.Server.lookup_unregister, if_pos rfl]

/-- Tearing an adapter down leaves everything else alone. -/
theorem agreesBut_tornDown (isRegistry : f.registries[i]? = some r) :
    f.AgreesBut i r.server n handle.name (f.tornDown kind i n r handle) := by
  constructor
  · intro m different
    exact Host.handle_tornDown_of_ne different
  · intro t other elsewhere
    rw [tornDown, Host.servers_tornDown]
    by_cases here : t = r.server
    · have different : other ≠ handle.name := elsewhere.resolve_left (absurd here)
      rw [if_pos here, Management.Server.lookup_unregister, if_neg different, here]
    · rw [if_neg here]
  · exact Host.strangers_tornDown kind.toAdapterKind r.server n handle f.host
  · intro j different
    exact List.getElem?_set_ne (Ne.symm different)
  · intro same isSame
    cases isRegistry.symm.trans isSame
    refine ⟨r.forget handle.name, registry_tornDown isRegistry, rfl, ?_⟩
    intro other different
    rw [Registry.lists_forget, Registry.location?_forget, if_neg different, if_neg different]
    exact ⟨rfl, rfl⟩

/-- Whatever happens, the adapters that registries come to are tidy. -/
theorem Reached.tidy (trees : kind.Trees leaf tree) (reached : f.Reached kind) :
    f.host.Furnished (WorkingKind.Tidy tree) := by
  obtain ⟨registries, world, traffic, rfl⟩ := reached
  have begun : (start registries world).host.Furnished (WorkingKind.Tidy tree) :=
    Host.furnished_new world
  exact tidy_carryAll trees begun traffic

/-- A registry destroys an adapter with success. Nothing is left of the adapter, everything else is
as it was, and whatever happens after that, no registry admits the handle again. -/
theorem erases_of_destroy (trees : kind.Trees leaf tree)
    (tidy : f.host.Furnished (WorkingKind.Tidy tree)) (isRegistry : f.registries[i]? = some r)
    (destroyed : (r.destroy kind.toAdapterKind n f.host).answer = .ok ()) :
    let left := f.carry kind (.manage (.act i (.destroy n)))
    ∃ handle, f.host.handles[n]? = some handle ∧ left.Erased tree i n handle.name ∧
      f.AgreesBut i r.server n handle.name left ∧
      ∀ traffic (other : Registry ω),
        let later := (left.carryAll kind traffic).host
        other.add n later = .refuse (.destroyed handle.name) other later := by
  intro left
  rcases Registry.destroy_cases kind.toAdapterKind n r f.host with
    ⟨error, refused⟩ | ⟨handle, found, _, _, done⟩
  · rw [refused] at destroyed
    cases destroyed
  · have left_eq : left = f.tornDown kind i n r handle := by
      refine (step_act isRegistry (.destroy n)).trans ?_
      simp only [Registry.Action.run, done]
      rfl
    rw [left_eq]
    refine ⟨handle, found, erased_tornDown trees tidy isRegistry found,
      agreesBut_tornDown isRegistry, ?_⟩
    intro traffic other
    have marked : (f.tornDown kind i n r handle).host.mark? n = some (handle.name, true) :=
      (Host.mark?_tornDown found n).trans (if_pos rfl)
    have stays : ((f.tornDown kind i n r handle).carryAll kind traffic).host.mark? n =
        some (handle.name, true) := destroyed_carryAll marked traffic
    obtain ⟨later, laterFound, name_eq, isDestroyed⟩ := Host.mark?_eq_some_iff.mp stays
    simp only [Registry.add, laterFound, isDestroyed, if_true, name_eq]

/-- A registry destroys an adapter with success, whatever has happened before. Nothing is left of
the adapter in that registry and on its server, and nothing in it holds anything; everything else is
as it was; and whatever happens after that, no registry admits the handle again. -/
theorem destroy_erases (trees : kind.Trees leaf tree) (reached : f.Reached kind)
    (isRegistry : f.registries[i]? = some r)
    (destroyed : (r.destroy kind.toAdapterKind n f.host).answer = .ok ()) :
    let left := f.carry kind (.manage (.act i (.destroy n)))
    ∃ handle, f.host.handles[n]? = some handle ∧ left.Erased tree i n handle.name ∧
      f.AgreesBut i r.server n handle.name left ∧
      ∀ traffic (other : Registry ω),
        let later := (left.carryAll kind traffic).host
        other.add n later = .refuse (.destroyed handle.name) other later :=
  -- Closing empties an adapter only if it is tidy, which it is whatever has happened to it.
  erases_of_destroy trees (reached.tidy trees) isRegistry destroyed

/-- So it is with the adapters that work as their definitions say. -/
theorem destroy_live_erases [Journal ω] {registries : List (Registry ω)} {world : ω}
    {before : List (Traffic ω)} {f : Fleet ω (LiveAdapter ω)}
    (reached : f = before.foldl carryLive (start registries world))
    (isRegistry : f.registries[i]? = some r)
    (destroyed : (r.destroy (LiveAdapter.kind ω) n f.host).answer = .ok ()) :
    let left := f.carryLive (.manage (.act i (.destroy n)))
    ∃ handle, f.host.handles[n]? = some handle ∧
      left.Erased LiveAdapter.tree i n handle.name ∧
      f.AgreesBut i r.server n handle.name left ∧
      ∀ (traffic : List (Traffic ω)) (other : Registry ω),
        let later := (traffic.foldl carryLive left).host
        other.add n later = .refuse (.destroyed handle.name) other later := by
  rw [carryLive_eq] at reached ⊢
  have trees := LiveAdapter.workingKind_trees ω
  exact erases_of_destroy trees (Reached.tidy trees ⟨registries, world, before, reached⟩)
    isRegistry destroyed

/-! ## Hooks that fail -/

/-- Services that do not want to be stopped or closed. -/
def stubborn : Behaviour Rehearsal.Stage Unit where
  hooks := ⟨fun event s world =>
    if event.canFail then .done s world else .refused (.reported "not now") s world⟩
  uniqueId _ := "service"
  process s message world := .done (s, message) world
  isValid _ := true

/-- A list of stubborn services, and a split-join over them. -/
def stubbornServices : List (Live Rehearsal.Stage Unit 1) :=
  [Layer.chain ⟨"list", ["a", "b"].map fun name => .new name ()⟩,
    Layer.single (.splitJoin (.new "split" ⟨"service", fun world => (.ok (), world)⟩ 2 "," 0))]

/-- Adapters that have, whatever their definitions say, one channel with one workflow of stubborn
services. -/
def stubbornKind : WorkingKind Rehearsal.Stage (AdapterTree Rehearsal.Stage Unit) where
  build d := ⟨1, d.id, [.new "channel" ⟨"channel", true, [.new "workflow"
    (.new (Live.behaviour stubborn 1) "channel" "workflow" stubbornServices)]⟩]⟩
  hooks := AdapterTree.hooks stubborn
  process workflow message t world := t.process stubborn workflow message world

theorem stubbornKind_trees : stubbornKind.Trees stubborn id where
  build d := by
    have services : ∀ s ∈ stubbornServices, Live.Shut 1 s := by
      refine List.forall_mem_cons.mpr ⟨?_, List.forall_mem_singleton.mpr ⟨rfl, rfl⟩⟩
      exact Members.fresh_map fun _ _ => trivial
    have workflow := Workflow.fresh_new (b := Live.behaviour stubborn 1) services "channel"
      "workflow"
    exact List.forall_mem_singleton.mpr ⟨rfl, List.forall_mem_singleton.mpr ⟨rfl, workflow⟩⟩
  hooks _ _ _ := rfl
  process _ _ _ _ := rfl

/-- Two registries with one server have an adapter each, the first of which has been started and has
processed a message when its registry destroys it. -/
theorem destroy_erases_stubborn :
    let f := (start [ofIds none 0, ofIds none 0] default).carryAll stubbornKind
      [.manage (.act 0 (.createFromText "a")), .manage (.act 1 (.createFromText "b")),
        .manage (.act 0 (.request .start 0)), .process 0 "workflow" (.plain "x,y" .empty)]
    f.host.handles[0]?.map Handle.state = some .started ∧
      (f.registries[0]?.map fun r => (r.destroy stubbornKind.toAdapterKind 0 f.host).answer) =
        some (.ok ()) ∧
      ∃ handle, f.host.handles[0]? = some handle ∧
        (f.carry stubbornKind (.manage (.act 0 (.destroy 0)))).Erased id 0 0 handle.name := by
  intro f
  have started : f.host.handles[0]?.map Handle.state = some .started := by decide
  have answered :
      (f.registries[0]?.map fun r => (r.destroy stubbornKind.toAdapterKind 0 f.host).answer) =
        some (.ok ()) := by
    rfl
  refine ⟨started, answered, ?_⟩
  obtain ⟨r, isRegistry, destroyed⟩ := Option.map_eq_some_iff.mp answered
  obtain ⟨handle, found, erased, _⟩ :=
    destroy_erases stubbornKind_trees ⟨_, _, _, rfl⟩ isRegistry destroyed
  exact ⟨handle, found, erased⟩

end Fleet

end IntegrationHost
