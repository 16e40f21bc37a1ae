import IntegrationHost.Proofs.Registry.Fleet

/-!
# Which adapter a registry serves

A registry finds its adapters by asking the server for their names. What it finds by the name of an
adapter that it has just admitted is that adapter if the server did not know the name before, or
knew that adapter by it; otherwise it is another one, which then is destroyed in its place.
-/

namespace IntegrationHost

variable {ω A : Type}

namespace Registry

variable {r : Registry ω} {h : Host ω A} {n : Nat} {name : ObjectName}

theorem lists_list (r : Registry ω) (name : ObjectName) : (r.list name).lists name = true := by
  simp [lists, list]

/-- What an adapter that was admitted is found to be. -/
theorem adapter?_add (added : (r.add n h).answer = .ok name) :
    ∃ handle, h.handles[n]? = some handle ∧ handle.name = name ∧ handle.destroyed = false ∧
      (r.add n h).registry = r.list name ∧ (r.add n h).host.handles = h.handles ∧
      ((r.add n h).host.servers r.server).adapter? name =
        if (h.servers r.server).knows name then (h.servers r.server).adapter? name
        else some n := by
  rcases add_cases n r h with
    ⟨error, refused⟩ | ⟨handle, found, alive, _, ⟨known, done⟩ | ⟨server, registered, done⟩⟩
  · rw [refused] at added
    cases added
  · rw [done] at added ⊢
    cases added
    exact ⟨handle, found, rfl, alive, rfl, rfl, by rw [if_pos known]⟩
  · rw [done] at added ⊢
    cases added
    have unknown := (Management.Server.register_eq_ok_iff.mp registered).1
    refine ⟨handle, found, rfl, alive, rfl, rfl, ?_⟩
    rw [Host.servers_setServer, if_pos rfl, Management.Server.adapter?_register registered,
      if_pos rfl, unknown, if_neg Bool.false_ne_true]

/-- When a registry has admitted the adapter of a handle, it finds that handle by the adapter's name
if and only if the server knew nothing by this name before, or knew this very handle. Where it
does, it destroys and closes this adapter when it destroys the adapter of the name. -/
theorem add_serves_iff (kind : AdapterKind ω A) (added : (r.add n h).answer = .ok name) :
    let left := r.add n h
    let gone := left.registry.destroyNamed kind name left.host
    (∃ handle, h.handles[n]? = some handle ∧ handle.name = name) ∧
      (left.host.find left.registry.server name = .ok n ↔
        (h.servers r.server).knows name = false ∨
          (h.servers r.server).adapter? name = some n) ∧
      (left.host.find left.registry.server name = .ok n →
        gone.answer = .ok () ∧ gone.host.Retired n) := by
  intro left gone
  obtain ⟨handle, found, rfl, alive, registry_eq, handles_eq, adapter_eq⟩ := adapter?_add added
  have server_eq : left.registry.server = r.server := by
    rw [registry_eq]
    rfl
  refine ⟨⟨handle, found, rfl⟩, ?_, ?_⟩
  · rw [server_eq, Host.find_eq_ok_iff, adapter_eq]
    cases known : (h.servers r.server).knows handle.name with
    | true => simp
    | false => simp
  · intro served
    have foundLeft : left.host.handles[n]? = some handle := by
      rw [handles_eq]
      exact found
    have listed : left.registry.lists handle.name = true := by
      rw [registry_eq]
      exact r.lists_list handle.name
    have destroyed := destroyNamed_of_served kind foundLeft listed (Host.find_eq_ok_iff.mp served)
    rw [if_neg (by simp [alive])] at destroyed
    rw [show gone = _ from destroyed]
    exact ⟨rfl, Host.retired_tornDown foundLeft⟩

/-- A handle is admitted by a registry on whose server nothing is known. -/
theorem add_serves_iff_alone :
    let kind := LiveAdapter.kind Rehearsal.Stage
    let r := Fleet.ofIds none 0
    let h := (Host.new default : Host Rehearsal.Stage _).makeHandle kind ⟨some "a", []⟩
    let left := r.add 0 h
    ∃ name, left.answer = .ok name ∧ left.host.find left.registry.server name = .ok 0 ∧
      (left.registry.destroyNamed kind name left.host).host.Retired 0 := by
  intro kind r h left
  have added : left.answer = .ok ⟨ObjectName.hostDomain, .ofList [("type", "Adapter"), ("id", "a")],
      by decide⟩ := by
    decide
  obtain ⟨_, served, retires⟩ := add_serves_iff kind added
  have found := served.mpr (Or.inl (by decide))
  exact ⟨_, added, found, (retires found).2⟩

/-- Two registries share a server. The first has created an adapter; the second admits another one
of the same name, which is running. What it finds by the name is the first adapter, and that is
the one it destroys, while the one that it has admitted goes on running. -/
theorem add_serves_another :
    let kind := LiveAdapter.kind Rehearsal.Stage
    let f := (Fleet.start [Fleet.ofIds none 0, Fleet.ofIds none 0] default).run kind
      [.act 0 (.createFromText "a"), .act 1 (.makeHandle ⟨some "a", []⟩),
        .act 1 (.request .start 1)]
    ∃ r name, f.registries[1]? = some r ∧
      let left := r.add 1 f.host
      let gone := left.registry.destroyNamed kind name left.host
      left.answer = .ok name ∧ left.host.find left.registry.server name = .ok 0 ∧
        gone.answer = .ok () ∧
        (gone.host.handles.map fun handle => (handle.destroyed, handle.state)) =
          [(true, .closed), (false, .started)] := by
  intro kind f
  refine ⟨Fleet.ofIds none 0,
    ⟨ObjectName.hostDomain, .ofList [("type", "Adapter"), ("id", "a")], by decide⟩, by rfl, ?_⟩
  exact ⟨by decide, by decide, by decide, by decide⟩

end Registry

end IntegrationHost
