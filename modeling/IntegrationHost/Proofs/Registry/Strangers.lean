import IntegrationHost.Proofs.Registry.Roll

/-!
# Handles that a registry has not admitted

A stranger is a handle that a registry is asked to destroy though it has admitted another one under
its name. The registry tells the two apart by what its server knows, and by nothing else.
-/

namespace IntegrationHost

variable {ω A : Type}

/-! ## Strangers -/

namespace Registry

/-- A registry takes a handle for the one that it has admitted: its name is listed, its adapter was
not destroyed, and the server knows no other adapter by that name. -/
structure Trusts (r : Registry ω) (h : Host ω A) (n : Nat) (handle : Handle A) : Prop where
  listed : r.lists handle.name = true
  alive : handle.destroyed = false
  noOther : ∀ {m}, (h.servers r.server).adapter? handle.name = some m → m = n

variable {kind : AdapterKind ω A} {r : Registry ω} {h : Host ω A} {n : Nat} {handle : Handle A}

theorem holds_iff {name : ObjectName} {server : Management.Server} :
    r.holds n name server = true ↔
      r.lists name = true ∧ ∀ m, server.adapter? name = some m → m = n := by
  unfold holds
  cases server.adapter? name with
  | none => simp
  | some m => simp

/-- A handle that is trusted is destroyed, and any other one is refused. -/
theorem destroy_eq_refuse_iff (kind : AdapterKind ω A) (found : h.handles[n]? = some handle) :
    r.destroy kind n h = .refuse (.notFound handle.name) r h ↔ ¬r.Trusts h n handle := by
  cases held : r.holds n handle.name (h.servers r.server) with
  | false =>
      have refused : r.destroy kind n h = .refuse (.notFound handle.name) r h := by
        simp [destroy, found, held]
      refine ⟨fun _ trusted => ?_, fun _ => refused⟩
      have holds := holds_iff.mpr ⟨trusted.listed, fun m => trusted.noOther⟩
      cases held.symm.trans holds
  | true =>
      obtain ⟨listed, noOther⟩ := holds_iff.mp held
      rw [destroy_of_held kind found held]
      cases alive : handle.destroyed with
      | true =>
          refine ⟨fun _ trusted => ?_, fun _ => if_pos rfl⟩
          cases alive.symm.trans trusted.alive
      | false =>
          constructor
          · intro refused
            have answers := congrArg Reply.answer refused
            cases answers
          · intro distrusted
            exact absurd ⟨listed, alive, noOther _⟩ distrusted

theorem destroy_of_trusted (kind : AdapterKind ω A) (found : h.handles[n]? = some handle)
    (trusted : r.Trusts h n handle) :
    r.destroy kind n h = ⟨.ok (), r.forget handle.name, h.tornDown kind r.server n handle⟩ := by
  have held := holds_iff.mpr ⟨trusted.listed, fun m => trusted.noOther⟩
  rw [destroy_of_held kind found held, trusted.alive]
  exact if_neg Bool.false_ne_true

end Registry

namespace Fleet.Roll

/-- However registries were used before, a registry refuses to destroy a handle that it has not
admitted under its name, leaving everything as it was, if and only if it does not trust the handle.
One that it trusts it destroys, and drops the name, while the handle that it has admitted, and that
its server does not know, stays as it was. -/
theorem destroy_stranger_iff (kind : AdapterKind ω A) {registries : List (Registry ω)}
    (new : ∀ r ∈ registries, r.listed = []) (world : ω) (actions : List Action) :
    let l := (start registries world).run kind actions
    let h := l.fleet.host
    ∀ i r n handle, l.fleet.registries[i]? = some r → h.handles[n]? = some handle →
      l.admitted i handle.name ≠ some n →
        let gone := r.destroy kind n h
        (gone = .refuse (.notFound handle.name) r h ↔ ¬r.Trusts h n handle) ∧
          (r.Trusts h n handle →
            gone.answer = .ok () ∧ gone.host.Retired n ∧
              gone.registry.lists handle.name = false ∧
              ∃ m, l.admitted i handle.name = some m ∧ h.name? m = some handle.name ∧
                (h.servers r.server).adapter? handle.name ≠ some m ∧
                gone.host.handles[m]? = h.handles[m]?) := by
  intro l h i r n handle isRegistry found stranger gone
  have complete : l.Complete := (complete_start new world).run actions
  refine ⟨Registry.destroy_eq_refuse_iff kind found, fun trusted => ?_⟩
  have destroyed := Registry.destroy_of_trusted kind found trusted
  obtain ⟨m, admitted⟩ := complete.listed isRegistry trusted.listed
  have different : m ≠ n := by
    rintro rfl
    exact stranger admitted
  rw [show gone = _ from destroyed]
  refine ⟨rfl, Host.retired_tornDown found, ?_, m, admitted, complete.own admitted, ?_, ?_⟩
  · rw [Registry.lists_forget, if_pos rfl]
  · intro served
    exact different (trusted.noOther served)
  · exact Host.handle_tornDown_of_ne different

/-- A registry has created an adapter, which its server knows. Another handle of the same name is
refused. -/
theorem destroy_stranger_iff_served :
    let kind := LiveAdapter.kind Rehearsal.Stage
    let l := (start [ofIds none 0] default).run kind
      [.act 0 (.createFromText "a"), .act 0 (.makeHandle ⟨some "a", []⟩)]
    ∃ r name, l.fleet.registries[0]? = some r ∧ l.admitted 0 name = some 0 ∧
      r.destroy kind 1 l.fleet.host = .refuse (.notFound name) r l.fleet.host := by
  intro kind l
  obtain ⟨handle, found, name_eq⟩ : ∃ handle, l.fleet.host.handles[1]? = some handle ∧
      handle.name = ⟨ObjectName.hostDomain, .ofList [("type", "Adapter"), ("id", "a")],
        by decide⟩ := ⟨_, rfl, rfl⟩
  have admitted : l.admitted 0 handle.name = some 0 := by
    rw [name_eq]
    rfl
  have stranger : l.admitted 0 handle.name ≠ some 1 := by
    rw [admitted]
    decide
  have new : ∀ r ∈ [ofIds none 0], r.listed = [] := by
    intro r member
    cases List.mem_singleton.mp member
    rfl
  obtain ⟨refused_iff, _⟩ := destroy_stranger_iff kind new default _ 0 _ 1 handle rfl found stranger
  refine ⟨_, handle.name, rfl, admitted, refused_iff.mpr fun trusted => ?_⟩
  have served : (l.fleet.host.servers 0).adapter? handle.name = some 0 := by
    rw [name_eq]
    decide
  cases trusted.noOther served

/-- A registry has created an adapter, which is then taken off its server. Another handle of the
same name is destroyed in its place. -/
theorem destroy_accepts_stranger :
    let kind := LiveAdapter.kind Rehearsal.Stage
    let name : ObjectName :=
      ⟨ObjectName.hostDomain, .ofList [("type", "Adapter"), ("id", "a")], by decide⟩
    let l := (start [ofIds none 0] default).run kind
      [.act 0 (.createFromText "a"), .unregister 0 name, .act 0 (.makeHandle ⟨some "a", []⟩)]
    ∃ r, l.fleet.registries[0]? = some r ∧ l.admitted 0 name = some 0 ∧
      let gone := r.destroy kind 1 l.fleet.host
      gone.answer = .ok () ∧ r.listed = [name] ∧ gone.registry.listed = [] ∧
        gone.host.handles.map Handle.destroyed = [false, true] := by
  intro kind name l
  exact ⟨_, rfl, by decide, by decide, by decide, by decide, by decide⟩

end Fleet.Roll

end IntegrationHost
