import IntegrationHost.Proofs.Lifecycle.Requests
import IntegrationHost.Proofs.Registry.Admission

/-!
# What a destruction can do

A destruction either leaves everything as it was or tears one adapter down: it is marked as
destroyed, closed, taken off the server and forgotten. No other handle is touched. By name, it also
forgets what the server does not know.
-/

namespace IntegrationHost

open Lifecycle

variable {ω A : Type}

namespace Host

/-- What tearing down the adapter of a handle leaves of a host, when the claim on it is granted. -/
def tornDown (kind : AdapterKind ω A) (s n : Nat) (handle : Handle A) (h : Host ω A) : Host ω A :=
  (((h.setHandle n { handle with destroyed := true }).request kind .close n).2.unregister s
    handle.name).2

/-- The adapter of a handle was destroyed and is closed. -/
def Retired (h : Host ω A) (n : Nat) : Prop :=
  ∃ handle, h.handles[n]? = some handle ∧ handle.destroyed = true ∧ handle.state = .closed

variable {kind : AdapterKind ω A} {s n m : Nat} {handle : Handle A} {h : Host ω A}

theorem find_eq_ok_iff {name : ObjectName} :
    h.find s name = .ok n ↔ (h.servers s).adapter? name = some n := by
  unfold find
  cases (h.servers s).adapter? name <;> simp

/-- A request concerns one handle only. -/
theorem handle_request_of_ne (different : m ≠ n) (kind : AdapterKind ω A) (event : Event)
    (h : Host ω A) : (h.request kind event n).2.handles[m]? = h.handles[m]? := by
  unfold request
  cases h.handles[n]? with
  | none => rfl
  | some handle => exact List.getElem?_set_ne (Ne.symm different)

theorem handle_setHandle (found : h.handles[n]? = some handle) (changed : Handle A) :
    (h.setHandle n changed).handles[n]? = some changed :=
  List.getElem?_set_self (List.getElem?_eq_some_iff.mp found).1

theorem handle_request (found : h.handles[n]? = some handle) (kind : AdapterKind ω A)
    (event : Event) :
    (h.request kind event n).2.handles[n]? =
      some { handle with adapter := (handle.adapter.request kind.hooks event h.world).value } := by
  unfold request
  simp only [found]
  exact handle_setHandle found _

theorem servers_tornDown (kind : AdapterKind ω A) (s n : Nat) (handle : Handle A) (h : Host ω A)
    (t : Nat) :
    (h.tornDown kind s n handle).servers t =
      if t = s then (h.servers s).unregister handle.name else h.servers t := by
  simp only [tornDown, unregister, setServer, servers_request]
  rfl

theorem strangers_tornDown (kind : AdapterKind ω A) (s n : Nat) (handle : Handle A)
    (h : Host ω A) : (h.tornDown kind s n handle).strangers = h.strangers :=
  strangers_request kind .close n (h.setHandle n { handle with destroyed := true })

theorem adapter?_tornDown (kind : AdapterKind ω A) (s n : Nat) (handle : Handle A) (h : Host ω A)
    (name : ObjectName) :
    ((h.tornDown kind s n handle).servers s).adapter? name =
      if name = handle.name then none else (h.servers s).adapter? name := by
  rw [servers_tornDown, if_pos rfl, Management.Server.adapter?_unregister]

theorem handle_tornDown_of_ne (different : m ≠ n) :
    (h.tornDown kind s n handle).handles[m]? = h.handles[m]? :=
  (handle_request_of_ne different kind .close _).trans
    (List.getElem?_set_ne (Ne.symm different))

theorem mark?_tornDown (found : h.handles[n]? = some handle) (m : Nat) :
    (h.tornDown kind s n handle).mark? m =
      if m = n then some (handle.name, true) else h.mark? m :=
  (mark?_request kind .close n _ m).trans (mark?_setHandle found m)

theorem length_tornDown (kind : AdapterKind ω A) (s n : Nat) (handle : Handle A) (h : Host ω A) :
    (h.tornDown kind s n handle).handles.length = h.handles.length :=
  (length_request kind .close n _).trans List.length_set

/-- An adapter closes, whatever its hooks do. -/
theorem retired_tornDown (found : h.handles[n]? = some handle) :
    (h.tornDown kind s n handle).Retired n := by
  have marked := handle_setHandle found { handle with destroyed := true }
  have asked := handle_request marked kind .close
  exact ⟨_, asked, rfl, Managed.request_close_state kind.hooks _⟩

end Host

namespace Registry

variable {r : Registry ω} {h : Host ω A} {n : Nat} {handle : Handle A}

/-! ## Destroying by handle -/

/-- The adapter of a handle that the registry holds is destroyed, unless it was destroyed before. -/
theorem destroy_of_held (kind : AdapterKind ω A) (found : h.handles[n]? = some handle)
    (held : r.holds n handle.name (h.servers r.server) = true) :
    r.destroy kind n h =
      if handle.destroyed then .refuse (.notFound handle.name) r h
      else ⟨.ok (), r.forget handle.name, h.tornDown kind r.server n handle⟩ := by
  unfold destroy
  cases isDestroyed : handle.destroyed with
  | true => simp [found, held, Host.claim, isDestroyed, Reply.refuse]
  | false => simp [found, held, Host.claim, isDestroyed, tearDown, Host.tornDown]

/-- An adapter that the registry holds is torn down, or nothing happens at all. -/
theorem destroy_cases (kind : AdapterKind ω A) (n : Nat) (r : Registry ω) (h : Host ω A) :
    (∃ error, r.destroy kind n h = .refuse error r h) ∨
      ∃ handle, h.handles[n]? = some handle ∧ handle.destroyed = false ∧
        r.holds n handle.name (h.servers r.server) = true ∧
        r.destroy kind n h =
          ⟨.ok (), r.forget handle.name, h.tornDown kind r.server n handle⟩ := by
  cases found : h.handles[n]? with
  | none =>
      apply Or.inl
      exact ⟨.core "no such handle", by simp only [destroy, found]⟩
  | some handle =>
      cases held : r.holds n handle.name (h.servers r.server) with
      | false =>
          apply Or.inl
          exact ⟨.notFound handle.name, by simp [destroy, found, held]⟩
      | true =>
          have destroyed_eq := destroy_of_held kind found held
          cases alive : handle.destroyed with
          | true => exact Or.inl ⟨_, by rw [destroyed_eq, if_pos alive]⟩
          | false =>
              refine Or.inr ⟨handle, rfl, alive, held, ?_⟩
              simp only [destroyed_eq, alive, Bool.false_eq_true, if_false]

/-! ## Destroying by name -/

/-- What the server knows by a name that is listed is destroyed, unless it was destroyed before. -/
theorem destroyNamed_of_served (kind : AdapterKind ω A) (found : h.handles[n]? = some handle)
    (listed : r.lists handle.name = true)
    (served : (h.servers r.server).adapter? handle.name = some n) :
    r.destroyNamed kind handle.name h =
      if handle.destroyed then .refuse (.notFound handle.name) r h
      else ⟨.ok (), r.forget handle.name, h.tornDown kind r.server n handle⟩ := by
  have held : r.holds n handle.name (h.servers r.server) = true := by
    simp [holds, listed, served]
  rw [← destroy_of_held kind found held]
  simp only [destroyNamed, Host.find, served]

/-- What the server does not know is forgotten. -/
theorem destroyNamed_of_unserved (kind : AdapterKind ω A) {name : ObjectName}
    (unserved : (h.servers r.server).adapter? name = none) :
    r.destroyNamed kind name h = .refuse (.notFound name) (r.forget name) h := by
  simp only [destroyNamed, Host.find, unserved]

end Registry

end IntegrationHost
