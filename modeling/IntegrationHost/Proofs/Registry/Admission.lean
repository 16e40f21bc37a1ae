import IntegrationHost.Proofs.Registry.Consistency

/-!
# What an admission can do

An admission either admits an adapter or leaves everything as it was. It may break off at many
points; at one of them the adapter is listed already, and no longer afterwards.
-/

namespace IntegrationHost

variable {ω A : Type}

/-! ## Undoing -/

/-- Where the operation failed it left a registry and a host as they were. -/
def Reply.LeavesOnError {α : Type} (reply : Reply ω A α) (r : Registry ω) (h : Host ω A) : Prop :=
  ∀ {error}, reply.answer = .error error → reply = .refuse error r h

namespace Reply

variable {α : Type} {r : Registry ω} {h : Host ω A}

theorem leavesOnError_refuse (error : Error) :
    (refuse error r h : Reply ω A α).LeavesOnError r h := by
  intro other failed
  cases failed
  rfl

theorem leavesOnError_ok (a : α) (left : Registry ω) (host : Host ω A) :
    (⟨.ok a, left, host⟩ : Reply ω A α).LeavesOnError r h := by
  intro error failed
  cases failed

end Reply

namespace Host

variable {s n : Nat} {h : Host ω A}

/-- A handle that was just kept can be let go again. -/
theorem dropNewest_addHandle (h : Host ω A) (handle : Handle A) :
    (h.addHandle handle).2.dropNewest = h := by
  simp only [addHandle, dropNewest, List.dropLast_concat]

theorem handle_addHandle (h : Host ω A) (handle : Handle A) :
    (h.addHandle handle).2.handles[h.handles.length]? = some handle :=
  List.getElem?_concat_length

/-- The adapter of a handle is put on a server, or the server is left as it was. -/
theorem registerHandle_cases {handle : Handle A} (found : h.handles[n]? = some handle) (s : Nat) :
    (∃ error, h.registerHandle s n = (.error error, h)) ∨
      ∃ server, (h.servers s).register handle.name (.adapter n) = .ok server ∧
        h.registerHandle s n = (.ok (), h.setServer s server) := by
  simp only [registerHandle, found, register]
  cases (h.servers s).register handle.name (.adapter n) with
  | error error => exact Or.inl ⟨error, rfl⟩
  | ok server => exact Or.inr ⟨server, rfl, rfl⟩

end Host

namespace Registry

variable {r : Registry ω} {h : Host ω A} {n : Nat} {name : ObjectName}

/-- What is not listed can be taken off the list without effect. -/
theorem delist_unlisted (unlisted : r.lists name = false) : r.delist name = r := by
  have notListed : name ∉ r.listed := by simpa [lists] using unlisted
  have listed_eq : r.listed.filter (· != name) = r.listed := by
    apply List.filter_eq_self.mpr
    intro other member
    apply bne_iff_ne.mpr
    rintro rfl
    exact notListed member
  simp only [delist, listed_eq]

/-- What was not listed before, and is listed, can be taken off the list again. -/
theorem delist_list (unlisted : r.lists name = false) : (r.list name).delist name = r := by
  refine Eq.trans ?_ (delist_unlisted unlisted)
  simp [list, delist]

/-- An adapter that was not listed before is put on the server, or not listed after all. -/
theorem expose_cases {handle : Handle A} (found : h.handles[n]? = some handle)
    (unlisted : r.lists handle.name = false) :
    (∃ error, (r.list handle.name).expose n handle.name h = .refuse error r h) ∨
      ∃ server, (h.servers r.server).register handle.name (.adapter n) = .ok server ∧
        (r.list handle.name).expose n handle.name h =
          ⟨.ok handle.name, r.list handle.name, h.setServer r.server server⟩ := by
  unfold expose
  rcases Host.registerHandle_cases found r.server with
    ⟨error, refused⟩ | ⟨server, registered, done⟩
  · refine Or.inl ⟨.management error, ?_⟩
    rw [show (r.list handle.name).server = r.server from rfl, refused]
    simp only [delist_list unlisted]
    rfl
  · refine Or.inr ⟨server, registered, ?_⟩
    rw [show (r.list handle.name).server = r.server from rfl, done]

/-! ## Creating -/

variable {kind : AdapterKind ω A}

theorem prepare_ok {text : String} {handle : Handle A}
    (prepared : r.prepare kind text = .ok handle) :
    ∃ d, r.unmarshal text = .ok d ∧ r.check d = .ok () ∧ Handle.new kind d = .ok handle := by
  unfold prepare at prepared
  cases read : r.unmarshal text with
  | error error =>
      rw [read] at prepared
      cases prepared
  | ok d =>
      cases accepted : r.check d with
      | error error =>
          simp only [read, bind, Except.bind, accepted] at prepared
          cases prepared
      | ok _ =>
          cases made : Handle.new kind d with
          | error error =>
              simp only [read, bind, Except.bind, accepted, made, Except.mapError] at prepared
              cases prepared
          | ok other =>
              simp only [read, bind, Except.bind, accepted, made, Except.mapError] at prepared
              cases prepared
              exact ⟨d, rfl, accepted, made⟩

variable (kind) in
/-- An adapter is created, listed, put on the server and remembered with its location, or nothing
happens at all. -/
theorem create_cases (text : String) (location : Option Config.Location) (r : Registry ω)
    (h : Host ω A) :
    (∃ error, r.create kind text location h = .refuse error r h) ∨
      ∃ handle server, r.prepare kind text = .ok handle ∧ r.lists handle.name = false ∧
        (h.servers r.server).register handle.name (.adapter h.handles.length) = .ok server ∧
        r.create kind text location h =
          ⟨.ok handle.name, r.enlisted handle.name location,
            (h.addHandle handle).2.setServer r.server server⟩ := by
  unfold create
  cases prepared : r.prepare kind text with
  | error error => exact Or.inl ⟨error, rfl⟩
  | ok handle =>
      cases isListed : r.lists handle.name with
      | true => exact Or.inl ⟨_, if_pos isListed⟩
      | false =>
          simp only [isListed, Bool.false_eq_true, if_false]
          rcases expose_cases (h.handle_addHandle handle) isListed with
            ⟨error, refused⟩ | ⟨server, registered, exposed⟩
          · refine Or.inl ⟨error, ?_⟩
            simp only [show (h.addHandle handle).1 = h.handles.length from rfl, refused,
              Reply.refuse, Host.dropNewest_addHandle]
          · refine Or.inr ⟨handle, server, rfl, isListed, registered, ?_⟩
            simp only [show (h.addHandle handle).1 = h.handles.length from rfl, exposed]
            rfl

theorem create_leavesOnError (text : String) (location : Option Config.Location) :
    (r.create kind text location h).LeavesOnError r h := by
  rcases create_cases kind text location r h with ⟨error, refused⟩ | ⟨_, _, _, _, _, created⟩
  · rw [refused]
    exact Reply.leavesOnError_refuse error
  · rw [created]
    exact Reply.leavesOnError_ok _ _ _

theorem createFrom_leavesOnError (location : Config.Location) :
    (r.createFrom kind location h).LeavesOnError r h := by
  unfold createFrom
  cases r.collaborators.transport.read location h.world with
  | error error => exact Reply.leavesOnError_refuse error
  | ok text => exact create_leavesOnError text (some location)

theorem createFromUrl_leavesOnError (url : String) :
    (r.createFromUrl kind url h).LeavesOnError r h := by
  unfold createFromUrl
  cases Config.Location.ofText url with
  | error error => exact Reply.leavesOnError_refuse _
  | ok location => exact createFrom_leavesOnError location

/-! ## Adding -/

/-- A handle is admitted unless its adapter was destroyed or its name is listed. Only where its name
is not known to the server is its adapter put there. -/
theorem add_cases (n : Nat) (r : Registry ω) (h : Host ω A) :
    (∃ error, r.add n h = .refuse error r h) ∨
      ∃ handle, h.handles[n]? = some handle ∧ handle.destroyed = false ∧
        r.lists handle.name = false ∧
        ((h.servers r.server).knows handle.name = true ∧
            r.add n h = ⟨.ok handle.name, r.list handle.name, h⟩ ∨
          ∃ server, (h.servers r.server).register handle.name (.adapter n) = .ok server ∧
            r.add n h =
              ⟨.ok handle.name, r.list handle.name, h.setServer r.server server⟩) := by
  unfold add
  cases found : h.handles[n]? with
  | none => exact Or.inl ⟨_, rfl⟩
  | some handle =>
      cases alive : handle.destroyed with
      | true => exact Or.inl ⟨_, if_pos alive⟩
      | false =>
          cases isListed : r.lists handle.name with
          | true =>
              simp only [alive, isListed, Bool.false_eq_true, if_false, if_true]
              exact Or.inl ⟨_, rfl⟩
          | false =>
              simp only [alive, isListed, Bool.false_eq_true, if_false]
              cases known : (h.servers r.server).knows handle.name with
              | true => exact Or.inr ⟨handle, rfl, alive, isListed, Or.inl ⟨known, rfl⟩⟩
              | false =>
                  simp only [Bool.false_eq_true, if_false]
                  rcases expose_cases found isListed with
                    ⟨error, refused⟩ | ⟨server, registered, exposed⟩
                  · exact Or.inl ⟨error, refused⟩
                  · exact Or.inr
                      ⟨handle, rfl, alive, isListed, Or.inr ⟨server, registered, exposed⟩⟩

theorem add_leavesOnError (n : Nat) : (r.add n h).LeavesOnError r h := by
  rcases add_cases n r h with
    ⟨error, refused⟩ | ⟨_, _, _, _, ⟨_, added⟩ | ⟨_, _, added⟩⟩
  · rw [refused]
    exact Reply.leavesOnError_refuse error
  · rw [added]
    exact Reply.leavesOnError_ok _ _ _
  · rw [added]
    exact Reply.leavesOnError_ok _ _ _

end Registry

end IntegrationHost
