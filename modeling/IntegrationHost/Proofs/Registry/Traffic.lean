import IntegrationHost.Proofs.Adapter.Closure
import IntegrationHost.Proofs.Registry.Fleet

/-!
# Traffic

Beside what registries do, adapters process messages, components on servers are asked for something,
and the surroundings change on their own. What every move of a host and every message keeps is kept
by all of this traffic: adapters stay tidy, and what was destroyed stays destroyed.
-/

namespace IntegrationHost

open Lifecycle Service

variable {ω A L : Type}

/-- How adapters are made, driven, and put to work on messages. -/
structure WorkingKind (ω A : Type) extends AdapterKind ω A where
  process : String → Message → A → ω → A × ω

/-- Adapters of a kind are trees of live services: each new one holds nothing, and its tree goes
through the same events and messages. -/
structure WorkingKind.Trees (kind : WorkingKind ω A) (leaf : Behaviour ω L)
    (tree : A → AdapterTree ω L) : Prop where
  build : ∀ d, (tree (kind.build d)).Shut
  hooks : Hooks.Projection tree kind.hooks (AdapterTree.hooks leaf)
  process : ∀ workflow message a world,
    tree (kind.process workflow message a world).1 =
      ((tree a).process leaf workflow message world).1

/-- The adapters that definitions are made into. -/
def LiveAdapter.workingKind (ω : Type) [Journal ω] : WorkingKind ω (LiveAdapter ω) :=
  { LiveAdapter.kind ω with
    process := fun workflow message a world =>
      let done := a.process workflow message world
      (done.value.1, done.world) }

/-- The tree of an adapter. -/
def LiveAdapter.tree (a : LiveAdapter ω) : AdapterTree ω Simple := ⟨a.level, a.adapter⟩

theorem LiveAdapter.workingKind_trees (ω : Type) [Journal ω] :
    (workingKind ω).Trees (Simple.behaviour ω) tree where
  build d := d.instantiate_shut
  hooks _ _ _ := rfl
  process _ _ _ _ := rfl

namespace WorkingKind

variable {kind : WorkingKind ω A} {leaf : Behaviour ω L} {tree : A → AdapterTree ω L}

/-- An adapter whose tree is tidy. -/
def Tidy (tree : A → AdapterTree ω L) (state : State) (a : A) : Prop :=
  (tree a).Tidy state

theorem Trees.build_tidy (trees : kind.Trees leaf tree) (d : AdapterDefinition) :
    Tidy tree .closed (kind.build d) :=
  (AdapterTree.tidy_closed_iff _).mpr (trees.build d)

theorem Trees.hooks_keep_tidy (trees : kind.Trees leaf tree) :
    kind.hooks.Keeps State.accepts (Tidy tree) := by
  intro state event a world legal tidy
  have kept := AdapterTree.hooks_keep_tidy leaf state event (tree a) world legal tidy
  rw [trees.hooks event a world] at kept
  exact kept

theorem Trees.process_keeps_tidy (trees : kind.Trees leaf tree) {state : State} {a : A}
    (tidy : Tidy tree state a) (workflow : String) (message : Message) (world : ω) :
    Tidy tree state (kind.process workflow message a world).1 := by
  unfold Tidy
  rw [trees.process]
  exact AdapterTree.process_keeps_tidy leaf tidy workflow message world

end WorkingKind

/-- The adapter of a new handle fits its state if those that are built fit being closed. -/
theorem Handle.new_fits {kind : AdapterKind ω A} {P : State → A → Prop}
    (builds : ∀ d, P .closed (kind.build d)) {d : AdapterDefinition} {handle : Handle A}
    (made : Handle.new kind d = .ok handle) : handle.adapter.Fits P := by
  unfold Handle.new at made
  split at made
  · cases made
  · cases made
    exact builds d

namespace Host

variable {kind : AdapterKind ω A} {h host : Host ω A} {n m : Nat} {handle : Handle A}
  {name : ObjectName}

/-- Put the adapter of a handle to work. -/
def work (work : A → ω → A × ω) (n : Nat) (h : Host ω A) : Host ω A :=
  match h.handles[n]? with
  | none => h
  | some handle =>
    let left := work handle.adapter.component h.world
    { h.setHandle n { handle with adapter := handle.adapter.withComponent left.1 } with
      world := left.2 }

/-- What processing a message leaves of the host. -/
theorem process_world [Journal ω] (n : Nat) (workflow : String) (message : Message)
    (h : Host ω (LiveAdapter ω)) :
    (h.process n workflow message).world =
      h.work ((LiveAdapter.workingKind ω).process workflow message) n := by
  unfold process work
  cases h.handles[n]? <;> rfl

theorem work_cases (work : A → ω → A × ω) (n : Nat) (h : Host ω A) :
    (h.handles[n]? = none ∧ h.work work n = h) ∨
      ∃ handle, h.handles[n]? = some handle ∧
        h.work work n =
          { h.setHandle n { handle with
              adapter := handle.adapter.withComponent
                (work handle.adapter.component h.world).1 } with
            world := (work handle.adapter.component h.world).2 } := by
  unfold Host.work
  cases found : h.handles[n]? with
  | none => exact Or.inl ⟨rfl, rfl⟩
  | some handle => exact Or.inr ⟨handle, rfl, rfl⟩

/-- A claim marks an adapter as destroyed, or nothing happens. -/
theorem claim_cases (n : Nat) (h : Host ω A) :
    (h.claim n).2 = h ∨
      ∃ handle, h.handles[n]? = some handle ∧ handle.destroyed = false ∧
        (h.claim n).2 = h.setHandle n { handle with destroyed := true } := by
  unfold Host.claim
  cases found : h.handles[n]? with
  | none => exact Or.inl rfl
  | some handle =>
      cases isDestroyed : handle.destroyed with
      | true => exact Or.inl (by simp only [isDestroyed, if_true])
      | false => exact Or.inr ⟨handle, rfl, isDestroyed, by simp [isDestroyed]⟩

/-! ## Adapters that fit their states -/

/-- The adapters of all handles fit their states. -/
def Furnished (P : State → A → Prop) (h : Host ω A) : Prop :=
  ∀ handle ∈ h.handles, handle.adapter.Fits P

variable {P : State → A → Prop}

theorem furnished_new (world : ω) : (Host.new world).Furnished P :=
  List.forall_mem_nil _

theorem Furnished.setHandle (furnished : h.Furnished P) (fits : handle.adapter.Fits P) (n : Nat) :
    (h.setHandle n handle).Furnished P := by
  intro other isHandle
  rcases List.mem_or_eq_of_mem_set isHandle with before | rfl
  · exact furnished other before
  · exact fits

/-- No move takes away the fit of an adapter. -/
theorem Furnished.move (builds : ∀ d, P .closed (kind.build d))
    (keeps : kind.hooks.Keeps State.expects P) (furnished : h.Furnished P)
    (move : Move kind h host) : host.Furnished P := by
  cases move with
  | keep made =>
      intro handle isHandle
      rcases List.mem_append.mp isHandle with before | isNew
      · exact furnished handle before
      · cases List.mem_singleton.mp isNew
        exact Handle.new_fits builds made
  | request event n =>
      unfold Host.request
      cases found : h.handles[n]? with
      | none => exact furnished
      | some handle =>
          have fits := furnished handle (List.mem_of_getElem? found)
          exact furnished.setHandle (fits.request keeps event h.world) n
  | claim n =>
      rcases claim_cases n h with same | ⟨handle, found, _, claimed⟩
      · rw [same]
        exact furnished
      · rw [claimed]
        have fits := furnished handle (List.mem_of_getElem? found)
        have stillFits : { handle with destroyed := true }.adapter.Fits P := fits
        exact furnished.setHandle stillFits n
  | serve _ _ => exact furnished
  | register _ _ => exact furnished
  | unregister _ _ => exact furnished
  | estrange _ => exact furnished
  | pass _ => exact furnished

theorem Furnished.work (furnished : h.Furnished P) {work : A → ω → A × ω}
    (works : ∀ state a world, P state a → P state (work a world).1) (n : Nat) :
    (h.work work n).Furnished P := by
  rcases work_cases work n h with ⟨_, same⟩ | ⟨handle, found, worked⟩
  · rw [same]
    exact furnished
  · rw [worked]
    have fits := furnished handle (List.mem_of_getElem? found)
    have worksOn : (handle.adapter.withComponent
        (work handle.adapter.component h.world).1).Fits P := works _ _ _ fits
    exact furnished.setHandle worksOn n

/-! ## What was destroyed -/

theorem Move.destroyed (move : Move kind h host) (marked : h.mark? n = some (name, true)) :
    host.mark? n = some (name, true) := by
  cases move with
  | keep _ =>
      rw [mark?_addHandle, if_neg (Nat.ne_of_lt (mark?_lt marked))]
      exact marked
  | request event m => exact (mark?_request kind event m h n).trans marked
  | claim m =>
      rcases claim_cases m h with same | ⟨handle, found, alive, claimed⟩
      · rw [same]
        exact marked
      · rw [claimed, mark?_setHandle found]
        by_cases same : n = m
        · subst same
          obtain ⟨other, sameFound, rfl, _⟩ := mark?_eq_some_iff.mp marked
          cases found.symm.trans sameFound
          exact if_pos rfl
        · rw [if_neg same]
          exact marked
  | serve _ _ => exact marked
  | register _ _ => exact marked
  | unregister _ _ => exact marked
  | estrange _ => exact marked
  | pass _ => exact marked

/-- Work changes no mark. -/
theorem mark?_work (work : A → ω → A × ω) (n : Nat) (h : Host ω A) (m : Nat) :
    (h.work work n).mark? m = h.mark? m := by
  rcases work_cases work n h with ⟨_, same⟩ | ⟨handle, found, worked⟩
  · rw [same]
  · rw [worked]
    apply (mark?_setHandle found m).trans
    by_cases same : m = n
    · rw [if_pos same, same, mark?, found]
      rfl
    · exact if_neg same

/-! ## Asking components -/

theorem invokeAdapter_reaches (kind : AdapterKind ω A) (operation : Management.Operation) (n : Nat)
    (h : Host ω A) : Reaches kind h (h.invokeAdapter kind operation n).2 := by
  cases operation with
  | request event =>
      have reaches : Reaches kind h (h.request kind event n).2 := (Move.request h event n).reaches
      simp only [invokeAdapter]
      split
      · exact reaches
      · exact reaches
  | _ =>
      cases found : h.handles[n]? with
      | none =>
          simp only [invokeAdapter, found]
          exact .refl
      | some handle =>
          simp only [invokeAdapter, found]
          exact .refl

theorem invoke_reaches (kind : AdapterKind ω A) (s : Nat) (name : ObjectName)
    (operation : Management.Operation) (h : Host ω A) :
    Reaches kind h (h.invoke kind s name operation).2 := by
  unfold invoke
  split
  · exact .refl
  · exact invokeAdapter_reaches kind _ _ h
  · exact .refl
  · exact .refl
  · exact (Move.estrange h _).reaches

end Host

namespace Fleet

/-! ## Runs -/

/-- What can happen to registries and to the adapters on their host. -/
inductive Traffic (ω : Type) where
  /-- A registry is used, or a server past all registries. -/
  | manage (action : Action)
  /-- An adapter processes a message in the workflow of a name. -/
  | process (n : Nat) (workflow : String) (message : Message)
  /-- The component of a name on a server is asked for something. -/
  | invoke (s : Nat) (name : ObjectName) (operation : Management.Operation)
  /-- The surroundings change on their own. -/
  | disturb (world : ω)

/-- What traffic leaves. -/
def carry (kind : WorkingKind ω A) (f : Fleet ω A) : Traffic ω → Fleet ω A
  | .manage action => f.step kind.toAdapterKind action
  | .process n workflow message => { f with host := f.host.work (kind.process workflow message) n }
  | .invoke s name operation =>
    { f with host := (f.host.invoke kind.toAdapterKind s name operation).2 }
  | .disturb world => { f with host := { f.host with world } }

/-- What it leaves when one thing happens after the other. -/
def carryAll (kind : WorkingKind ω A) (f : Fleet ω A) (traffic : List (Traffic ω)) : Fleet ω A :=
  traffic.foldl (carry kind) f

/-- What traffic leaves of adapters that work as their definitions say. -/
def carryLive [Journal ω] (f : Fleet ω (LiveAdapter ω)) : Traffic ω → Fleet ω (LiveAdapter ω)
  | .manage action => f.step (LiveAdapter.kind ω) action
  | .process n workflow message => { f with host := (f.host.process n workflow message).world }
  | .invoke s name operation =>
    { f with host := (f.host.invoke (LiveAdapter.kind ω) s name operation).2 }
  | .disturb world => { f with host := { f.host with world } }

theorem carryLive_eq [Journal ω] :
    carryLive (ω := ω) = carry (LiveAdapter.workingKind ω) := by
  funext f traffic
  cases traffic with
  | process n workflow message =>
      exact congrArg (Fleet.mk f.registries) (f.host.process_world n workflow message)
  | manage action => rfl
  | invoke s name operation => rfl
  | disturb world => rfl

variable {kind : WorkingKind ω A} {J : Host ω A → Prop}

section

variable (moves : ∀ {h host : Host ω A}, Host.Move kind.toAdapterKind h host → J h → J host)
  (works : ∀ {h : Host ω A} {workflow message} n, J h →
    J (h.work (kind.process workflow message) n))

include moves works

/-- What single moves and messages keep is kept by all that happens. -/
theorem carry_keeps {f : Fleet ω A} (holds : J f.host) (traffic : Traffic ω) :
    J (f.carry kind traffic).host := by
  have reaches : ∀ {host}, Host.Reaches kind.toAdapterKind f.host host → J host := by
    intro host path
    induction path with
    | refl => exact holds
    | tail _ move ih => exact moves move ih
  cases traffic with
  | manage action => exact reaches (f.step_reaches action)
  | process n workflow message => exact works n holds
  | invoke s name operation =>
      exact reaches (Host.invoke_reaches kind.toAdapterKind s name operation f.host)
  | disturb world => exact reaches (Host.Move.pass f.host world).reaches

theorem carryAll_keeps {f : Fleet ω A} (holds : J f.host) (traffic : List (Traffic ω)) :
    J (f.carryAll kind traffic).host := by
  induction traffic generalizing f with
  | nil => exact holds
  | cons first rest ih => exact ih (carry_keeps moves works holds first)

end

/-- Whatever happens, all adapters stay tidy. -/
theorem tidy_carryAll {leaf : Behaviour ω L} {tree : A → AdapterTree ω L}
    (trees : kind.Trees leaf tree) {f : Fleet ω A}
    (tidy : f.host.Furnished (WorkingKind.Tidy tree)) (traffic : List (Traffic ω)) :
    (f.carryAll kind traffic).host.Furnished (WorkingKind.Tidy tree) := by
  apply carryAll_keeps _ _ tidy
  · intro h host move furnished
    exact furnished.move trees.build_tidy trees.hooks_keep_tidy.expected move
  · intro h workflow message n furnished
    apply furnished.work
    intro state a world fits
    exact trees.process_keeps_tidy fits workflow message world

/-- Whatever happens, what was destroyed stays so under its name. -/
theorem destroyed_carryAll {f : Fleet ω A} {n : Nat} {name : ObjectName}
    (marked : f.host.mark? n = some (name, true)) (traffic : List (Traffic ω)) :
    (f.carryAll kind traffic).host.mark? n = some (name, true) := by
  apply carryAll_keeps (J := fun h => h.mark? n = some (name, true)) _ _ marked
  · exact fun move marked => move.destroyed marked
  · exact fun m marked => (Host.mark?_work _ m _ n).trans marked

end Fleet

end IntegrationHost
