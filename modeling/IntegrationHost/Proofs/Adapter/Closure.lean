import IntegrationHost.Proofs.Adapter.Coherence
import IntegrationHost.Proofs.Service.Holding

/-!
# What a closed adapter holds

When an adapter is closed, nothing in the whole of it holds anything: its channels, workflows and
services are closed at every depth, and no split-join has a pool or threads. That is how it was when
it was new, and it is so again whatever has happened to it since and whichever hooks have failed.
-/

namespace IntegrationHost

open Lifecycle Service

variable {ω C L : Type}

/-- Members that suit a closed parent are closed, with components that fit that. -/
theorem Lifecycle.Members.coherent_closed_iff {P : State → C → Prop} {shut : C → Prop}
    (fits_iff : ∀ c, P .closed c ↔ shut c) (pick : C → Bool) (members : Members C) :
    members.Coherent pick P .closed ↔ members.Fresh shut := by
  constructor
  · intro coherent m isMember
    obtain ⟨closed, fits⟩ := coherent m isMember
    have isClosed : m.state = .closed := closed
    exact ⟨isClosed, (fits_iff m.component).mp (fits.of_state isClosed)⟩
  · intro fresh
    exact fresh.coherent (fun c => (fits_iff c).mpr) pick

namespace Service

/-! ## Split-joins -/

namespace SplitJoin

/-- Pool and threads are there together, and not when the split-join is closed. -/
structure Tidy (state : State) (s : SplitJoin ω C) : Prop where
  paired : s.Paired
  closed : state = .closed → s.pool = none

/-- Neither pool nor threads are there. -/
def Shut (s : SplitJoin ω C) : Prop :=
  s.pool = none ∧ s.executor = none

theorem tidy_closed_iff (s : SplitJoin ω C) : s.Tidy .closed ↔ s.Shut := by
  constructor
  · intro tidy
    have noPool := tidy.closed rfl
    have paired := tidy.paired
    rw [Paired, noPool] at paired
    exact ⟨noPool, Option.isNone_iff_eq_none.mp (Option.isSome_eq_false_iff.mp paired)⟩
  · rintro ⟨noPool, noThreads⟩
    constructor
    · rw [Paired, noPool, noThreads]
      rfl
    · exact fun _ => noPool

/-- Whatever comes of its events, a split-join stays tidy. -/
theorem hooks_keep_tidy (b : Behaviour ω C) : (hooks b).Keeps State.accepts Tidy := by
  intro state event s world _ tidy
  cases event with
  | init =>
      simp only [hooks]
      rcases takeUp_cases b s world with ⟨pool, executor, left, built⟩ | ⟨error, left, built⟩
      · rw [built]
        constructor
        · rfl
        · intro closed
          cases closed
      · rw [built]
        exact ⟨rfl, fun _ => rfl⟩
  | close => exact ⟨rfl, fun _ => rfl⟩
  | start | stop =>
      constructor
      · exact tidy.paired
      · intro closed
        cases closed

/-- No message changes whether pool and threads are there. -/
theorem process_holds (b : Behaviour ω C) (s : SplitJoin ω C) (message : Message) (world : ω) :
    (s.process b message world).value.1.pool.isSome = s.pool.isSome ∧
      (s.process b message world).value.1.executor = s.executor := by
  unfold process
  cases pool_eq : s.pool with
  | none => exact ⟨congrArg Option.isSome pool_eq, rfl⟩
  | some pool =>
      cases executor_eq : s.executor with
      | none => exact ⟨congrArg Option.isSome pool_eq, executor_eq⟩
      | some executor =>
          dsimp only
          split
          · exact ⟨rfl, rfl⟩
          · exact ⟨rfl, rfl⟩

theorem behaviour_keeps_tidy (b : Behaviour ω C) : (behaviour b).Keeps Tidy where
  hooks := (hooks_keep_tidy b).expected
  process state s message world tidy := by
    obtain ⟨pool_eq, executor_eq⟩ := process_holds b s message world
    constructor
    · exact (congrArg Option.isSome executor_eq).trans (tidy.paired.trans pool_eq.symm)
    · intro closed
      rw [tidy.closed closed] at pool_eq
      exact Option.isNone_iff_eq_none.mp (Option.isSome_eq_false_iff.mp pool_eq)

end SplitJoin

/-! ## Live services -/

namespace Single

/-- A split-join is tidy. -/
def Tidy (state : State) : Single ω L C → Prop
  | .leaf _ => True
  | .splitJoin s => s.Tidy state

/-- A split-join has neither pool nor threads. -/
def Shut : Single ω L C → Prop
  | .leaf _ => True
  | .splitJoin s => s.Shut

theorem tidy_closed_iff (s : Single ω L C) : s.Tidy .closed ↔ s.Shut := by
  cases s with
  | leaf s => exact Iff.rfl
  | splitJoin s => exact s.tidy_closed_iff

theorem behaviour_keeps_tidy (leaf : Behaviour ω L) (parts : Behaviour ω C) :
    (behaviour leaf parts).Keeps Tidy where
  hooks state event s world expected tidy := by
    cases s with
    | leaf s => trivial
    | splitJoin s =>
        exact (SplitJoin.behaviour_keeps_tidy parts).hooks state event s world expected tidy
  process state s message world tidy := by
    cases s with
    | leaf s => trivial
    | splitJoin s =>
        exact (SplitJoin.behaviour_keeps_tidy parts).process state s message world tidy

end Single

namespace Live

/-- In all lists the services go along with the list, and all split-joins are tidy. -/
def Tidy : (level : Nat) → State → Live ω L level → Prop
  | 0, _, _ => True
  | level + 1, state, service => Layer.Coherent Single.Tidy (Tidy level) state service

/-- In all lists the services are closed, and no split-join has a pool or threads. -/
def Shut : (level : Nat) → Live ω L level → Prop
  | 0, _ => True
  | _ + 1, .single s => s.Shut
  | level + 1, .chain s => s.services.Fresh (Shut level)

theorem behaviour_keeps_tidy (leaf : Behaviour ω L) (level : Nat) :
    (behaviour leaf level).Keeps (Tidy level) := by
  induction level with
  | zero => exact ⟨fun _ _ _ _ _ _ => trivial, fun _ _ _ _ _ => trivial⟩
  | succ level ih => exact Layer.behaviour_keeps (Single.behaviour_keeps_tidy leaf _) ih

theorem tidy_closed_iff {level : Nat} (service : Live ω L level) :
    Tidy level .closed service ↔ Shut level service := by
  induction level with
  | zero => exact Iff.rfl
  | succ level ih =>
      cases service with
      | single s => exact s.tidy_closed_iff
      | chain s => exact Members.coherent_closed_iff ih _ s.services

end Live

/-- Services made from definitions hold nothing. -/
theorem Definition.instantiate_shut [Journal ω] (level : Nat) (d : Definition)
    (rank_le : d.rank ≤ level) :
    Live.Shut level (d.instantiate (ω := ω) level rank_le) := by
  induction level generalizing d with
  | zero => trivial
  | succ level ih =>
      cases d with
      | simple id task => trivial
      | splitJoin id poolSize separator timeout service => exact ⟨rfl, rfl⟩
      | list id services =>
          unfold instantiate
          simp only [Live.Shut, Chain.new, List.map_map]
          exact Members.fresh_map fun s isService => ih s.1 _

end Service

/-! ## Adapters -/

/-- An adapter of live services, of some level. -/
structure AdapterTree (ω L : Type) where
  level : Nat
  adapter : Adapter (Live ω L level)

namespace AdapterTree

/-- What an adapter does at each event. -/
def hooks (leaf : Behaviour ω L) : Hooks ω (AdapterTree ω L) :=
  ⟨fun event t world =>
    ((Adapter.hooks (Live.behaviour leaf t.level)).run event t.adapter world).map fun adapter =>
      ⟨t.level, adapter⟩⟩

/-- What is left of an adapter and its surroundings when a workflow of it has processed a message.
-/
def process (leaf : Behaviour ω L) (workflow : String) (message : Message) (t : AdapterTree ω L)
    (world : ω) : AdapterTree ω L × ω :=
  let done := t.adapter.process (Live.behaviour leaf t.level) workflow message world
  (⟨t.level, done.value.1⟩, done.world)

/-- All components go along with the one that drives them, and all split-joins are tidy. -/
def Tidy (state : State) (t : AdapterTree ω L) : Prop :=
  t.adapter.Coherent (Live.Tidy t.level) state

/-- All channels, workflows and services are closed, at every depth, and no split-join has a pool or
threads. -/
def Shut (t : AdapterTree ω L) : Prop :=
  t.adapter.Fresh (Live.Shut t.level)

theorem tidy_closed_iff (t : AdapterTree ω L) : t.Tidy .closed ↔ t.Shut := by
  apply Members.coherent_closed_iff
  intro channel
  apply Members.coherent_closed_iff
  intro workflow
  apply Members.coherent_closed_iff
  exact Live.tidy_closed_iff

/-- Whatever comes of its events, an adapter stays tidy. -/
theorem hooks_keep_tidy (leaf : Behaviour ω L) :
    (hooks leaf).Keeps State.accepts Tidy := by
  intro state event t world legal tidy
  exact Adapter.hooks_keeps (Live.behaviour_keeps_tidy leaf t.level) state event t.adapter world
    legal tidy

/-- Whatever comes of a message, an adapter stays tidy. -/
theorem process_keeps_tidy (leaf : Behaviour ω L) {state : State} {t : AdapterTree ω L}
    (tidy : t.Tidy state) (workflow : String) (message : Message) (world : ω) :
    (t.process leaf workflow message world).1.Tidy state :=
  Adapter.process_coherent (Live.behaviour_keeps_tidy leaf t.level) tidy workflow message world

end AdapterTree

/-- Adapters made from definitions hold nothing. -/
theorem AdapterDefinition.instantiate_shut [Journal ω] (d : AdapterDefinition) :
    AdapterTree.Shut ⟨d.rank, d.instantiate (ω := ω)⟩ := by
  refine Members.fresh_map fun channel _ => ?_
  refine Members.fresh_map fun workflow _ => Workflow.fresh_new ?_ _ _
  intro service isService
  obtain ⟨s, _, rfl⟩ := List.mem_map.mp isService
  exact Definition.instantiate_shut d.rank s.1 _

end IntegrationHost
