import IntegrationHost.Proofs.Lifecycle.Discipline
import IntegrationHost.Proofs.Service.Outcome
import Mathlib.Data.List.Induction

/-!
# When a split-join holds its pool

A split-join has its pool and its threads together or not at all, and never when it is closed. Its
hook calls tell more: it has them if and only if the last time that it was initialised or closed it
was initialised with success. So it can lose them without being closed, by an `init` in the stopped
state that fails. It can be started again after that and has no workers then. As long as it has its
pool, it says of no message on its own account that it is unavailable.
-/

namespace IntegrationHost.Service

open Lifecycle

variable {ω C : Type}

/-! ## What calls say of the pool -/

namespace Call

/-- Whether resources are held after a call, when they were or were not before. -/
def holds : Bool → Call → Bool
  | _, ⟨.init, succeeded⟩ => succeeded
  | _, ⟨.close, _⟩ => false
  | held, _ => held

/-- Whether a component that held nothing does after calls. -/
def held (calls : List Call) : Bool := calls.foldl holds false

/-- The last of the calls that take up or give up resources is an `init` that failed where the
component was stopped. -/
def Lost (calls : List Call) : Prop :=
  ∃ before after, calls = before ++ ⟨.init, false⟩ :: after ∧ replay before = .stopped ∧
    ∀ call ∈ after, call.event ≠ .init ∧ call.event ≠ .close

variable {calls : List Call}

theorem held_append (calls : List Call) (call : Call) :
    held (calls ++ [call]) = holds (held calls) call :=
  List.foldl_concat ..

/-- Only the last call can lose resources, or leave them lost. -/
theorem lost_append {call : Call} :
    Lost (calls ++ [call]) ↔
      call = ⟨.init, false⟩ ∧ replay calls = .stopped ∨
        Lost calls ∧ call.event ≠ .init ∧ call.event ≠ .close := by
  constructor
  · rintro ⟨before, after, split, stopped, quiet⟩
    rcases List.eq_nil_or_concat after with rfl | ⟨between, last, rfl⟩
    · obtain ⟨rfl, same⟩ := List.append_inj' split rfl
      cases same
      exact Or.inl ⟨rfl, stopped⟩
    · rw [List.concat_eq_append, ← List.cons_append, ← List.append_assoc] at split
      obtain ⟨rfl, same⟩ := List.append_inj' split rfl
      cases same
      rw [List.concat_eq_append, List.forall_mem_append] at quiet
      exact Or.inr ⟨⟨before, between, rfl, stopped, quiet.1⟩, quiet.2 call List.mem_cons_self⟩
  · rintro (⟨rfl, stopped⟩ | ⟨⟨before, after, rfl, stopped, quiet⟩, notInit, notClose⟩)
    · exact ⟨calls, [], rfl, stopped, List.forall_mem_nil _⟩
    · refine ⟨before, after ++ [call], by rw [List.append_assoc, List.cons_append], stopped, ?_⟩
      rw [List.forall_mem_append, List.forall_mem_singleton]
      exact ⟨quiet, notInit, notClose⟩

/-- What is lawful is so up to the last call, and that call is legal. -/
theorem Lawful.of_append {call : Call} (lawful : Lawful (calls ++ [call])) :
    Lawful calls ∧ (replay calls).canMoveTo call.event.target = true := by
  constructor
  · rintro before other after rfl
    apply lawful before other (after ++ [call])
    rw [List.append_assoc, List.cons_append]
  · exact lawful calls call [] rfl

/-- After lawful calls a component is closed unless it holds its resources or has lost them, and it
does not hold what it has lost. -/
theorem Lawful.held_or_lost (lawful : Lawful calls) :
    (replay calls ≠ .closed ↔ held calls = true ∨ Lost calls) ∧
      (Lost calls → held calls = false) := by
  -- From the last call on backwards: each acts on what those before it have left.
  induction calls using List.reverseRecOn with
  | nil =>
      have notLost : ¬ Lost [] := by
        rintro ⟨before, after, split, _⟩
        cases before <;> cases split
      refine ⟨iff_of_false (absurd rfl) ?_, fun lost => absurd lost notLost⟩
      exact not_or.mpr ⟨nofun, notLost⟩
  | append_singleton calls call ih =>
      obtain ⟨lawful, legal⟩ := lawful.of_append
      obtain ⟨alive, notHeld⟩ := ih lawful
      rw [replay_append, held_append, lost_append]
      generalize replay calls = state at legal alive ⊢
      rcases call with ⟨event, succeeded⟩
      cases event <;> cases succeeded <;> cases state <;>
        simp_all [holds, next, State.canMoveTo, Event.target]

end Call

namespace SplitJoin

variable {b : Behaviour ω C} {s : SplitJoin ω C} {state : State}

/-! ## Events -/

/-- All that building anew can do: pool and threads are there, or neither is. -/
theorem takeUp_cases (b : Behaviour ω C) (s : SplitJoin ω C) (world : ω) :
    (∃ pool executor left, s.takeUp b world =
        .done { s with pool := some pool, executor := some executor } left) ∨
      ∃ error left, s.takeUp b world = .refused error s.bare left := by
  have released : s.release b world = (s.bare, s.closePool b world) := rfl
  simp only [takeUp, released]
  rcases s.bare.build b (s.closePool b world) with ⟨error | ⟨pool, executor⟩, left⟩
  · exact Or.inr ⟨_, left, rfl⟩
  · exact Or.inl ⟨pool, executor, left, rfl⟩

/-- Pool and threads are there together. -/
def Paired (s : SplitJoin ω C) : Prop :=
  s.executor.isSome = s.pool.isSome

/-- Pool and threads are there together, and whether they are is what the calls of the hooks say. -/
def HeldByCalls (r : Recorded (SplitJoin ω C)) : Prop :=
  r.service.Paired ∧ r.service.pool.isSome = Call.held r.calls

/-- Whatever comes of an event, the calls go on to say whether pool and threads are there. -/
theorem hooks_keep_heldByCalls (b : Behaviour ω C) (sent : State → Event → Bool) :
    (hooks b).recorded.Keeps sent (fun _ => HeldByCalls) := by
  rintro _ event ⟨s, calls⟩ world _ ⟨paired, held⟩
  simp only [HeldByCalls, Hooks.recorded, Attempt.map, Call.held_append]
  cases event with
  | init =>
      simp only [hooks]
      rcases takeUp_cases b s world with ⟨pool, executor, left, built⟩ | ⟨error, left, built⟩
      · rw [built]
        exact ⟨rfl, rfl⟩
      · rw [built]
        exact ⟨rfl, rfl⟩
  | close => exact ⟨rfl, rfl⟩
  | start => exact ⟨paired, held⟩
  | stop => exact ⟨paired, held⟩

/-! ## Messages -/

/-- A worker has failed with an error at one of the fragments. -/
def Blamed (b : Behaviour ω C) (cut : List Message) (error : Error) : Prop :=
  ∃ fragment ∈ cut, ∃ component world,
    (b.process component fragment world).verdict = .error (.error error)

/-- What is said to be unavailable was found so by a worker. -/
def Sound (b : Behaviour ω C) (cut : List Message) (result : Except Fault Message) : Prop :=
  ∀ service reason, result = .error (.error (.unavailable service reason)) →
    Blamed b cut (.unavailable service reason)

/-- One of the fragments is under way, and its result is sound. -/
def OnErrand (b : Behaviour ω C) (cut : List Message) : Errand C → Prop
  | .queued fragment => fragment ∈ cut
  | .begun _ fragment => fragment ∈ cut
  | .processed _ result => Sound b cut result
  | .ended result => Sound b cut result

variable {cut : List Message}

theorem OnErrand.sound {errand : Errand C} (onErrand : OnErrand b cut errand) :
    Sound b cut errand.result := by
  cases errand with
  | queued fragment => exact nofun
  | begun worker fragment => exact nofun
  | processed worker result => exact onErrand
  | ended result => exact onErrand

theorem OnErrand.advance {factory : Pool.Factory ω (Worker C)} {errand : Errand C}
    (onErrand : OnErrand b cut errand) (pool : Pool (Worker C)) (world : ω) :
    OnErrand b cut (errand.advance b factory pool world).1 := by
  cases errand with
  | queued fragment =>
      simp only [Errand.advance]
      rcases pool.borrow factory world with ⟨worker | error | _, pool, world⟩
      · exact onErrand
      · intro service reason failed
        cases failed
      · intro service reason failed
        cases failed
  | begun worker fragment =>
      intro service reason failed
      refine ⟨fragment, onErrand, worker.component, world, ?_⟩
      cases verdict : (b.process worker.component fragment world).verdict with
      | ok _ =>
          rw [verdict] at failed
          cases failed
      | error fault =>
          rw [verdict] at failed
          cases failed
          rfl
  | processed worker result => exact onErrand
  | ended result => exact onErrand

variable {factory : Pool.Factory ω (Worker C)} {threads : Nat} {f : Fanout ω C}

theorem advance_onErrand (all : ∀ errand ∈ f.errands, OnErrand b cut errand)
    (index : Nat) :
    ∀ errand ∈ (f.advance b factory threads index).errands, OnErrand b cut errand := by
  rcases f.advance_cases index with same | ⟨before, errand, after, errands_eq, _, step⟩
  · rw [same]
    exact all
  · rw [errands_eq, List.forall_mem_append, List.forall_mem_cons] at all
    rw [step, List.forall_mem_append, List.forall_mem_cons]
    exact ⟨all.1, all.2.1.advance _ _, all.2.2⟩

theorem run_onErrand (all : ∀ errand ∈ f.errands, OnErrand b cut errand)
    (order : List Nat) :
    ∀ errand ∈ (f.run b factory threads order).errands, OnErrand b cut errand := by
  induction order generalizing f with
  | nil => exact all
  | cons index rest ih => exact ih (advance_onErrand all index)

/-- A collected failure is one of the results. -/
theorem mem_of_collect {results : List (Except Error Message)} {error : Error}
    (failed : collect results = .error error) : .error error ∈ results := by
  induction results with
  | nil => cases failed
  | cons first rest ih =>
      cases first with
      | error reason =>
          cases failed
          exact List.mem_cons_self
      | ok fragment =>
          apply List.mem_cons_of_mem
          apply ih
          simp only [collect] at failed
          cases collected : collect rest with
          | ok _ =>
              rw [collected] at failed
              cases failed
          | error reason =>
              rw [collected] at failed
              cases failed
              rfl

/-- No task is reported as unavailable that did not complete. -/
theorem eq_of_reported {executor : Pool.Executor Unit} {result : Except Fault Message}
    {service reason : String}
    (reported_eq : reported executor result = .error (.unavailable service reason)) :
    result = .error (.error (.unavailable service reason)) := by
  cases result with
  | ok _ => cases reported_eq
  | error fault =>
      cases fault with
      | error error =>
          cases reported_eq
          rfl
      | breakdown => cases reported_eq

/-- A message is found unavailable only where a fragment of it is. -/
theorem deliver_sound {executor : Pool.Executor Unit} {message : Message}
    {results : List (Except Fault Message)} {world : ω} {service reason : String}
    (sound : ∀ result ∈ results, Sound b cut result)
    (failed : (s.deliver executor message results world).verdict =
      .error (.error (.unavailable service reason))) :
    Blamed b cut (.unavailable service reason) := by
  unfold deliver at failed
  cases collected : collect (results.map (reported executor)) with
  | ok processed =>
      rw [collected] at failed
      cases failed
  | error error =>
      rw [collected] at failed
      cases failed
      obtain ⟨result, isResult, reported_eq⟩ := List.mem_map.mp (mem_of_collect collected)
      exact sound result isResult service reason (eq_of_reported reported_eq)

/-- What is delivered leaves the split-join as it is. -/
theorem deliver_value (s : SplitJoin ω C) (executor : Pool.Executor Unit) (message : Message)
    (results : List (Except Fault Message)) (world : ω) :
    (s.deliver executor message results world).value.1 = s := by
  unfold deliver
  cases collect (results.map (reported executor)) <;> rfl

/-- A split-join with its pool finds unavailable only what a worker has. -/
theorem processIn_sound (paired : s.Paired) (held : s.pool.isSome = true) {order : List Nat}
    {message : Message} {world : ω} {service reason : String}
    (failed : (s.processIn b order message world).verdict =
      .error (.error (.unavailable service reason))) :
    Blamed b (fragments s.separator message) (.unavailable service reason) := by
  obtain ⟨pool, pool_eq⟩ := Option.isSome_iff_exists.mp held
  obtain ⟨executor, executor_eq⟩ := Option.isSome_iff_exists.mp (paired.trans held)
  simp only [processIn, pool_eq, executor_eq] at failed
  have queued : ∀ errand ∈ (Fanout.start (fragments s.separator message) pool world).errands,
      OnErrand b (fragments s.separator message) errand := by
    intro errand isErrand
    obtain ⟨fragment, isFragment, rfl⟩ := List.mem_map.mp isErrand
    exact isFragment
  apply deliver_sound (List.forall_mem_map.mpr _) failed
  intro errand isErrand
  exact (run_onErrand queued _ errand isErrand).sound

/-- A split-join without its pool refuses every message. -/
theorem processIn_of_none (noPool : s.pool = none) (b : Behaviour ω C) (order : List Nat)
    (message : Message) (world : ω) :
    s.processIn b order message world =
      .refused (.error (.unavailable s.uniqueId "worker pool is not initialised")) (s, message)
        world := by
  simp only [processIn, noPool]

/-- No message changes whether pool and threads are there. -/
theorem processIn_holds (b : Behaviour ω C) (order : List Nat) (s : SplitJoin ω C)
    (message : Message) (world : ω) :
    (s.processIn b order message world).value.1.pool.isSome = s.pool.isSome ∧
      (s.processIn b order message world).value.1.executor = s.executor := by
  unfold processIn
  cases pool_eq : s.pool with
  | none => exact ⟨congrArg Option.isSome pool_eq, rfl⟩
  | some pool =>
      cases executor_eq : s.executor with
      | none => exact ⟨congrArg Option.isSome pool_eq, executor_eq⟩
      | some executor =>
          simp only [deliver_value]
          exact ⟨rfl, trivial⟩

end SplitJoin

/-! ## Lives on record -/

/-- The work of a component whose hook calls are taken down; it is no call. -/
def Recorded.working {M : Type} (work : M → C → ω → C × ω) (matter : M) (r : Recorded C)
    (world : ω) : Recorded C × ω :=
  let left := work matter r.service world
  (⟨left.1, r.calls⟩, left.2)

/-- Taking down the calls of its hooks changes nothing else in the life of a component. -/
theorem Recorded.live_map {M : Type} (hooks : Hooks ω C) (work : M → C → ω → C × ω)
    (m : Managed (Recorded C)) (deeds : List (Deed M)) (world : ω) :
    (m.map service).live hooks work deeds world =
      ((m.live hooks.recorded (working work) deeds world).1.map service,
        (m.live hooks.recorded (working work) deeds world).2) := by
  have works : ∀ matter (r : Recorded C) other world, other = r.service →
      (work matter other world).1 = (working work matter r world).1.service ∧
        (work matter other world).2 = (working work matter r world).2 := by
    rintro matter r _ world rfl
    exact ⟨rfl, rfl⟩
  obtain ⟨related, world_eq⟩ := Managed.live_alike hooks.recorded_projection.simulates works
    (Managed.related_map service m) deeds world
  exact Prod.ext (related.eq_map) world_eq

namespace SplitJoin

/-- A split-join lives its life, from its beginning, and each call of its hooks is taken down, which
changes nothing else. At any time it has threads if and only if it has a pool, and it has none when
it is closed. It has them exactly while it is not closed, but for one case: that the last call of
`init` or `close` was an `init` that failed where it was stopped. While it has no pool it refuses
every message as unavailable; while it has one, it does so only where a worker has failed that way
at a fragment of the message. -/
theorem live_holds_iff (b : Behaviour ω C) (prototype : Prototype ω C)
    (name uniqueId separator : String) (poolSize shutdownTimeoutMs : Nat)
    (deeds : List (Deed (List Nat × Message))) (world : ω) :
    let origin : SplitJoin ω C := .new uniqueId prototype poolSize separator shutdownTimeoutMs
    let lived := (Managed.new name (Recorded.new origin)).live (hooks b).recorded
      (Recorded.working (serve b)) deeds world
    let m := lived.1
    let s := m.component.service
    (Managed.new name origin).live (hooks b) (serve b) deeds world =
        (m.map Recorded.service, lived.2) ∧
      (s.executor.isSome ↔ s.pool.isSome) ∧ (s.pool.isSome → m.state ≠ .closed) ∧
      ((s.pool.isSome ↔ m.state ≠ .closed) ↔ ¬ Call.Lost m.component.calls) ∧
      ∀ order message,
        let done := s.processIn b order message lived.2
        (s.pool.isNone → done = .refused
          (.error (.unavailable s.uniqueId "worker pool is not initialised")) (s, message)
          lived.2) ∧
        (s.pool.isSome → ∀ service reason,
          done.verdict = .error (.error (.unavailable service reason)) →
            Blamed b (fragments s.separator message) (.unavailable service reason)) := by
  intro origin lived m s
  have kept : m.FitsIn (fun state r _ => Recorded.Accounts state r ∧ HeldByCalls r) lived.2 := by
    apply Managed.FitsIn.live
    · intro state event r world legal fits
      exact ⟨(hooks b).recorded_keeps state event r world legal fits.1,
        hooks_keep_heldByCalls b State.accepts state event r world legal fits.2⟩
    · rintro ⟨order, message⟩ state r world ⟨accounts, paired, held⟩
      obtain ⟨pool_eq, executor_eq⟩ := processIn_holds b order r.service message world
      exact ⟨accounts, (congrArg Option.isSome executor_eq).trans (paired.trans pool_eq.symm),
        pool_eq.trans held⟩
    · exact ⟨⟨Call.lawful_nil, rfl⟩, rfl, rfl⟩
  obtain ⟨⟨lawful, state_eq⟩, paired, held⟩ := kept
  obtain ⟨alive, notHeld⟩ := lawful.held_or_lost
  rw [← state_eq, ← held] at alive
  rw [← held] at notHeld
  have erased := Recorded.live_map (hooks b) (serve b) (.new name (.new origin)) deeds world
  refine ⟨erased, by rw [paired], fun isHeld => alive.mpr (Or.inl isHeld), ?_, ?_⟩
  · rw [alive]
    constructor
    · intro whileAlive lost
      exact absurd (whileAlive.mpr (Or.inr lost)) (by rw [notHeld lost]; decide)
    · intro notLost
      exact (or_iff_left notLost).symm
  · intro order message
    constructor
    · intro noPool
      exact processIn_of_none (Option.isNone_iff_eq_none.mp noPool) b order message lived.2
    · intro isHeld service reason failed
      exact processIn_sound paired isHeld failed

/-- Workers of which only the first can be initialised; the surroundings know whether it was. -/
def onlyOne : Behaviour Bool Unit where
  hooks := ⟨fun event _ made =>
    if event = .init && made then .refused (.reported "no more workers") () made
    else .done () true⟩
  uniqueId _ := "worker"
  process _ message made := .done ((), message) made
  isValid _ := true

/-- A split-join of one worker is initialised once more when it is stopped, for which there is no
worker any more, and is started all the same. -/
theorem live_loses_pool :
    let lived := (Managed.new "split" (.new "split" ⟨"worker", fun made => (.ok (), made)⟩ 1 "," 0)
      ).live (hooks onlyOne) (serve onlyOne)
        [.obey (.request .start), .obey (.fire .stop), .obey (.fire .init), .obey (.fire .start)]
        false
    lived.1.state = .started ∧ lived.1.component.pool.isNone ∧ lived.1.component.executor.isNone ∧
      (lived.1.component.process onlyOne (.plain "a" .empty) lived.2).verdict =
        .error (.error (.unavailable "split" "worker pool is not initialised")) := by
  decide

end SplitJoin

end IntegrationHost.Service
