import IntegrationHost.Proofs.Service.Coherence
import IntegrationHost.Proofs.Service.Realisation
import IntegrationHost.Rehearsal.Trace
import IntegrationHost.Service.Live

/-!
# Services that do what their definitions mean

A service that was made from a definition, and is not closed, does to every message what the
definition means, whatever it was asked before. It is said layer by layer, for services that enact
their definitions: a list enacts its definition when its services enact theirs, and a split-join
when its workers do.
-/

namespace IntegrationHost.Service

open Lifecycle
open Message (Body)

variable {ω C : Type}

/-! ## Services that enact definitions -/

/-- Services that fit definitions and states go on doing so, whatever comes. They are closed as long
as their definition is not startable, hooks of those that are startable succeed, and messages are
processed as is meant unless the service is closed. -/
structure Enacting (b : Behaviour ω C) (fit : Definition → State → C → Prop) : Prop where
  startable : ∀ {d state service}, fit d state service → state ≠ .closed → d.Startable
  keeps : ∀ d, b.hooks.Keeps State.accepts (fit d)
  succeed : ∀ d, d.Startable → ∀ state event service world, state.accepts event = true →
    fit d state service → (b.hooks.run event service world).verdict = .ok ()
  process : ∀ {d state service}, fit d state service → ∀ message world,
    fit d state (b.process service message world).value.1
  realises : ∀ {d state service}, fit d state service → state ≠ .closed →
    Realises (b.process service) fun link => d.meaning link

variable {b : Behaviour ω C} {fit : Definition → State → C → Prop}

namespace Enacting

variable (enacting : Enacting b fit)

include enacting

theorem keepsFit (d : Definition) : b.Keeps (fit d) where
  hooks := (enacting.keeps d).expected
  process _ _ message world fits := enacting.process fits message world

theorem obeys {d : Definition} (startable : d.Startable) : b.hooks.Obeys State.accepts (fit d) :=
  (enacting.keeps d).obeys (enacting.succeed d startable)

variable {d : Definition} {p : Prototype ω C}
  (create : ∀ world, ∃ service left, p.create world = (.ok service, left) ∧ fit d .closed service)

include create

/-- Workers of a startable definition can be relied on. -/
theorem reliable (startable : d.Startable) :
    Reliable b p (fit d) (AnswersTo fun link => d.meaning link) where
  create := create
  hooks := (enacting.obeys startable).expected
  process := by
    intro service message world fits
    refine ⟨enacting.process fits message world, ?_⟩
    exact (enacting.realises fits (by decide)).answersTo message world

/-- Workers of any other definition cannot be made. -/
theorem make_fails (notStartable : ¬ d.Startable) (world : ω) :
    ∃ error left, (workerFactory b p).make world = (.error error, left) := by
  obtain ⟨service, left, created, fits⟩ := create world
  have isNew : (Managed.new (b.uniqueId service) service).Fits (fit d) := fits
  have stillFits := isNew.request (enacting.keeps d).expected .init left
  have single : (Managed.new (b.uniqueId service) service).request b.hooks .init left =
      (Managed.new (b.uniqueId service) service).fire b.hooks .init left :=
    Managed.request_of_single b.hooks left rfl
  simp only [workerFactory, created]
  rw [single] at stillFits ⊢
  cases fired : ((Managed.new (b.uniqueId service) service).fire b.hooks .init left).verdict with
  | error error => exact ⟨_, _, rfl⟩
  | ok _ =>
      refine absurd (enacting.startable stillFits ?_) notStartable
      rw [Managed.fire_state fired]
      decide

end Enacting

/-! ### Split-joins -/

namespace SplitJoin

/-- A split-join that was set up as `origin` with workers that fit, and is closed unless it can have
some. -/
structure Enacts (fit : State → C → Prop) (startable : Prop) (origin : SplitJoin ω C)
    (state : State) (s : SplitJoin ω C) : Prop where
  staffed : Staffed (Worker.Resting fit) origin state s
  startable : state ≠ .closed → 0 < origin.poolSize ∧ startable

theorem Enacts.new {fit : State → C → Prop} {startable : Prop} {uniqueId separator : String}
    {prototype : Prototype ω C} {poolSize shutdownTimeoutMs : Nat} :
    Enacts fit startable (.new uniqueId prototype poolSize separator shutdownTimeoutMs) .closed
      (.new uniqueId prototype poolSize separator shutdownTimeoutMs) :=
  ⟨⟨fun _ => .new trivial, fun notClosed => absurd rfl notClosed⟩,
    fun notClosed => absurd rfl notClosed⟩

/-- A split-join takes up nothing without workers, or with workers that cannot be made. -/
theorem takeUp_fails {s : SplitJoin ω C}
    (unable : s.poolSize = 0 ∨
      ∀ world, ∃ error left, (s.factory b).make world = (.error error, left))
    (world : ω) : ∃ error, (s.takeUp b world).verdict = .error error := by
  have released : s.release b world = (s.bare, s.closePool b world) := rfl
  simp only [takeUp, released, build_eq]
  rcases Nat.eq_zero_or_pos s.poolSize with none | positive
  · rw [if_pos (show s.bare.poolSize = 0 from none)]
    exact ⟨_, rfl⟩
  · rw [if_neg (show ¬ s.bare.poolSize = 0 from Nat.ne_of_gt positive)]
    obtain ⟨error, left, failed⟩ :=
      unable.resolve_left (Nat.ne_of_gt positive) (s.closePool b world)
    obtain ⟨reason, notFilled⟩ :=
      WorkerPlan.fillFrom_fails failed s.poolSize 0 positive s.bare.emptyPool
    have filled : (s.bare.filled b (s.closePool b world)).verdict = .error reason := notFilled
    rw [filled]
    exact ⟨_, rfl⟩

variable {d : Definition} {origin : SplitJoin ω C} (enacting : Enacting b fit)
  (create : ∀ world, ∃ service left,
    origin.prototype.create world = (.ok service, left) ∧ fit d .closed service)

include enacting create

theorem hooks_keep_enacts :
    (hooks b).Keeps State.accepts (Enacts (fit d) d.Startable origin) := by
  intro state event s world accepted enacts
  by_cases able : 0 < origin.poolSize ∧ d.Startable
  · have reliable := enacting.reliable create able.2
    have kept := (hooks_obey reliable able.1).keeps state event s world accepted enacts.staffed
    exact ⟨kept, fun _ => able⟩
  · -- It is closed, and the only event that is legal then fails.
    have closed : state = .closed := by
      by_contra notClosed
      exact able (enacts.startable notClosed)
    subst closed
    have isInit : event = .init := by
      cases event <;> first | rfl | cases accepted
    subst isInit
    have settings := (enacts.staffed.housed world).settings
    have unable : s.poolSize = 0 ∨
        ∀ world, ∃ error left, (s.factory b).make world = (.error error, left) := by
      rw [(eq_of_bare settings).2.1, factory_of_bare settings]
      by_cases positive : 0 < origin.poolSize
      · exact Or.inr (enacting.make_fails create fun startable => able ⟨positive, startable⟩)
      · exact Or.inl (Nat.eq_zero_of_not_pos positive)
    obtain ⟨error, failed⟩ := takeUp_fails unable world
    have outcome :
        Event.init.outcome .closed ((hooks b).run .init s world).succeeded = .closed := by
      simp [hooks, Event.outcome, Attempt.succeeded, failed, Event.canFail]
    rw [outcome]
    have left : ((hooks b).run .init s world).value = s.bare := takeUp_failed failed
    rw [left]
    exact ⟨⟨fun _ => ⟨settings, .empty rfl trivial, fun _ => rfl⟩,
        fun notClosed => absurd rfl notClosed⟩,
      fun notClosed => absurd rfl notClosed⟩

theorem hooks_succeed_of_enacts {state : State} {s : SplitJoin ω C} (positive : 0 < origin.poolSize)
    (startable : d.Startable) (enacts : Enacts (fit d) d.Startable origin state s) {event : Event}
    (accepted : state.accepts event = true) (world : ω) :
    ((hooks b).run event s world).verdict = .ok () :=
  (hooks_obey (enacting.reliable create startable) positive state event s world accepted
    enacts.staffed).1

theorem process_enacts {state : State} {s : SplitJoin ω C}
    (enacts : Enacts (fit d) d.Startable origin state s) (message : Message) (world : ω) :
    Enacts (fit d) d.Startable origin state (s.process b message world).value.1 := by
  refine ⟨?_, enacts.startable⟩
  by_cases closed : state = .closed
  · have noPool := (enacts.staffed.housed world).closed closed
    simp only [process, noPool]
    exact enacts.staffed
  · have reliable := enacting.reliable create (enacts.startable closed).2
    have staffed := processIn_staffed reliable enacts.staffed [] message world
    rw [processIn_nil _ _ _ _ (enacts.staffed.housed world).stocked.threads_pos] at staffed
    exact staffed

/-- A split-join leaves the parts of messages to what its nested definition means. -/
theorem process_realises {state : State} {s : SplitJoin ω C}
    (enacts : Enacts (fit d) d.Startable origin state s) (notClosed : state ≠ .closed) :
    Realises (s.process b) (fun link => fanOut (d.meaning link) origin.separator link) := by
  intro seen link message body world ordinary agrees
  have reliable := enacting.reliable create (enacts.startable notClosed).2
  have housed := enacts.staffed.housed world
  obtain ⟨pool, executor, manned⟩ := enacts.staffed.manned notClosed world
  obtain ⟨left, results, nowWorld, delivered, answers⟩ :=
    processIn_answers reliable enacts.staffed manned [] message
  rw [processIn_nil _ _ _ _ housed.stocked.threads_pos] at delivered
  rw [delivered, ← (eq_of_bare housed.settings).2.2.1]
  exact deliver_yields { s with pool := some left } nowWorld answers ordinary link agrees

end SplitJoin

/-! ### Lists -/

section

variable (enacting : Enacting b fit) {ds : List Definition} {whole : State} {members : Members C}
  (conform : members.Conform (fun _ => true) fit ds whole)

include enacting conform

theorem Enacting.allStartable (notClosed : whole ≠ .closed) : Definition.AllStartable ds := by
  unfold Members.Conform at conform
  induction conform with
  | nil => trivial
  | cons first _ ih => exact ⟨enacting.startable first.2 (first.1.ne_closed notClosed), ih⟩

/-- Services in a row do what their definitions mean one after the other. -/
theorem processAll_realises (notClosed : whole ≠ .closed) :
    Realises (processAll b members) fun link => Definition.meaningAll link ds := by
  unfold Members.Conform at conform
  induction conform with
  | nil =>
      intro seen link message body world _ agrees
      exact ⟨rfl, rfl, rfl, agrees⟩
  | @cons d m ds rest first _ ih =>
      intro seen link message body world ordinary agrees
      have yields := enacting.realises first.2 (first.1.ne_closed notClosed) seen link message body
        world ordinary agrees
      simp only [processAll, Definition.meaningAll, yields.verdict]
      cases verdict : (d.meaning link body).verdict with
      | error reason =>
          simp only [Except.mapError]
          refine ⟨?_, yields.uniqueId, yields.createdAt, yields.body⟩
          rw [verdict]
          rfl
      | ok _ =>
          simp only [Except.mapError]
          obtain ⟨verdict_eq, id_eq, createdAt_eq, agree⟩ :=
            ih seen link _ _ (b.process m.component message world).world ordinary yields.body
          exact ⟨verdict_eq, id_eq.trans yields.uniqueId,
            createdAt_eq.trans yields.createdAt, agree⟩

end

/-! ### Layers -/

/-- A simple service with the task of its definition. -/
def Simple.Enacts (d : Definition) (s : Simple) : Prop :=
  ∃ id task, d = .simple id task ∧ s = ⟨(Definition.simple id task).resolvedId, task⟩

theorem Simple.enacting [Journal ω] : Enacting (Simple.behaviour ω) fun d _ s => s.Enacts d where
  startable := by
    rintro _ _ _ ⟨id, task, rfl, _⟩ _
    trivial
  keeps _ _ _ _ _ _ enacts := enacts
  succeed _ _ _ _ _ _ _ _ := rfl
  process := by
    rintro d state s enacts message world
    change Simple.Enacts d (s.process message world).value.1
    rw [s.process_value]
    exact enacts
  realises := by
    rintro _ _ _ ⟨id, task, rfl, rfl⟩ _
    exact Simple.process_realises _

namespace Layer

/-- Services of a layer that enact definitions. -/
inductive Enacts (fit : Definition → State → C → Prop) :
    Definition → State → Layer (Single ω Simple C) C → Prop where
  | simple {d : Definition} {state : State} {s : Simple} (enacts : s.Enacts d) :
      Enacts fit d state (.single (.leaf s))
  | list (id : Option String) {services : List Definition} {state : State} {chain : Chain C}
      (conform : chain.services.Conform (fun _ => true) fit services state) :
      Enacts fit (.list id services) state (.chain chain)
  | splitJoin (id : Option String) (separator : Option String) (timeout : Option Nat)
      {service : Option Definition} {state : State} {s origin : SplitJoin ω C}
      (create : ∀ world, ∃ made left, origin.prototype.create world = (.ok made, left) ∧
        fit (service.getD Definition.defaultNested) .closed made)
      (separator_eq : origin.separator = separator.getD Definition.defaultSeparator)
      (enacts : SplitJoin.Enacts (fit (service.getD Definition.defaultNested))
        (service.getD Definition.defaultNested).Startable origin state s) :
      Enacts fit (.splitJoin id origin.poolSize separator timeout service) state
        (.single (.splitJoin s))

theorem enacting [Journal ω] (parts : Enacting b fit) :
    Enacting (behaviour (Single.behaviour (Simple.behaviour ω) b) b) (Enacts fit) where
  startable := by
    intro d state service enacts notClosed
    cases enacts with
    | simple enacts =>
        obtain ⟨id, task, rfl, _⟩ := enacts
        trivial
    | list id conform => exact parts.allStartable conform notClosed
    | splitJoin id separator timeout create separator_eq enacts =>
        obtain ⟨positive, startable⟩ := enacts.startable notClosed
        exact ⟨positive, Definition.nestedStartable_iff.mpr startable⟩
  keeps := by
    intro d state event service world accepted enacts
    cases enacts with
    | simple enacts => exact .simple enacts
    | list id conform =>
        have kept := Members.hooks_keeps_conform (fun d => (parts.keeps d).expected)
          (fun _ _ _ => rfl) state event _ world accepted conform
        exact .list id kept
    | splitJoin id separator timeout create separator_eq enacts =>
        have kept := SplitJoin.hooks_keep_enacts parts create state event _ world accepted enacts
        exact .splitJoin id separator timeout create separator_eq kept
  succeed := by
    intro d startable state event service world accepted enacts
    cases enacts with
    | simple enacts => rfl
    | list id conform =>
        apply Members.hooks_obey_conform (fun d member => ?_) conform
        exact (parts.obeys (Definition.allStartable_iff.mp startable d member)).expected
    | splitJoin id separator timeout create separator_eq enacts =>
        obtain ⟨positive, nested⟩ := startable
        exact SplitJoin.hooks_succeed_of_enacts parts create positive
          (Definition.nestedStartable_iff.mp nested) enacts accepted world
  process := by
    intro d state service enacts message world
    cases enacts with
    | @simple _ _ s enacts =>
        rw [← s.process_value message world] at enacts
        exact .simple enacts
    | list id conform => exact .list id (processAll_conform parts.keepsFit conform message world)
    | splitJoin id separator timeout create separator_eq enacts =>
        exact .splitJoin id separator timeout create separator_eq
          (SplitJoin.process_enacts parts create enacts message world)
  realises := by
    intro d state service enacts notClosed seen link message body world ordinary agrees
    cases enacts with
    | simple enacts =>
        have yields := Simple.enacting.realises enacts notClosed seen link message body world
          ordinary agrees
        exact (yields.map Single.leaf).map Layer.single
    | @list id services _ chain conform =>
        have yields := processAll_realises parts conform notClosed seen link message body world
          ordinary agrees
        exact (yields.map fun members => { chain with services := members }).map Layer.chain
    | splitJoin id separator timeout create separator_eq enacts =>
        have yields := SplitJoin.process_realises parts create enacts notClosed seen link message
          body world ordinary agrees
        simp only [separator_eq, ← Definition.meaningOf_eq] at yields
        exact (yields.map Single.splitJoin).map Layer.single

end Layer

/-! ## Live services -/

/-- What is left of a service and its surroundings when it has processed a message. -/
def Behaviour.work (b : Behaviour ω C) (message : Message) (service : C) (world : ω) : C × ω :=
  ((b.process service message world).value.1, (b.process service message world).world)

namespace Live

/-- Live services that enact definitions, at every level. -/
def Enacts : (level : Nat) → Definition → State → Live ω Simple level → Prop
  | 0, d, _, s => Simple.Enacts d s
  | level + 1, d, state, service => Layer.Enacts (Enacts level) d state service

theorem enacting [Journal ω] (level : Nat) :
    Enacting (behaviour (Simple.behaviour ω) level) (Enacts level) := by
  induction level with
  | zero => exact Simple.enacting
  | succ level ih => exact Layer.enacting ih

variable [Journal ω]

/-- New services enact the definitions that they were made from. -/
theorem instantiate_enacts (level : Nat) (d : Definition) (h : d.rank ≤ level) :
    Enacts (ω := ω) level d .closed (d.instantiate level h) := by
  induction level generalizing d with
  | zero =>
      cases d with
      | simple id task => exact ⟨id, task, rfl, rfl⟩
      | list id services => simp [Definition.rank] at h
      | splitJoin id poolSize separator timeout service => simp [Definition.rank] at h
  | succ level ih =>
      cases d with
      | simple id task => exact .simple ⟨id, task, rfl, rfl⟩
      | list id services =>
          have members : List.Forall₂
              (fun d (s : { d // d ∈ services }) => ∀ h : s.1.rank ≤ level,
                Enacts level d .closed (s.1.instantiate (ω := ω) level h))
              (services.attach.map Subtype.val) services.attach :=
            List.forall₂_map_left_iff.mpr (List.forall₂_same.mpr fun s _ => ih s.1)
          rw [List.attach_map_subtype_val] at members
          refine Layer.Enacts.list id ?_
          apply List.forall₂_map_right_iff.mpr
          apply List.forall₂_map_right_iff.mpr
          exact members.imp fun _ _ enacts => ⟨rfl, enacts _⟩
      | splitJoin id poolSize separator timeout service =>
          exact .splitJoin id separator timeout (fun world => ⟨_, world, rfl, ih _ _⟩) rfl .new

/-- Whatever a service was asked before, and in whichever order: unless it is closed, it does to a
message what its definition means. The verdict is the one that is meant, payload and metadata are
those that are meant, and identity and age of the message stay. -/
theorem live_means (level : Nat) (d : Definition) (h : d.rank ≤ level) (name : String)
    (deeds : List (Deed Message)) (world : ω) :
    let b := behaviour (Simple.behaviour ω) level
    let lived := (Managed.new name (d.instantiate level h)).live b.hooks b.work deeds world
    lived.1.state ≠ .closed → ∀ link message,
      let done := b.process lived.1.component message lived.2
      let meant := d.meaning link message.body
      done.verdict = meant.verdict.mapError .error ∧
        done.value.2 =
          { message with payload := meant.body.payload, metadata := meant.body.metadata } := by
  intro b lived notClosed link message done meant
  have enacts : Enacts level d lived.1.state lived.1.component := by
    apply Managed.FitsIn.live ((enacting level).keeps d).maintains
    · intro matter state service world enacts
      exact (enacting level).process enacts matter world
    · exact instantiate_enacts level d h
  obtain ⟨verdict, uniqueId, createdAt, agrees⟩ := (enacting level).realises enacts notClosed
    (fun _ => True) link message message.body lived.2 (fun _ _ => trivial) (.refl _ _)
  refine ⟨verdict, ?_⟩
  have body_eq : done.value.2.body = meant.body := agrees.eq
  rw [← body_eq, ← uniqueId, ← createdAt]
  rfl

/-- A list with a split-join in it, which has processed a message and was stopped and started again
since. -/
theorem live_means_letters :
    let d : Definition := .list none
      [.simple none (.addMetadata (.ofList [("seen", "yes")])),
        .splitJoin none 2 (some ",") none (some (.simple none (.replaceText "a" "bb")))]
    let b := behaviour (Simple.behaviour Rehearsal.Trace) 2
    let lived := (Managed.new "letters" (d.instantiate 2 (by decide))).live b.hooks b.work
      [.obey (.request .start), .work (.plain "a" .empty), .obey (.fire .stop),
        .obey (.request .start)] .empty
    let done := b.process lived.1.component (.plain "a,cab" .empty) lived.2
    let meant := d.meaning "link" ⟨"a,cab", .empty⟩
    lived.1.state = .started ∧ done.value.2.payload = "bb,cbbb" ∧
      done.verdict = meant.verdict.mapError .error ∧
      done.value.2 = .plain meant.body.payload meant.body.metadata := by
  refine ⟨by decide, by decide, ?_⟩
  exact live_means 2 _ _ "letters" _ Rehearsal.Trace.empty (by decide) "link"
    (.plain "a,cab" .empty)

end Live

end IntegrationHost.Service
