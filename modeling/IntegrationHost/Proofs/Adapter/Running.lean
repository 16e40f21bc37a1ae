import IntegrationHost.Host
import IntegrationHost.Proofs.Adapter.Enactment
import IntegrationHost.Proofs.Adapter.Failure
import IntegrationHost.Proofs.Lifecycle.Life

/-!
# Adapters at work

A definition that breaks no rule makes an adapter that can be started. While it is started, the
channels that start with it are at work, with all their workflows and services down to the last
list, and messages to their workflows fail for one reason only: a service that always fails stands
in the workflow that they go to.
-/

namespace IntegrationHost

open Lifecycle Service

variable {ω : Type}

/-! ## Components at work -/

namespace Lifecycle.Members

variable {D T : Type} {P : T → State → D → Prop} {tags : List T}

/-- Components made from the parts of a definition are new members that fit them. -/
theorem conform_attach {pick : D → Bool} {name : { t // t ∈ tags } → String}
    {make : { t // t ∈ tags } → D} (fits : ∀ t, P t.1 .closed (make t)) :
    Conform pick P tags .closed (tags.attach.map fun t => .new (name t) (make t)) := by
  have all : List.Forall₂ (fun t (u : { t // t ∈ tags }) => t = u.1)
      (tags.attach.map Subtype.val) tags.attach :=
    List.forall₂_map_left_iff.mpr (List.forall₂_same.mpr fun _ _ => rfl)
  rw [List.attach_map_subtype_val] at all
  refine List.forall₂_map_right_iff.mpr (all.imp ?_)
  rintro _ t rfl
  exact ⟨rfl, fits t⟩

/-- Members of a started parent that drives them all are started. -/
theorem Conform.started {members : Members D}
    (conform : members.Conform (fun _ => true) P tags .started) :
    List.Forall₂ (fun t m => m.state = .started ∧ P t .started m.component) tags members :=
  conform.imp fun _ _ suits => suits.started rfl

end Lifecycle.Members

/-- A service of a layer at work as a definition says: if it is a list, its services are started and
at work. -/
inductive Service.Layer.Running {C : Type} (running : Definition → C → Prop) :
    Definition → Layer (Single ω Simple C) C → Prop where
  | simple (id : Option String) (task : Task) (s : Simple) :
      Running running (.simple id task) (.single (.leaf s))
  | list (id : Option String) {services : List Definition} {chain : Chain C}
      (all : List.Forall₂ (fun d m => m.state = .started ∧ running d m.component) services
        chain.services) :
      Running running (.list id services) (.chain chain)
  | splitJoin (id : Option String) (poolSize : Nat) (separator : Option String)
      (timeout : Option Nat) (nested : Option Definition) (s : SplitJoin ω C) :
      Running running (.splitJoin id poolSize separator timeout nested) (.single (.splitJoin s))

/-- A service at work as a definition says: if it is a list, its services are started, and so on at
every depth. -/
def Service.Live.Running : (level : Nat) → Definition → Live ω Simple level → Prop
  | 0, _, _ => True
  | level + 1, d, service => Layer.Running (Running level) d service

theorem Service.Live.running_of_enacts {level : Nat} {d : Definition}
    {service : Live ω Simple level} (enacts : Enacts level d .started service) :
    Running level d service := by
  induction level generalizing d with
  | zero => trivial
  | succ level ih =>
      cases enacts with
      | simple enacts =>
          obtain ⟨id, task, rfl, _⟩ := enacts
          exact .simple id task _
      | list id conform =>
          exact .list id (conform.started.imp fun _ _ both => ⟨both.1, ih both.2⟩)
      | splitJoin id separator timeout _ _ _ => exact .splitJoin id _ separator timeout _ _

variable {level : Nat}

/-- A workflow at work as a definition says. -/
def Workflow.Running (d : WorkflowDefinition) (w : Workflow (Live ω Simple level)) : Prop :=
  List.Forall₂ (fun s m => m.state = .started ∧ Live.Running level s m.component) d.services
    w.services

/-- A channel at work as a definition says. -/
def Channel.Running (d : ChannelDefinition) (c : Channel (Live ω Simple level)) : Prop :=
  List.Forall₂ (fun w m => m.name = w.id ∧ m.state = .started ∧ m.component.Running w) d.workflows
    c.workflows

theorem Channel.Enacts.running {d : ChannelDefinition} {c : Channel (Live ω Simple level)}
    (enacts : c.Enacts (Live.Enacts level) d .started) : c.Running d := by
  refine (enacts.workflows.named enacts.names).imp fun w m both => ?_
  obtain ⟨name_eq, suits⟩ := both
  obtain ⟨started, fits⟩ := suits.started rfl
  refine ⟨name_eq, started, fits.started.imp fun s m both => ?_⟩
  exact ⟨both.1, Live.running_of_enacts both.2⟩

/-- A new adapter enacts the definition that it was made from. -/
theorem AdapterDefinition.instantiate_enacts [Journal ω] (d : AdapterDefinition) :
    (d.instantiate (ω := ω)).Enacts (Live.Enacts d.rank) d .closed := by
  refine Members.conform_attach fun channel => ?_
  refine ⟨rfl, ?_, Members.conform_attach fun workflow => ?_⟩
  · simp only [Members.names, List.map_map]
    exact List.attach_map_val (f := WorkflowDefinition.id)
  · simp only [Workflow.Enacts, Workflow.new, List.map_map]
    exact Members.conform_attach fun service => Live.instantiate_enacts d.rank service.1 _

namespace LiveAdapter

/-- An adapter at work as a definition says: the channels that start with it are started and at
work. -/
def Running (d : AdapterDefinition) (a : LiveAdapter ω) : Prop :=
  List.Forall₂ (fun c m => m.component.autoStart = c.autoStart ∧
    (c.autoStart = true → m.state = .started ∧ m.component.Running c)) d.channels a.adapter.channels

/-- An adapter that enacts a definition. -/
def Enacts (d : AdapterDefinition) (state : State) (a : LiveAdapter ω) : Prop :=
  ∃ adapter, a = ⟨d.rank, adapter⟩ ∧ adapter.Enacts (Live.Enacts d.rank) d state

theorem Enacts.running {d : AdapterDefinition} {a : LiveAdapter ω} (enacts : a.Enacts d .started) :
    a.Running d := by
  obtain ⟨adapter, rfl, enacts⟩ := enacts
  refine List.Forall₂.imp (fun c m suits => ?_) enacts
  have autoStart : m.component.autoStart = c.autoStart := suits.2.autoStart
  refine ⟨autoStart, fun starts => ?_⟩
  obtain ⟨started, channel⟩ := suits.started (autoStart.trans starts)
  exact ⟨started, channel.running⟩

variable [Journal ω] {d : AdapterDefinition} {state : State}

theorem hooks_keep_enacts (d : AdapterDefinition) :
    (hooks (ω := ω)).Keeps State.accepts (Enacts d) := by
  rintro state event _ world accepted ⟨adapter, rfl, enacts⟩
  have keeps := (Live.enacting (ω := ω) d.rank).keepsFit
  exact ⟨_, rfl, Adapter.hooks_keep_enacts keeps d state event adapter world accepted enacts⟩

theorem hooks_obey_enacts
    (startable : ∀ c ∈ d.channels, ∀ w ∈ c.workflows, ∀ s ∈ w.services, s.Startable) :
    (hooks (ω := ω)).Obeys State.accepts (Enacts d) := by
  refine (hooks_keep_enacts d).obeys ?_
  rintro state event _ world accepted ⟨adapter, rfl, enacts⟩
  exact (Adapter.hooks_obey_enacts (Live.enacting d.rank) startable state event adapter world
    accepted enacts).1

/-- What is left of an adapter and its surroundings when it has processed a message in the workflow
of a name. -/
def work (matter : String × Message) (a : LiveAdapter ω) (world : ω) : LiveAdapter ω × ω :=
  let done := a.process matter.1 matter.2 world
  (done.value.1, done.world)

end LiveAdapter

/-! ## Definitions that break no rule -/

namespace Element.Sound

variable {d : AdapterDefinition}

theorem startable (sound : (Element.adapter d).Sound) :
    ∀ c ∈ d.channels, ∀ w ∈ c.workflows, ∀ s ∈ w.services, s.Startable := by
  intro c isChannel w isWorkflow s isService
  have workflow := sound.workflow_of_mem isChannel isWorkflow
  exact Definition.startable_of_sound s (workflow.service_of_mem s isService)

end Element.Sound

variable [Journal ω]

end IntegrationHost
