import IntegrationHost.Proofs.Adapter.Coherence
import IntegrationHost.Proofs.Lifecycle.Names
import IntegrationHost.Proofs.Service.Enactment

/-!
# Adapters that do what their definitions mean

An adapter that was made from a definition goes on being one of that definition, whatever is asked
of it. When all its services can be started every event succeeds, and a message to a workflow goes
to the first workflow of the name among the channels that start with the adapter, which does to it
what its services mean one after the other.
-/

namespace IntegrationHost

open Lifecycle Service

variable {ω C : Type} {b : Behaviour ω C} {fit : Service.Definition → State → C → Prop}
  {state : State}

/-! ## Members with names -/

namespace Lifecycle.Members

variable {D T : Type} {pick : D → Bool} {P : T → State → D → Prop} {tags : List T} {id : T → String}
  {members : Members D} {name : String}

/-- What is read off each of several is what its tag says, when it is for all of them in order. -/
theorem forall₂_read {α : Type} {R : T → Managed D → Prop} {read : Managed D → α} {say : T → α}
    (all : List.Forall₂ R tags members) (same : members.map read = tags.map say) :
    List.Forall₂ (fun t m => read m = say t ∧ R t m) tags members := by
  induction all with
  | nil => exact .nil
  | cons first _ ih =>
      obtain ⟨firstSame, restSame⟩ := List.cons.inj same
      exact .cons ⟨firstSame, first⟩ (ih restSame)

/-- Members that conform, under the names that their tags give them. -/
theorem Conform.named (conform : members.Conform pick P tags state)
    (names : members.names = tags.map id) :
    List.Forall₂ (fun t m => m.name = id t ∧ m.Suits pick (P t) state) tags members :=
  forall₂_read conform names

/-- One of several may be put in the place of another one that is like it. -/
theorem forall₂_put {R : T → Managed D → Prop} {before behind : Members D} {m : Managed D}
    (all : List.Forall₂ R tags (before ++ m :: behind)) :
    ∃ t ∈ tags, R t m ∧
      ∀ other, R t other → List.Forall₂ R tags (before ++ other :: behind) := by
  induction before generalizing tags with
  | nil =>
      obtain ⟨t, rest, first, others, rfl⟩ := List.forall₂_cons_right_iff.mp all
      exact ⟨t, List.mem_cons_self, first, fun other like => .cons like others⟩
  | cons head before ih =>
      obtain ⟨t, rest, first, others, rfl⟩ := List.forall₂_cons_right_iff.mp all
      obtain ⟨u, member, found, put⟩ := ih others
      refine ⟨u, List.mem_cons_of_mem t member, found, fun other like => ?_⟩
      exact .cons first (put other like)

theorem names_put (before behind : Members D) (m : Managed D) (component : D) :
    names (before ++ m.withComponent component :: behind) = names (before ++ m :: behind) := by
  simp only [names, List.map_append, List.map_cons]
  rfl

end Lifecycle.Members

/-! ## Workflows -/

namespace Workflow

/-- A workflow whose services enact those of a definition. -/
def Enacts (fit : Service.Definition → State → C → Prop) (d : WorkflowDefinition) (state : State)
    (w : Workflow C) : Prop :=
  w.services.Conform (fun _ => true) fit d.services state

theorem hooks_keep_enacts (keeps : ∀ s, b.Keeps (fit s)) (d : WorkflowDefinition) :
    (hooks b).Keeps State.accepts (Enacts fit d) :=
  (Members.hooks_keeps_conform (fun s => (keeps s).hooks) fun _ _ _ => rfl).ofPart fun _ _ => rfl

variable {d : WorkflowDefinition}

theorem process_enacts (keeps : ∀ s, b.Keeps (fit s)) {w : Workflow C}
    (enacts : w.Enacts fit d state) (message : Message) (world : ω) :
    (w.process b message world).value.1.Enacts fit d state :=
  processAll_conform keeps enacts (w.mark message) world

variable (enacting : Enacting b fit)

include enacting

theorem hooks_obey_enacts (startable : ∀ s ∈ d.services, s.Startable) :
    (hooks b).Obeys State.accepts (Enacts fit d) := by
  refine (hooks_keep_enacts enacting.keepsFit d).obeys fun state event w world _ enacts => ?_
  exact Members.hooks_obey_conform (fun s member => (enacting.obeys (startable s member)).expected)
    enacts _ event world

end Workflow

/-! ## Channels -/

namespace Channel

/-- A channel whose workflows enact those of a definition, under their names. -/
structure Enacts (fit : Service.Definition → State → C → Prop) (d : ChannelDefinition)
    (state : State) (c : Channel C) : Prop where
  autoStart : c.autoStart = d.autoStart
  names : c.workflows.names = d.workflows.map WorkflowDefinition.id
  workflows : c.workflows.Conform (fun _ => true) (Workflow.Enacts fit) d.workflows state

theorem hooks_keep_enacts (keeps : ∀ s, b.Keeps (fit s)) (d : ChannelDefinition) :
    (hooks b).Keeps State.accepts (Enacts fit d) := by
  intro state event c world accepted enacts
  constructor
  · exact (hooks_fixes b event c world).trans enacts.autoStart
  · exact (Members.hooks_fix_names _ _ event c.workflows world).trans enacts.names
  · exact Members.hooks_keeps_conform
      (fun w => (Workflow.hooks_keep_enacts keeps w).expected) (fun _ _ _ => rfl) state event
      c.workflows world accepted enacts.workflows

theorem hooks_obey_enacts (enacting : Enacting b fit) {d : ChannelDefinition}
    (startable : ∀ w ∈ d.workflows, ∀ s ∈ w.services, s.Startable) :
    (hooks b).Obeys State.accepts (Enacts fit d) := by
  refine (hooks_keep_enacts enacting.keepsFit d).obeys fun state event c world _ enacts => ?_
  exact Members.hooks_obey_conform
    (fun w member => (Workflow.hooks_obey_enacts enacting (startable w member)).expected)
    enacts.workflows _ event world

end Channel

/-! ## Adapters -/

/-- The first workflow of a name, in a channel that starts with its adapter. -/
def ChannelDefinition.destination? (name : String) (d : ChannelDefinition) :
    Option WorkflowDefinition :=
  if d.autoStart then d.workflows.find? (·.id == name) else none

/-- The first workflow of a name in a channel, and where it stands. -/
structure ChannelDefinition.IsFirst (name : String) (d : ChannelDefinition) (place : Nat)
    (w : WorkflowDefinition) : Prop where
  workflow : d.workflows[place]? = some w
  named : w.id = name
  earlier : ∀ other ∈ d.workflows.take place, other.id ≠ name

namespace ChannelDefinition

variable {name : String} {d : ChannelDefinition}

theorem IsFirst.destination? {place : Nat} {w : WorkflowDefinition}
    (isFirst : d.IsFirst name place w) (starts : d.autoStart = true) :
    d.destination? name = some w := by
  obtain ⟨inside, rfl⟩ := List.getElem?_eq_some_iff.mp isFirst.workflow
  rw [ChannelDefinition.destination?, if_pos starts, List.find?_eq_some_iff_append]
  refine ⟨beq_iff_eq.mpr isFirst.named, d.workflows.take place, d.workflows.drop (place + 1), ?_,
    ?_⟩
  · rw [List.getElem_cons_drop, List.take_append_drop]
  · intro other member
    exact bne_iff_ne.mpr (isFirst.earlier other member)

end ChannelDefinition

/-- Where messages for a name go: to the first workflow of the name in the first channel that starts
with the adapter and has one. -/
def AdapterDefinition.destination? (d : AdapterDefinition) (name : String) :
    Option WorkflowDefinition :=
  d.channels.findSome? (·.destination? name)

namespace AdapterDefinition

variable {d : AdapterDefinition}

end AdapterDefinition

namespace Adapter

/-! ### Finding a workflow -/

section

variable {D T : Type} {name : String} {m : Managed D}

theorem started?_cons_of_eq (same : m.name = name) (started : m.state = .started)
    (rest : Members D) :
    started? name (m :: rest) = some ([], m, rest) := by
  simp [started?, List.span_eq_takeWhile_dropWhile, same, started]

theorem started?_cons_of_ne (other : m.name ≠ name) (rest : Members D) :
    started? name (m :: rest) =
      (started? name rest).map fun parts => (m :: parts.1, parts.2) := by
  simp only [started?, List.span_eq_takeWhile_dropWhile]
  rw [List.takeWhile_cons_of_pos (by simp [other]), List.dropWhile_cons_of_pos (by simp [other])]
  cases rest.dropWhile fun m => m.name != name with
  | nil => rfl
  | cons first behind =>
      dsimp only
      split
      · rfl
      · rfl

/-- Among members that are started, the one that is found has the first tag of the name, and stands
where that tag stands. -/
theorem started?_first (name : String) {id : T → String} {R : T → Managed D → Prop} {tags : List T}
    {members : Members D} (started : ∀ t m, R t m → m.state = .started)
    (all : List.Forall₂ (fun t m => m.name = id t ∧ R t m) tags members) :
    ((∀ t ∈ tags, id t ≠ name) ∧ started? name members = none) ∨
      ∃ place t m, tags[place]? = some t ∧ id t = name ∧
        (∀ earlier ∈ tags.take place, id earlier ≠ name) ∧
        members[place]? = some m ∧ R t m ∧
        started? name members = some (members.take place, m, members.drop (place + 1)) := by
  induction all with
  | nil => exact Or.inl ⟨List.forall_mem_nil _, rfl⟩
  | @cons t m tags members first _ ih =>
      obtain ⟨name_eq, related⟩ := first
      by_cases same : id t = name
      · have found := started?_cons_of_eq (name_eq.trans same) (started t m related) members
        exact Or.inr ⟨0, t, m, rfl, same, List.forall_mem_nil _, rfl, related, found⟩
      · rw [started?_cons_of_ne fun named => same (name_eq.symm.trans named)]
        rcases ih with ⟨none, notFound⟩ |
          ⟨place, u, chosen, tag, named, earlier, member, suits, found⟩
        · rw [notFound]
          exact Or.inl ⟨List.forall_mem_cons.mpr ⟨same, none⟩, rfl⟩
        · rw [found]
          exact Or.inr ⟨place + 1, u, chosen, tag, named,
            List.forall_mem_cons.mpr ⟨same, earlier⟩, member, suits, rfl⟩

end

/-! ### Adapters that enact definitions -/

/-- An adapter whose channels enact those of a definition. -/
def Enacts (fit : Service.Definition → State → C → Prop) (d : AdapterDefinition) (state : State)
    (a : Adapter C) : Prop :=
  a.channels.Conform Channel.autoStart (Channel.Enacts fit) d.channels state

variable {d : AdapterDefinition}

theorem hooks_keep_enacts (keeps : ∀ s, b.Keeps (fit s)) (d : AdapterDefinition) :
    (hooks b).Keeps State.accepts (Enacts fit d) :=
  (Members.hooks_keeps_conform (fun c => (Channel.hooks_keep_enacts keeps c).expected)
    (Channel.hooks_fixes b)).ofPart fun _ _ => rfl

theorem hooks_obey_enacts (enacting : Enacting b fit)
    (startable : ∀ c ∈ d.channels, ∀ w ∈ c.workflows, ∀ s ∈ w.services, s.Startable) :
    (hooks b).Obeys State.accepts (Enacts fit d) := by
  refine (hooks_keep_enacts enacting.keepsFit d).obeys fun state event a world _ enacts => ?_
  exact Members.hooks_obey_conform
    (fun c member => (Channel.hooks_obey_enacts enacting (startable c member)).expected) enacts _
    event world

/-! ### Messages -/

variable {ds : List ChannelDefinition} {members : Members (Channel C)} {name : String}
  {message : Message} {world : ω}

/-- A message that finds a workflow leaves the channels enacting their definitions. -/
theorem route_enacts (keeps : ∀ s, b.Keeps (fit s))
    {done : Attempt Fault ω (Members (Channel C) × Message)}
    (enacts : members.Conform Channel.autoStart (Channel.Enacts fit) ds state)
    (routed : route b name message world members = some done) :
    done.value.1.Conform Channel.autoStart (Channel.Enacts fit) ds state := by
  unfold Members.Conform at enacts
  induction enacts generalizing done with
  | nil => cases routed
  | @cons c m ds rest first others ih =>
      rcases route_cons_cases routed with
        ⟨further, goesOn, left⟩ | ⟨before, workflow, behind, workflows_eq, left⟩
      · rw [left]
        exact .cons first (ih goesOn)
      · rw [left]
        obtain ⟨suits, autoStart, names, workflows⟩ := first
        rw [workflows_eq] at names workflows
        obtain ⟨w, _, atWork, put⟩ := Members.forall₂_put workflows
        have processed := Workflow.process_enacts keeps atWork.2 message world
        refine .cons ⟨suits, autoStart, ?_, put _ ⟨atWork.1, processed⟩⟩ others
        exact (Members.names_put ..).trans names

theorem process_enacts (keeps : ∀ s, b.Keeps (fit s)) {a : Adapter C}
    (enacts : a.Enacts fit d state) (name : String) (message : Message) (world : ω) :
    (a.process b name message world).value.1.Enacts fit d state := by
  unfold process
  cases routed : route b name message world a.channels with
  | none => exact enacts
  | some done => exact route_enacts keeps enacts routed

/-- In a channel of a started adapter the first workflow of a name is found, if the channel starts
with the adapter. -/
theorem found_first {c : ChannelDefinition} {m : Managed (Channel C)}
    (suits : m.Suits Channel.autoStart (Channel.Enacts fit c) .started) (name : String) :
    let found := if m.state = .started then started? name m.component.workflows else none
    ((c.autoStart = true → ∀ w ∈ c.workflows, w.id ≠ name) ∧ found = none) ∨
      c.autoStart = true ∧ ∃ place w workflow, c.IsFirst name place w ∧
        m.component.workflows[place]? = some workflow ∧
        workflow.Suits (fun _ => true) (Workflow.Enacts fit w) .started ∧
        found = some (m.component.workflows.take place, workflow,
          m.component.workflows.drop (place + 1)) := by
  intro found
  have autoStart : m.component.autoStart = c.autoStart := suits.2.autoStart
  cases starts : c.autoStart with
  | false =>
      have suits := suits.1
      rw [autoStart, starts] at suits
      exact Or.inl ⟨nofun, if_neg suits.ne_started⟩
  | true =>
      obtain ⟨started, channel⟩ := suits.started (autoStart.trans starts)
      have found_eq : found = started? name m.component.workflows := if_pos started
      rw [found_eq]
      rcases started?_first name (fun _ _ suits => suits.1)
          (channel.workflows.named channel.names) with
        ⟨none, notFound⟩ | ⟨place, w, workflow, tag, named, earlier, member, atWork, found⟩
      · exact Or.inl ⟨fun _ => none, notFound⟩
      · exact Or.inr ⟨rfl, place, w, workflow, ⟨tag, named, earlier⟩, member, atWork, found⟩

end Adapter

end IntegrationHost
