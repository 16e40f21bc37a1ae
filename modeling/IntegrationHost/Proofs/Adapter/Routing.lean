import IntegrationHost.Proofs.Adapter.Running

/-!
# Where messages go

The states of an adapter, its channels and its workflows go together through every life, and no id
ever changes. So a started adapter hands a message to the first workflow of the name in document
order, among the channels that start with it, although it never looks at its own state and in each
channel at one workflow only; and an adapter that is not started has no workflow for any message.
-/

namespace IntegrationHost

open Lifecycle Service

variable {ω C : Type} {b : Behaviour ω C} {fit : Service.Definition → State → C → Prop}
  {state : State}

/-! ## Ids -/

/-- What a workflow marks messages with: the id of its channel and its own. -/
def Workflow.label (w : Workflow C) : String × String := (w.channelId, w.uniqueId)

/-- The labels of the workflows of a channel. -/
def Channel.labels (c : Channel C) : List (String × String) :=
  c.workflows.map fun m => m.component.label

/-- The labels of the workflows of an adapter, channel by channel. -/
def Adapter.labels (a : Adapter C) : List (List (String × String)) :=
  a.channels.map fun m => m.component.labels

/-- The labels that a channel of the definition gives to its workflows. -/
def ChannelDefinition.labels (d : ChannelDefinition) : List (String × String) :=
  d.workflows.map fun w => (d.id, w.id)

theorem Workflow.hooks_fix_label (b : Behaviour ω C) : (hooks b).Fixes label :=
  fun _ _ _ => rfl

theorem Channel.hooks_fix_labels (b : Behaviour ω C) : (hooks b).Fixes labels :=
  (Members.hooks_fix_map _ (fun event m world =>
    m.request_fixes (Workflow.hooks_fix_label b) event world) _).ofPart fun _ _ => rfl

theorem Adapter.hooks_fix_labels (b : Behaviour ω C) : (hooks b).Fixes labels :=
  (Members.hooks_fix_map _ (fun event m world =>
    m.request_fixes (Channel.hooks_fix_labels b) event world) _).ofPart fun _ _ => rfl

namespace Adapter

variable {members : Members (Channel C)} {name : String} {message : Message} {world : ω}

theorem route_labels {done : Attempt Fault ω (Members (Channel C) × Message)}
    (routed : route b name message world members = some done) :
    (done.value.1.map fun m => m.component.labels) = members.map fun m => m.component.labels := by
  induction members generalizing done with
  | nil => cases routed
  | cons m rest ih =>
      rcases route_cons_cases routed with
        ⟨further, goesOn, left⟩ | ⟨before, workflow, behind, workflows_eq, left⟩
      · rw [left, List.map_cons, List.map_cons, ih goesOn]
      · rw [left, List.map_cons, List.map_cons]
        refine congrArg (· :: _) ?_
        simp only [Channel.labels, workflows_eq, Managed.withComponent, List.map_append,
          List.map_cons]
        rfl

/-! ## Adapters that stand for definitions -/

/-- An adapter that enacts a definition under the ids of that definition. -/
structure StandsFor (fit : Service.Definition → State → C → Prop) (d : AdapterDefinition)
    (state : State) (a : Adapter C) : Prop where
  enacts : a.Enacts fit d state
  uniqueId : a.uniqueId = d.id
  labels : a.labels = d.channels.map ChannelDefinition.labels

variable {d : AdapterDefinition}

theorem hooks_keep_standsFor (keeps : ∀ s, b.Keeps (fit s)) (d : AdapterDefinition) :
    (hooks b).Keeps State.accepts (StandsFor fit d) := by
  intro state event a world accepted stands
  constructor
  · exact hooks_keep_enacts keeps d state event a world accepted stands.enacts
  · exact stands.uniqueId
  · exact (hooks_fix_labels b event a world).trans stands.labels

theorem process_standsFor (keeps : ∀ s, b.Keeps (fit s)) {a : Adapter C}
    (stands : a.StandsFor fit d state) (name : String) (message : Message) (world : ω) :
    (a.process b name message world).value.1.StandsFor fit d state := by
  have enacts := process_enacts keeps stands.enacts name message world
  unfold process at enacts ⊢
  cases routed : route b name message world a.channels with
  | none => exact stands
  | some done =>
      rw [routed] at enacts
      exact ⟨enacts, stands.uniqueId, (route_labels routed).trans stands.labels⟩

/-- Whatever it is asked to do, an adapter goes on standing for its definition. -/
theorem actAll_standsFor (keeps : ∀ s, b.Keeps (fit s)) (deeds : List Deed)
    {root : Managed (Adapter C)} (stands : root.Fits (StandsFor fit d)) (world : ω) :
    (actAll b deeds root world).1.Fits (StandsFor fit d) :=
  actAll_fits (hooks_keep_standsFor keeps d) (fun _ _ name message world stands =>
    process_standsFor keeps stands name message world) deeds stands world

/-- The channels with the definitions that they enact, and with their labels. -/
theorem StandsFor.channels {a : Adapter C} (stands : a.StandsFor fit d state) :
    List.Forall₂ (fun c m => m.component.labels = ChannelDefinition.labels c ∧
      m.Suits Channel.autoStart (Channel.Enacts fit c) state) d.channels a.channels :=
  Members.forall₂_read stands.enacts stands.labels

end Adapter

/-! ## Targets -/

/-- The first workflow of a name in document order, among the channels that start with their
adapter, with the places of its channel and of itself. -/
structure Target (ds : List ChannelDefinition) (name : String) where
  channelPlace : Nat
  channel : ChannelDefinition
  isChannel : ds[channelPlace]? = some channel
  starts : channel.autoStart = true
  place : Nat
  workflow : WorkflowDefinition
  isFirst : channel.IsFirst name place workflow
  earlier : ∀ other ∈ ds.take channelPlace, other.autoStart = true →
    ∀ w ∈ other.workflows, w.id ≠ name

namespace Target

variable {ds : List ChannelDefinition} {name : String} {c : ChannelDefinition}

/-- A target in the first channel. -/
def here {place : Nat} {w : WorkflowDefinition} (ds : List ChannelDefinition)
    (starts : c.autoStart = true) (isFirst : c.IsFirst name place w) : Target (c :: ds) name where
  channelPlace := 0
  channel := c
  isChannel := rfl
  starts := starts
  place := place
  workflow := w
  isFirst := isFirst
  earlier := List.forall_mem_nil _

/-- A target in a channel further on. -/
def later (none : c.autoStart = true → ∀ w ∈ c.workflows, w.id ≠ name) (target : Target ds name) :
    Target (c :: ds) name where
  channelPlace := target.channelPlace + 1
  channel := target.channel
  isChannel := target.isChannel
  starts := target.starts
  place := target.place
  workflow := target.workflow
  isFirst := target.isFirst
  earlier := List.forall_mem_cons.mpr ⟨none, target.earlier⟩

end Target

/-- Whether there is a workflow of a name among the channels that start with the adapter. -/
def AdapterDefinition.Offers (d : AdapterDefinition) (name : String) : Prop :=
  ∃ c ∈ d.channels, c.autoStart = true ∧ ∃ w ∈ c.workflows, w.id = name

instance (d : AdapterDefinition) (name : String) : Decidable (d.Offers name) :=
  inferInstanceAs
    (Decidable (∃ c ∈ d.channels, c.autoStart = true ∧ ∃ w ∈ c.workflows, w.id = name))

namespace Adapter

variable {ds : List ChannelDefinition} {members : Members (Channel C)} {name : String}

/-- Put what is left of a workflow in its place. -/
def putIn (channelPlace place : Nat) (w : Workflow C) (members : Members (Channel C)) :
    Members (Channel C) :=
  members.modify channelPlace fun m => m.withComponent { m.component with
    workflows := m.component.workflows.modify place (·.withComponent w) }

/-- An adapter with what is left of a workflow in its place. -/
def put (channelPlace place : Nat) (w : Workflow C) (a : Adapter C) : Adapter C :=
  { a with channels := putIn channelPlace place w a.channels }

/-- In an adapter that is not started no channel is, and so no workflow gets a message. -/
theorem route_eq_none (conform : members.Conform Channel.autoStart (Channel.Enacts fit) ds state)
    (notStarted : state ≠ .started) (b : Behaviour ω C) (name : String) (message : Message)
    (world : ω) : route b name message world members = none := by
  unfold Members.Conform at conform
  induction conform with
  | nil => rfl
  | @cons c m ds rest suits _ ih =>
      have idle : m.state ≠ .started := by
        intro started
        have wholeSuits := suits.1
        rw [started] at wholeSuits
        exact notStarted wholeSuits.whole_started
      simp only [route, if_neg idle, ih, Option.map_none]

/-- Among the channels of a started adapter a message goes to its target, if there is one. -/
theorem route_target
    (all : List.Forall₂ (fun c m => m.component.labels = ChannelDefinition.labels c ∧
      m.Suits Channel.autoStart (Channel.Enacts fit c) .started) ds members)
    (b : Behaviour ω C) (name : String) (message : Message) (world : ω) :
    ((∀ c ∈ ds, c.autoStart = true → ∀ w ∈ c.workflows, w.id ≠ name) ∧
        route b name message world members = none) ∨
      ∃ (target : Target ds name) (m : Managed (Channel C)) (workflow : Managed (Workflow C)),
        members[target.channelPlace]? = some m ∧
        m.component.workflows[target.place]? = some workflow ∧
        workflow.component.label = (target.channel.id, target.workflow.id) ∧
        workflow.Suits (fun _ => true) (Workflow.Enacts fit target.workflow) .started ∧
        route b name message world members =
          some ((workflow.component.process b message world).map fun left =>
            (putIn target.channelPlace target.place left.1 members, left.2)) := by
  induction all with
  | nil => exact Or.inl ⟨List.forall_mem_nil _, rfl⟩
  | @cons c m ds rest first _ ih =>
      obtain ⟨labels, suits⟩ := first
      rcases found_first suits name with
        ⟨none, notFound⟩ | ⟨starts, place, w, workflow, isFirst, member, atWork, found⟩
      · simp only [route, notFound]
        rcases ih with ⟨noneLater, notRouted⟩ | ⟨target, m', workflow, isChannel, member, label,
          atWork, routed⟩
        · rw [notRouted]
          exact Or.inl ⟨List.forall_mem_cons.mpr ⟨none, noneLater⟩, rfl⟩
        · rw [routed]
          exact Or.inr ⟨target.later none, m', workflow, isChannel, member, label, atWork, rfl⟩
      · have label : workflow.component.label = (c.id, w.id) := by
          have both := congrArg (·[place]?) labels
          simp only [Channel.labels, ChannelDefinition.labels, List.getElem?_map, member,
            isFirst.workflow, Option.map_some, Option.some.injEq] at both
          exact both
        refine Or.inr ⟨.here ds starts isFirst, m, workflow, rfl, member, label, atWork, ?_⟩
        obtain ⟨inside, rfl⟩ := List.getElem?_eq_some_iff.mp member
        simp only [route, found, putIn, Target.here, List.modify_zero_cons,
          List.modify_eq_take_cons_drop inside]

/-- However an adapter has lived: if it is started, and a channel that starts with it has a workflow
of the name, then the first such workflow in document order marks the message with its ids and runs
its services, which are all at work, one after the other up to the first that fails, and nothing
else is changed. In any other case the workflow is not available, and nothing is changed at all. -/
theorem process_routes (keeps : ∀ s, b.Keeps (fit s)) {d : AdapterDefinition} {a : Adapter C}
    (made : a.StandsFor fit d .closed) (rootName : String) (deeds : List Deed) (name : String)
    (message : Message) (world : ω) :
    let left := actAll b deeds (.new rootName a) world
    let root := left.1
    let done := root.component.process b name message left.2
    (root.state = .started → d.Offers name →
      ∃ (target : Target d.channels name) (m : Managed (Channel C))
          (workflow : Managed (Workflow C)),
        root.component.channels[target.channelPlace]? = some m ∧
        m.component.workflows[target.place]? = some workflow ∧
        workflow.component.services.Conform (fun _ => true) fit target.workflow.services .started ∧
        done =
          (processAll b workflow.component.services
            ((message.add Message.workflowKey target.workflow.id).add Message.channelKey
              target.channel.id) left.2).map fun served =>
            (root.component.put target.channelPlace target.place
              { workflow.component with services := served.1 }, served.2)) ∧
      (¬(root.state = .started ∧ d.Offers name) →
        done = .refused
          (.error (.unavailable name ("no started workflow in adapter " ++ d.id)))
          (root.component, message) left.2) := by
  intro left root done
  have isNew : (Managed.new rootName a).Fits (StandsFor fit d) := made
  have stands : root.component.StandsFor fit d root.state :=
    actAll_standsFor keeps deeds isNew world
  have channels := stands.channels
  have refused (none : route b name message left.2 root.component.channels = none) :
      done = .refused (.error (.unavailable name ("no started workflow in adapter " ++ d.id)))
        (root.component, message) left.2 := by
    simp only [done, process, none, stands.uniqueId]
  by_cases started : root.state = .started
  · rw [started] at channels
    rcases route_target channels b name message left.2 with
      ⟨none, notRouted⟩ | ⟨target, m, workflow, isChannel, member, label, atWork, routed⟩
    · refine ⟨fun _ offers => ?_, fun _ => refused notRouted⟩
      obtain ⟨c, isChannel, starts, w, isWorkflow, named⟩ := offers
      exact absurd named (none c isChannel starts w isWorkflow)
    · constructor
      · intro _ _
        obtain ⟨workStarted, enacts⟩ := atWork.started rfl
        refine ⟨target, m, workflow, isChannel, member, enacts, ?_⟩
        obtain ⟨channelId, uniqueId⟩ := Prod.mk.inj label
        simp only [done, process, routed, Workflow.process, Workflow.mark, channelId, uniqueId]
        rfl
      · intro noTarget
        have isChannel := List.mem_of_getElem? target.isChannel
        have isWorkflow := List.mem_of_getElem? target.isFirst.workflow
        exact absurd ⟨started, target.channel, isChannel, target.starts, target.workflow,
          isWorkflow, target.isFirst.named⟩ noTarget
  · have none := route_eq_none stands.enacts started b name message left.2
    exact ⟨fun atWork => absurd atWork started, fun _ => refused none⟩

end Adapter

/-! ## Adapters made from definitions -/

/-- An adapter stands for the definition that it was made from. -/
theorem AdapterDefinition.instantiate_standsFor [Journal ω] (d : AdapterDefinition) :
    (d.instantiate (ω := ω)).StandsFor (Live.Enacts d.rank) d .closed := by
  refine ⟨d.instantiate_enacts, rfl, ?_⟩
  simp only [Adapter.labels, instantiate, List.map_map]
  refine Eq.trans (List.map_congr_left fun channel _ => ?_)
    (List.attach_map_val (f := ChannelDefinition.labels))
  simp only [Channel.labels, Function.comp_apply, Managed.new, List.map_map]
  exact List.attach_map_val (f := fun w : WorkflowDefinition => (channel.1.id, w.id))

/-- A channel that does not start with its adapter and two that do, each with a workflow of the same
name. -/
def threeChannels : AdapterDefinition :=
  ⟨some "adapter", [
    ⟨some "manual", false, [⟨some "orders", []⟩]⟩,
    ⟨some "first", true, [⟨some "other", []⟩,
      ⟨some "orders", [.simple none (.replaceText "a" "b")]⟩]⟩,
    ⟨some "second", true, [⟨some "orders", []⟩]⟩]⟩

/-- The workflow of the name in the second channel gets the message, and marks it with its ids. -/
theorem Adapter.process_routes_threeChannels :
    let services := LiveAdapter.services (ω := Rehearsal.Trace) threeChannels.rank
    let left := actAll services [.obey (.request .start)]
      (.new "adapter" threeChannels.instantiate) .empty
    let done := left.1.component.process services "orders" (.plain "a" .empty) left.2
    left.1.state = .started ∧ threeChannels.Offers "orders" ∧ done.value.2.payload = "b" ∧
      ∃ (target : Target threeChannels.channels "orders") (workflow : Workflow _),
        done.verdict = (processAll services workflow.services
          (((Message.plain "a" .empty).add Message.workflowKey target.workflow.id).add
            Message.channelKey target.channel.id) left.2).verdict := by
  intro services left done
  have started : left.1.state = .started := by decide
  have offers : threeChannels.Offers "orders" := by decide
  obtain ⟨target, m, workflow, -, -, -, routed⟩ :=
    (process_routes (Live.enacting threeChannels.rank).keepsFit
      threeChannels.instantiate_standsFor "adapter" [.obey (.request .start)] "orders"
      (.plain "a" .empty) Rehearsal.Trace.empty).1 started offers
  exact ⟨started, offers, by decide, target, workflow.component, congrArg Attempt.verdict routed⟩

end IntegrationHost
