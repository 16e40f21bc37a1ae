import IntegrationHost.Proofs.Lifecycle.Rollback
import IntegrationHost.Proofs.Lists

/-!
# What `init` brings to members

The states of members, told from the state of their parent: those that a parent starts have gone
where it went, the others have only been initialised. A parent may be initialised when it is closed
and when it is stopped. Its members get requests, and a request to initialise asks nothing of a
component that is not closed. So `init` reaches the members of a closed parent, and it passes by
those of a stopped one, which are left as they are.
-/

namespace IntegrationHost.Lifecycle

variable {ω C D : Type}

/-! ## States that follow one another -/

namespace State

/-- The states that a part can be in when its whole has come to a state from new. A part that is not
picked is initialised with its whole, and after that only closed. -/
def Follows : (whole : State) → (picked : Bool) → (part : State) → Prop
  | .closed, _, part => part = .closed
  | .initialised, true, part => part.AtRest
  | .started, true, part => part = .started
  | .stopped, true, part => part = .stopped
  | _, false, part => part = .initialised

variable {whole part : State} {picked : Bool}

theorem follows_initialised (picked : Bool) : State.initialised.Follows picked .initialised := by
  cases picked with
  | false => rfl
  | true => exact Or.inl rfl

/-- A part that is not picked is initialised as long as its whole is not closed. -/
theorem follows_false (notClosed : whole ≠ .closed) :
    whole.Follows false part ↔ part = .initialised := by
  cases whole <;> first | exact Iff.rfl | exact absurd rfl notClosed

/-- A part that follows its whole goes along with it. -/
theorem Follows.suits (follows : whole.Follows picked part) : whole.Suits picked part := by
  cases whole <;> cases picked
  case initialised.false | started.false | stopped.false => exact Or.inl follows
  case stopped.true => exact Or.inr follows
  all_goals exact follows

/-- A part of a whole at rest is at rest. -/
theorem Follows.atRest (follows : whole.Follows picked part) (atRest : whole.AtRest) :
    part.AtRest :=
  (suits_iff_atRest atRest).mp follows.suits

/-- A part that is stopped follows a whole at rest. -/
theorem AtRest.follows_stopped (atRest : whole.AtRest) : whole.Follows true .stopped := by
  rcases atRest with rfl | rfl
  · exact Or.inr rfl
  · rfl

/-- The parts of a stopped whole follow it where it is initialised. -/
theorem Follows.of_stopped (follows : State.stopped.Follows picked part) :
    State.initialised.Follows picked part := by
  cases picked with
  | false => exact follows
  | true => exact Or.inr follows

/-- A whole at work that stops is followed by parts that have stopped if they were at work. -/
theorem Follows.stop (follows : State.started.Follows picked part) :
    State.stopped.Follows picked (if part = .started then .stopped else part) := by
  cases picked with
  | false =>
      have initialised : part = .initialised := follows
      rw [initialised]
      rfl
  | true =>
      have started : part = .started := follows
      rw [if_pos started]
      rfl

end State

namespace Members

/-- All members follow their parent. -/
def Follow (pick : C → Bool) (whole : State) (members : Members C) : Prop :=
  ∀ m ∈ members, whole.Follows (pick m.component) m.state

variable {hooks : Hooks ω C} {pick : C → Bool} {members lefts : Members C} {whole : State}

/-- What follows from a member following its parent, for all that came of members. -/
theorem Follow.of_forall₂ (follow : members.Follow pick whole) {after : State}
    (all : List.Forall₂
      (fun m left => whole.Follows (pick m.component) m.state →
        after.Follows (pick left.component) left.state) members lefts) :
    lefts.Follow pick after := by
  intro left isLeft
  obtain ⟨m, isMember, turns⟩ := Lists.exists_of_forall₂ all isLeft
  exact turns (follow m isMember)

/-! ## Members that are not closed -/

/-- Where no member is closed there is nothing to initialise. -/
theorem initFrom_of_held (held : ∀ m ∈ members, m.state ≠ .closed) (before : Members C)
    (world : ω) : initFrom hooks before members world = .done (before ++ members) world := by
  induction members generalizing before with
  | nil => rw [List.append_nil]; rfl
  | cons first rest ih =>
      obtain ⟨firstHeld, restHeld⟩ := List.forall_mem_cons.mp held
      have nothing := Managed.request_of_nothing hooks world (Event.requested_init firstHeld)
      simp only [initFrom, nothing, Attempt.done]
      rw [ih restHeld, ← List.append_cons]
      rfl

/-! ## What events bring to the members -/

section

variable (fixes : hooks.Fixes pick)

/-- Members that were asked to close are closed. -/
theorem requestEach_closed (members : Members C) (world : ω) :
    ∀ left ∈ (requestEach hooks .close members world).1, left.state = .closed := by
  have all : List.Forall₂ (fun _ left => left.state = .closed) members
      (requestEach hooks .close members world).1 :=
    requestEach_forall₂ (Q := Eq) (fun _ _ now _ => Managed.request_close_state hooks now)
      (List.forall₂_same.mpr fun _ _ => rfl) world
  intro left isLeft
  obtain ⟨_, _, closed⟩ := Lists.exists_of_forall₂ all isLeft
  exact closed

/-- A closed member that was asked to initialise, and did, is initialised. -/
theorem Initialised.state {m left : Managed C} (initialised : Initialised hooks m left)
    (closed : m.state = .closed) : left.state = .initialised := by
  obtain ⟨world, succeeded, rfl⟩ := initialised
  rw [Managed.request_of_single hooks world (by rw [closed]; rfl)] at succeeded ⊢
  exact Managed.fire_state succeeded

/-- Members of a closed parent follow it through `init`, whether that succeeds or not. -/
theorem initAll_follow (closed : ∀ m ∈ members, m.state = .closed) (world : ω) :
    (initAll hooks members world).value.Follow pick
      (Event.init.outcome .closed (initAll hooks members world).succeeded) := by
  unfold initAll
  rcases initFrom_cases hooks [] members world with
    ⟨now, reached, all, ended⟩ |
    ⟨before, failing, after, now, reached, error, rfl, all, failed, ended⟩
  · rw [ended]
    intro left isLeft
    obtain ⟨m, isMember, initialised⟩ := Lists.exists_of_forall₂ all isLeft
    have state_eq := initialised.state (closed m isMember)
    rw [state_eq]
    exact State.follows_initialised _
  · rw [ended]
    obtain ⟨_, others⟩ := List.forall_mem_append.mp closed
    obtain ⟨failingClosed, afterClosed⟩ := List.forall_mem_cons.mp others
    have stillClosed : (failing.request hooks .init reached).value.state = .closed := by
      rw [Managed.request_of_single hooks reached (by rw [failingClosed]; rfl)] at failed ⊢
      exact (Managed.fire_state_of_error failed).trans failingClosed
    exact List.forall_mem_append.mpr
      ⟨requestEach_closed _ _, List.forall_mem_cons.mpr ⟨stillClosed, afterClosed⟩⟩

include fixes

/-- Members of a parent at rest follow it through `start`, whether that succeeds or not. -/
theorem startWhere_follow (atRest : whole.AtRest) (follow : members.Follow pick whole) (world : ω) :
    (startWhere hooks (fun m => pick m.component) members world).value.Follow pick
      (Event.start.outcome whole
        (startWhere hooks (fun m => pick m.component) members world).succeeded) := by
  unfold startWhere
  have notClosed : whole ≠ .closed := by
    rcases atRest with rfl | rfl <;> decide
  have aimed : (Command.request .start).goal? = some .started := rfl
  rcases startFrom_cases hooks (fun m => pick m.component) [] members world with
    ⟨now, reached, all, ended⟩ |
    ⟨before, failing, after, now, reached, error, rfl, all, _, picked, failed, ended⟩
  · rw [ended]
    apply follow.of_forall₂
    apply List.forall₂_map_right_iff.mpr (all.imp _)
    rintro m v (⟨rejected⟩ | ⟨now, accepted, succeeded⟩) follows
    · rw [rejected] at follows ⊢
      exact (State.follows_false notClosed).mp follows
    · rw [Managed.request_fixes fixes, accepted]
      exact Managed.perform_goal aimed succeeded
  · rw [ended]
    obtain ⟨beforeFollow, others⟩ : Follow pick whole before ∧ _ :=
      List.forall_mem_append.mp follow
    obtain ⟨failingFollows, afterFollow⟩ := List.forall_mem_cons.mp others
    have undone : Follow pick whole
        (undoStarts hooks now (failing.request hooks .start reached).world).1 := by
      apply beforeFollow.of_forall₂
      refine undoStarts_forall₂ hooks ?_ ?_ all _
      · rintro m v world startedNow (⟨rejected⟩ | ⟨now, accepted, succeeded⟩) follows
        · cases startedNow
        · have started : (m.request hooks .start now).value.state = .started :=
            Managed.perform_goal aimed succeeded
          rw [Managed.request_fixes fixes, Managed.request_fixes fixes, accepted,
            Managed.request_stop_state, if_pos started]
          exact atRest.follows_stopped
      · rintro m v notNow (⟨rejected⟩ | ⟨now, accepted, succeeded⟩) follows
        · exact follows
        · have started : m.state = .started := by simpa using notNow
          rcases follows.atRest atRest with state | state <;> cases started.symm.trans state
    have failingLeft : whole.Follows
        (pick (failing.request hooks .start reached).value.component)
        (failing.request hooks .start reached).value.state := by
      rw [Managed.request_fixes fixes]
      rw [Managed.request_of_single hooks reached
        (failingFollows.atRest atRest).requested_start] at failed ⊢
      rw [Managed.fire_state_of_error failed]
      exact failingFollows
    exact List.forall_mem_append.mpr ⟨undone, List.forall_mem_cons.mpr ⟨failingLeft, afterFollow⟩⟩

/-- Members follow their parent through all legal events, whatever comes of their own hooks. -/
theorem hooks_keep_follow :
    (Members.hooks hooks fun m => pick m.component).Keeps State.accepts (Follow pick) := by
  intro whole event members world accepted follow
  cases event with
  | init =>
      have origin : whole = .closed ∨ whole = .stopped := by
        cases whole <;> simp [State.accepts, State.canMoveTo, Event.target] at accepted ⊢
      rcases origin with rfl | rfl
      · exact initAll_follow follow world
      · have held : ∀ m ∈ members, m.state ≠ .closed :=
          fun m isMember => (follow m isMember).suits.ne_closed (by decide)
        have nothing : initFrom hooks [] members world = .done members world :=
          initFrom_of_held held [] world
        simp only [Members.hooks, initAll, nothing]
        exact fun m isMember => (follow m isMember).of_stopped
  | start =>
      have atRest : whole.AtRest := by
        unfold State.AtRest
        cases whole <;> simp [State.accepts, State.canMoveTo, Event.target] at accepted ⊢
      exact startWhere_follow fixes atRest follow world
  | stop =>
      have started : whole = .started := by
        cases whole <;> simp [State.accepts, State.canMoveTo, Event.target] at accepted ⊢
      subst started
      apply follow.of_forall₂
      refine requestBackwards_forall₂ (Q := Eq) ?_ (List.forall₂_same.mpr fun _ _ => rfl) world
      rintro m _ now rfl follows
      rw [Managed.request_fixes fixes, Managed.request_stop_state]
      exact follows.stop
  | close =>
      apply follow.of_forall₂
      refine requestBackwards_forall₂ (Q := Eq) ?_ (List.forall₂_same.mpr fun _ _ => rfl) world
      rintro m _ now rfl _
      exact Managed.request_close_state hooks now

end

/-- Of a stopped parent the members that it starts are stopped, as when it was at work before. -/
theorem Follow.states (follow : members.Follow pick .stopped) {origin : State}
    (notClosed : origin ≠ .closed) :
    ∀ m ∈ members, m.state =
      if origin = .closed ∨ pick m.component = false then .initialised else .stopped := by
  intro m isMember
  have follows := follow m isMember
  cases picked : pick m.component with
  | false =>
      rw [picked] at follows
      rw [if_pos (Or.inr rfl)]
      exact follows
  | true =>
      rw [picked] at follows
      rw [if_neg (by simp [notClosed])]
      exact follows

/-- Where `init` of a closed parent has succeeded its members are initialised. -/
theorem initAll_initialises (closed : ∀ m ∈ members, m.state = .closed) {world : ω}
    (succeeded : (initAll hooks members world).succeeded = true) :
    ∀ left ∈ (initAll hooks members world).value, left.state = .initialised := by
  unfold initAll at succeeded ⊢
  rcases initFrom_cases hooks [] members world with
    ⟨now, reached, all, ended⟩ | ⟨_, _, _, _, _, _, _, _, _, ended⟩
  · rw [ended]
    intro left isLeft
    obtain ⟨m, isMember, initialised⟩ := Lists.exists_of_forall₂ all isLeft
    exact initialised.state (closed m isMember)
  · rw [ended] at succeeded
    cases succeeded

end Members

/-! ## Commands and where they lead -/

/-- The events that a command takes a component through from a state. -/
def Command.events : Command → State → List Event
  | .fire event, _ => [event]
  | .request event, state => event.requested state
  | .moveTo target, state => (state.pathTo target).map State.event

/-- Commands that end with `init` begin with it, but for the walk that stops a component first. -/
theorem Command.events_of_init {command : Command} {state : State}
    (ends : (command.events state).getLast? = some .init) :
    command.events state = [.init] ∨ state = .started ∧ command.events state = [.stop, .init] := by
  cases command with
  | fire event => exact Or.inl (by simpa [events] using ends)
  | request event =>
      cases event <;> cases state <;> simp_all [events, Event.requested]
  | moveTo target =>
      cases target <;> cases state <;> simp_all [events, State.pathTo, State.event]

namespace Managed

variable {hooks : Hooks ω C} {origin m : Managed C}

/-- A command carries out its events. -/
theorem perform_eq_fireAll (hooks : Hooks ω C) (command : Command) (m : Managed C) (world : ω) :
    m.perform hooks command world = m.fireAll hooks (command.events m.state) world := by
  cases command with
  | fire event => exact (fireAll_singleton hooks event m world).symm
  | request event => rfl
  | moveTo target => rfl

/-- What commands can make of a component, each in the surroundings that it finds. -/
inductive Led (hooks : Hooks ω C) (origin : Managed C) : Managed C → Prop where
  | refl : Led hooks origin origin
  | step {m : Managed C} (led : Led hooks origin m) (command : Command) (world : ω) :
      Led hooks origin (m.perform hooks command world).value

theorem Fits.led {P : State → C → Prop} (keeps : hooks.Keeps State.accepts P)
    (fits : origin.Fits P) (led : Led hooks origin m) : m.Fits P := by
  induction led with
  | refl => exact fits
  | step _ command world ih => exact ih.perform keeps command world

/-- Commands that are carried out one after the other lead on. -/
theorem Led.performAll (led : Led hooks origin m) (commands : List Command) (world : ω) :
    Led hooks origin (m.performAll hooks commands world).1 := by
  induction commands generalizing m world with
  | nil => exact led
  | cons first rest ih => exact ih (led.step first world) _

end Managed

/-! ## Wholes that pass their events on -/

section

variable {hooks : Hooks ω C} {pick : C → Bool} {part : D → Members C} {put : Members C → D → D}

/-- Hooks of a whole with members, of which it starts those that are picked. Wherever commands have
led a new whole: if a command that ends with `init` succeeds, the members are initialised where the
whole was closed, and otherwise those that it starts are stopped and the others are initialised. So
they are all initialised exactly when the whole was closed or starts none of them; and `init` leaves
a stopped whole and the surroundings as they are, but for the state of the whole itself. -/
def Hooks.InitPassesOn (hooks : Hooks ω D) (part : D → Members C) (pick : C → Bool) : Prop :=
  ∀ (name : String) (whole : D), (∀ m ∈ part whole, m.state = .closed) →
    ∀ reached, Managed.Led hooks (.new name whole) reached →
      ∀ (command : Command) (world : ω), (command.events reached.state).getLast? = some .init →
        let asked := reached.perform hooks command world
        let members := part asked.value.component
        asked.verdict = .ok () →
          (∀ m ∈ members, m.state =
            if reached.state = .closed ∨ pick m.component = false then .initialised
            else .stopped) ∧
          ((∀ m ∈ members, m.state = .initialised) ↔
            reached.state = .closed ∨ ∀ m ∈ members, pick m.component = false) ∧
          (reached.state = .stopped →
            asked = .done { reached with state := .initialised } world)

variable (fixes : hooks.Fixes pick) (part_put : ∀ members whole, part (put members whole) = members)
  (put_part : ∀ whole, put (part whole) whole = whole)

/-- The hooks of a whole that passes its events on to its members. -/
abbrev Hooks.ofMembers (part : D → Members C) (put : Members C → D → D) (pick : C → Bool)
    (hooks : Hooks ω C) : Hooks ω D :=
  .ofPart part put (Members.hooks hooks fun m => pick m.component)

namespace Managed

variable {m : Managed D} {world : ω}

include part_put put_part in
/-- All that `init` can do where it succeeds. -/
theorem fire_init_cases (follow : (part m.component).Follow pick m.state)
    (succeeded : (m.fire (.ofMembers part put pick hooks) .init world).verdict = .ok ()) :
    (m.state = .closed ∧
        ∀ left ∈ part (m.fire (.ofMembers part put pick hooks) .init world).value.component,
          left.state = .initialised) ∨
      (m.state = .stopped ∧
        m.fire (.ofMembers part put pick hooks) .init world =
          .done { m with state := .initialised } world) := by
  rcases fire_cases (.ofMembers part put pick hooks) .init m world with
    ⟨_, fired⟩ | ⟨_, _, _, _, fired⟩ | ⟨legal, outcome, fired⟩
  · rw [fired] at succeeded
    cases succeeded
  · rw [fired] at succeeded
    cases succeeded
  · have ran : (Members.initAll hooks (part m.component) world).succeeded = true :=
      Event.succeeded_of_outcome legal rfl outcome
    rw [fired]
    cases origin : m.state with
    | closed =>
        rw [origin] at follow
        refine Or.inl ⟨rfl, ?_⟩
        have all := Members.initAll_initialises follow ran
        simp only [Attempt.done, Hooks.ofMembers, Hooks.ofPart, Attempt.map, part_put]
        exact all
    | stopped =>
        rw [origin] at follow
        refine Or.inr ⟨rfl, ?_⟩
        have held : ∀ member ∈ part m.component, member.state ≠ .closed :=
          fun member isMember => (follow member isMember).suits.ne_closed (by decide)
        have nothing : Members.initAll hooks (part m.component) world =
            .done (part m.component) world := Members.initFrom_of_held held [] world
        simp only [Hooks.ofMembers, Hooks.ofPart, Members.hooks, nothing, Attempt.map,
          Attempt.done, put_part]
        rfl
    | initialised => cases origin ▸ legal
    | started => cases origin ▸ legal

include fixes part_put in
/-- Wherever a whole has come to, its members follow it. -/
theorem Led.follow {name : String} {whole : D} (new : ∀ m ∈ part whole, m.state = .closed)
    (led : Led (.ofMembers part put pick hooks) (.new name whole) m) :
    (part m.component).Follow pick m.state := by
  have keeps : (Hooks.ofMembers part put pick hooks).Keeps State.accepts
      (fun state whole => (part whole).Follow pick state) :=
    (Members.hooks_keep_follow fixes).ofPart part_put
  have isNew : (Managed.new name whole).Fits
      (fun state whole => (part whole).Follow pick state) := new
  exact isNew.led keeps led

end Managed

/-- Members that each are initialised or stopped, as the picks have it. -/
theorem Members.forall_initialised_iff {members : Members C} {wasClosed : Prop}
    [Decidable wasClosed]
    (states : ∀ m ∈ members, m.state =
      if wasClosed ∨ pick m.component = false then .initialised else .stopped) :
    (∀ m ∈ members, m.state = .initialised) ↔
      wasClosed ∨ ∀ m ∈ members, pick m.component = false := by
  by_cases closed : wasClosed
  · refine iff_of_true (fun m isMember => ?_) (Or.inl closed)
    rw [states m isMember, if_pos (Or.inl closed)]
  · rw [or_iff_right closed]
    refine forall₂_congr fun m isMember => ?_
    rw [states m isMember]
    simp [closed]

include fixes part_put put_part

/-- The hooks of a whole that passes its events on to its members, as far as `init` goes. -/
theorem Hooks.initPassesOn : (Hooks.ofMembers part put pick hooks).InitPassesOn part pick := by
  intro name whole new reached led command world ends asked members succeeded
  have follow := led.follow fixes part_put new
  have asked_eq : asked = _ := Managed.perform_eq_fireAll _ command reached world
  rcases Command.events_of_init ends with events_eq | ⟨started, events_eq⟩
  · rw [events_eq, Managed.fireAll_singleton] at asked_eq
    rw [asked_eq] at succeeded
    rcases Managed.fire_init_cases part_put put_part follow succeeded with
      ⟨closed, initialised⟩ | ⟨stopped, fired⟩
    · rw [← asked_eq] at initialised
      have states : ∀ m ∈ members, m.state =
          if reached.state = .closed ∨ pick m.component = false then .initialised
          else .stopped := by
        intro m isMember
        rw [if_pos (Or.inl closed)]
        exact initialised m isMember
      refine ⟨states, Members.forall_initialised_iff states, ?_⟩
      intro stopped
      cases closed.symm.trans stopped
    · have left_eq := asked_eq.trans fired
      have members_eq : members = part reached.component := by
        simp only [members, left_eq, Attempt.done]
      rw [stopped] at follow
      have notClosed : reached.state ≠ .closed := by
        rw [stopped]
        decide
      have states := follow.states notClosed
      rw [← members_eq] at states
      exact ⟨states, Members.forall_initialised_iff states, fun _ => left_eq⟩
  · -- A whole at work is stopped first, and so are the members that it starts.
    have ok : (reached.fire (.ofMembers part put pick hooks) .stop world).verdict = .ok () :=
      Managed.fire_verdict (by rw [started]; rfl) rfl world
    have nowStopped :
        (reached.fire (.ofMembers part put pick hooks) .stop world).value.state = .stopped :=
      Managed.fire_state ok
    have middleFollow : (part
        (reached.fire (.ofMembers part put pick hooks) .stop world).value.component).Follow pick
          (reached.fire (.ofMembers part put pick hooks) .stop world).value.state :=
      (led.step (.fire .stop) world).follow fixes part_put new
    rw [events_eq, Managed.fireAll_cons_of_ok ok, Managed.fireAll_singleton] at asked_eq
    rw [asked_eq] at succeeded
    rcases Managed.fire_init_cases part_put put_part middleFollow succeeded with
      ⟨closed, _⟩ | ⟨_, fired⟩
    · cases nowStopped.symm.trans closed
    · have members_eq : members = part
          (reached.fire (.ofMembers part put pick hooks) .stop world).value.component := by
        simp only [members, asked_eq.trans fired, Attempt.done]
      rw [nowStopped, ← members_eq] at middleFollow
      have notClosed : reached.state ≠ .closed := by
        rw [started]
        decide
      have states := middleFollow.states notClosed
      refine ⟨states, Members.forall_initialised_iff states, fun stopped => ?_⟩
      cases started.symm.trans stopped

end

end IntegrationHost.Lifecycle
