import IntegrationHost.Proofs.Lifecycle.Trail

/-!
# Rollback

What becomes of each member when its parent initialises or starts its members, seen from a record of
the hook calls of each. Where one fails, starting takes back exactly what it has done itself: the
members that are started afterwards are those that were before, and these are left alone.
Initialising takes back more: it closes every member before the one that has failed, also those
that it found initialised, started or stopped.
-/

namespace IntegrationHost.Lifecycle

open Service (Call Recorded)

variable {ω C : Type}

namespace Members

/-! ## How initialising and starting go on -/

section

variable (hooks : Hooks ω C)

/-- A member that was asked to initialise and did. -/
def Initialised (m left : Managed C) : Prop :=
  ∃ world, (m.request hooks .init world).verdict = .ok () ∧
    left = (m.request hooks .init world).value

/-- All that initialising can do: every member has done as it was asked, or one has failed and those
before it were closed. -/
theorem initFrom_cases (before members : Members C) (world : ω) :
    (∃ now reached, List.Forall₂ (Initialised hooks) members now ∧
        initFrom hooks before members world = .done (before ++ now) reached) ∨
      ∃ done failing after now reached error,
        members = done ++ failing :: after ∧
        List.Forall₂ (Initialised hooks) done now ∧
        (failing.request hooks .init reached).verdict = .error error ∧
        initFrom hooks before members world =
          let asked := failing.request hooks .init reached
          let closed := requestEach hooks .close (before ++ now) asked.world
          .refused error (closed.1 ++ asked.value :: after) closed.2 := by
  induction members generalizing before world with
  | nil => exact Or.inl ⟨[], world, .nil, by rw [List.append_nil]; rfl⟩
  | cons first rest ih =>
      cases asked : (first.request hooks .init world).verdict with
      | error error =>
          refine Or.inr ⟨[], first, rest, [], world, error, rfl, .nil, asked, ?_⟩
          simp only [initFrom, asked, List.append_nil]
      | ok _ =>
          simp only [initFrom, asked]
          have initialised : Initialised hooks first (first.request hooks .init world).value :=
            ⟨world, asked, rfl⟩
          rcases ih (before ++ [(first.request hooks .init world).value])
              (first.request hooks .init world).world with
            ⟨now, reached, all, ended⟩ |
            ⟨done, failing, after, now, reached, error, rfl, all, failed, ended⟩
          · rw [← List.append_cons] at ended
            exact Or.inl ⟨_, reached, .cons initialised all, ended⟩
          · rw [← List.append_cons] at ended
            exact Or.inr ⟨first :: done, failing, after, _, reached, error, rfl,
              .cons initialised all, failed, ended⟩

/-- A member that was left out, or that was asked to start and did. -/
inductive Passed (accept : Managed C → Bool) (m : Managed C) : Visited C → Prop where
  | leftOut (rejected : accept m = false) : Passed accept m ⟨m, false⟩
  | started (world : ω) (accepted : accept m = true)
      (succeeded : (m.request hooks .start world).verdict = .ok ()) :
      Passed accept m ⟨(m.request hooks .start world).value, m.state != .started⟩

variable (accept : Managed C → Bool)

/-- All that starting can do: it has passed by every member, or one that was not left out has failed
where those before it have brought the surroundings, and the starts among these are undone. -/
theorem startFrom_cases (before : List (Visited C)) (members : Members C) (world : ω) :
    (∃ now reached, List.Forall₂ (Passed hooks accept) members now ∧
        startFrom hooks accept before members world =
          .done ((before ++ now).map Visited.member) reached) ∨
      ∃ done failing after now reached error,
        members = done ++ failing :: after ∧
        List.Forall₂ (Passed hooks accept) done now ∧
        startFrom hooks accept before done world =
          .done ((before ++ now).map Visited.member) reached ∧
        accept failing = true ∧
        (failing.request hooks .start reached).verdict = .error error ∧
        startFrom hooks accept before members world =
          let asked := failing.request hooks .start reached
          let undone := undoStarts hooks (before ++ now) asked.world
          .refused error (undone.1 ++ asked.value :: after) undone.2 := by
  induction members generalizing before world with
  | nil => exact Or.inl ⟨[], world, .nil, by rw [List.append_nil]; rfl⟩
  | cons first rest ih =>
      by_cases accepted : accept first = true
      · cases asked : (first.request hooks .start world).verdict with
        | error error =>
            refine Or.inr ⟨[], first, rest, [], world, error, rfl, .nil, ?_, accepted, asked, ?_⟩
            · rw [List.append_nil]
              rfl
            · simp only [startFrom, if_pos accepted, asked, List.append_nil]
        | ok _ =>
            simp only [startFrom, if_pos accepted, asked]
            have passed := Passed.started world accepted asked
            rcases ih (before ++ [⟨_, first.state != .started⟩])
                (first.request hooks .start world).world with
              ⟨now, reached, all, ended⟩ |
              ⟨done, failing, after, now, reached, error, rfl, all, soFar, picked, failed, ended⟩
            · rw [← List.append_cons] at ended
              exact Or.inl ⟨_, reached, .cons passed all, ended⟩
            · rw [← List.append_cons] at ended soFar
              refine Or.inr ⟨first :: done, failing, after, _, reached, error, rfl,
                .cons passed all, ?_, picked, failed, ended⟩
              simp only [startFrom, if_pos accepted, asked]
              exact soFar
      · simp only [startFrom, if_neg accepted]
        have passed : Passed hooks accept first ⟨first, false⟩ :=
          .leftOut (Bool.eq_false_iff.mpr accepted)
        rcases ih (before ++ [⟨first, false⟩]) world with
          ⟨now, reached, all, ended⟩ |
          ⟨done, failing, after, now, reached, error, rfl, all, soFar, picked, failed, ended⟩
        · rw [← List.append_cons] at ended
          exact Or.inl ⟨_, reached, .cons passed all, ended⟩
        · rw [← List.append_cons] at ended soFar
          refine Or.inr ⟨first :: done, failing, after, _, reached, error, rfl,
            .cons passed all, ?_, picked, failed, ended⟩
          simp only [startFrom, if_neg accepted]
          exact soFar

/-- What becomes of each member that starting has passed by, when its starts are undone. -/
theorem undoStarts_forall₂ {T : Type} {tags : List T} {Q : T → Visited C → Prop}
    {R : T → Managed C → Prop}
    (stops : ∀ t v world, v.startedNow = true → Q t v →
      R t (v.member.request hooks .stop world).value)
    (spares : ∀ t v, v.startedNow = false → Q t v → R t v.member) {visited : List (Visited C)}
    (all : List.Forall₂ Q tags visited) (world : ω) :
    List.Forall₂ R tags (undoStarts hooks visited world).1 := by
  induction all generalizing world with
  | nil => exact .nil
  | @cons t v _ _ first _ ih =>
      unfold undoStarts
      cases now : v.startedNow with
      | true => exact .cons (stops t v world now first) (ih _)
      | false => exact .cons (spares t v now first) (ih _)

end

end Members

/-! ## Initialising -/

/-- Only a closed member needs `init`. -/
theorem Event.requested_init {state : State} (notClosed : state ≠ .closed) :
    Event.init.requested state = [] := by
  cases state with
  | closed => exact absurd rfl notClosed
  | _ => rfl

/-- The events of a member that is asked to initialise and then to close. -/
def State.thereAndBack (state : State) : List Event :=
  Event.init.requested state ++ Event.close.requested (state.after (Event.init.requested state))

theorem State.after_thereAndBack (state : State) : state.after state.thereAndBack = .closed := by
  cases state <;> rfl

/-- What a member is after a failure that takes back only what it has done: closed again if it was
closed, with one call of `close` if it had been initialised, and otherwise what it was. -/
def Managed.RolledBack (m left : Managed (Recorded C)) : Prop :=
  if m.state = .closed then
    left.state = .closed ∧
      ∃ calls, left.component.calls = m.component.calls ++ calls ∧ Call.inits calls ≤ 1 ∧
        Call.closes calls = Call.inits calls
  else left = m

namespace Managed

variable {m left : Managed (Recorded C)}

theorem RolledBack.refl (m : Managed (Recorded C)) : m.RolledBack m := by
  unfold RolledBack
  split
  · exact ⟨‹_›, [], (List.append_nil _).symm, Nat.zero_le 1, rfl⟩
  · rfl

/-- A closed member that could not be initialised is closed. -/
theorem BrokeOff.rolledBack (closed : m.state = .closed) (broke : m.BrokeOff [.init] left) :
    m.RolledBack left := by
  obtain ⟨state_eq, calls_eq⟩ := broke.single
  rw [RolledBack, if_pos closed]
  exact ⟨state_eq.trans closed, [⟨.init, false⟩], calls_eq, Nat.zero_le 1, rfl⟩

/-- A member that was asked to initialise and then closed is rolled back only if it was closed. -/
theorem Took.rolledBack_iff (took : m.Took m.state.thereAndBack left) :
    m.RolledBack left ↔ m.state = .closed := by
  have isClosed : left.state = .closed := took.state_eq.trans m.state.after_thereAndBack
  constructor
  · intro rolledBack
    by_contra notClosed
    rw [RolledBack, if_neg notClosed] at rolledBack
    rw [rolledBack] at isClosed
    exact notClosed isClosed
  · intro closed
    obtain ⟨calls, calls_eq, made⟩ := took.called
    rw [RolledBack, if_pos closed]
    refine ⟨isClosed, calls, calls_eq, ?_⟩
    rw [made.inits_eq, made.closes_eq, closed]
    decide

end Managed

namespace Members

variable {hooks : Hooks ω C} {before members closed : Members (Recorded C)}

theorem Initialised.took {m left : Managed (Recorded C)}
    (initialised : Initialised hooks.recorded m left) :
    m.Took (Event.init.requested m.state) left := by
  obtain ⟨world, succeeded, rfl⟩ := initialised
  exact Managed.request_took succeeded

/-- A member that was asked to initialise has done so if it was closed. -/
theorem Initialised.took_init {m left : Managed (Recorded C)}
    (initialised : Initialised hooks.recorded m left) :
    if m.state = .closed then m.Took [.init] left else left = m := by
  have took := initialised.took
  by_cases closed : m.state = .closed
  · rw [if_pos closed]
    rw [closed] at took
    exact took
  · rw [if_neg closed]
    exact took.untouched (Event.requested_init closed)

/-- Members that were initialised and are closed have gone there and back. -/
theorem requestEach_thereAndBack
    (all : List.Forall₂ (Initialised hooks.recorded) before members) (world : ω) :
    List.Forall₂ (fun m left => m.Took m.state.thereAndBack left) before
      (requestEach hooks.recorded .close members world).1 := by
  apply requestEach_forall₂ (Q := Initialised hooks.recorded) _ all
  intro m initialised now asked
  have took := asked.took
  have closed : initialised.Took (Event.close.requested initialised.state)
      (initialised.request hooks.recorded .close now).value :=
    Managed.request_took (Managed.request_ok rfl)
  rw [took.state_eq] at closed
  exact took.trans closed

/-- When those behind are rolled back, all are if and only if those in front were closed. -/
theorem forall₂_rolledBack_iff {others othersLeft : Members (Recorded C)}
    (rest : List.Forall₂ Managed.RolledBack others othersLeft)
    (all : List.Forall₂ (fun m left => m.Took m.state.thereAndBack left) before closed) :
    List.Forall₂ Managed.RolledBack (before ++ others) (closed ++ othersLeft) ↔
      ∀ m ∈ before, m.state = .closed := by
  induction all with
  | nil => exact iff_of_true rest (List.forall_mem_nil _)
  | cons first _ ih =>
      rw [List.cons_append, List.cons_append, List.forall₂_cons, ih, first.rolledBack_iff,
        List.forall_mem_cons]

/-- Members in any states are initialised. Taking down the calls of their hooks changes nothing
else. If that succeeds, every member that was closed was initialised and the others are what they
were. If it fails, then at a member that was closed and could not be initialised; those behind it
are what they were, and every member before it was closed after it was initialised where that was
needed. So exactly what was done is taken back if and only if all members before the one that has
failed were closed. -/
theorem initAll_rollsBack_iff (hooks : Hooks ω C) (members : Members (Recorded C)) (world : ω) :
    let left := initAll hooks.recorded members world
    initAll hooks (members.map (Managed.map Recorded.service)) world =
        left.map (List.map (Managed.map Recorded.service)) ∧
      (left.verdict = .ok () →
        List.Forall₂
          (fun m after => if m.state = .closed then m.Took [.init] after else after = m)
          members left.value) ∧
      ∀ error, left.verdict = .error error →
        ∃ before failing after closed asked, members = before ++ failing :: after ∧
          left.value = closed ++ asked :: after ∧
          failing.state = .closed ∧ failing.BrokeOff [.init] asked ∧
          List.Forall₂ (fun m after => after.state = .closed ∧ m.Took m.state.thereAndBack after)
            before closed ∧
          (List.Forall₂ Managed.RolledBack members left.value ↔
            ∀ m ∈ before, m.state = .closed) := by
  intro left
  refine ⟨initFrom_map hooks.recorded_projection [] members world, ?_⟩
  rcases initFrom_cases hooks.recorded [] members world with
    ⟨now, reached, all, ended⟩ |
    ⟨before, failing, after, now, reached, error, rfl, all, failed, ended⟩
  · have left_eq : left = .done now reached := ended
    rw [left_eq]
    exact ⟨fun _ => all.imp fun _ _ => Initialised.took_init, nofun⟩
  · have left_eq : left = _ := ended
    have broke := Managed.request_brokeOff failed
    -- A member that is not closed has no event to fail at.
    have wasClosed : failing.state = .closed := by
      by_contra notClosed
      exact broke.ne_nil (Event.requested_init notClosed)
    rw [wasClosed] at broke
    have back := requestEach_thereAndBack all (failing.request hooks.recorded .init reached).world
    have rest : List.Forall₂ Managed.RolledBack (failing :: after)
        ((failing.request hooks.recorded .init reached).value :: after) :=
      .cons (broke.rolledBack wasClosed) (List.forall₂_same.mpr fun m _ => .refl m)
    rw [left_eq]
    refine ⟨nofun, fun _ _ => ⟨before, failing, after, _, _, rfl, rfl, wasClosed, broke, ?_,
      forall₂_rolledBack_iff rest back⟩⟩
    exact back.imp fun m _ took => ⟨took.state_eq.trans m.state.after_thereAndBack, took⟩

/-- Components that refuse an event where they say so. -/
def refusing (refused : Event) : Hooks Unit Bool :=
  ⟨fun event refuses world =>
    if event = refused ∧ refuses then .refused (.reported "refused") refuses world
    else .done refuses world⟩

/-- Two closed members, of which the second refuses `init`. -/
def oneBroken : Members (Recorded Bool) :=
  [.new "sound" (.new false), .new "broken" (.new true)]

/-- The first member is closed again. -/
theorem initAll_rollsBack_iff_oneBroken :
    let left := initAll (refusing .init).recorded oneBroken ()
    left.verdict = .error (.initFailed "broken" "Component error: refused") ∧
      List.Forall₂ Managed.RolledBack oneBroken left.value := by
  refine ⟨by decide, ?_⟩
  obtain ⟨before, failing, after, _, _, members_eq, _, _, _, _, rollsBack⟩ :=
    (initAll_rollsBack_iff (refusing .init) oneBroken ()).2.2
      (.initFailed "broken" "Component error: refused") (by decide)
  have closed : ∀ m ∈ oneBroken, m.state = .closed := by decide
  rw [members_eq] at closed
  exact rollsBack.mpr (List.forall_mem_append.mp closed).1

/-- A member at work in front of one that refuses `init` is stopped and closed. -/
theorem initAll_closes_started :
    let members : Members (Recorded Bool) :=
      [⟨"running", .started, .new false⟩, ⟨"broken", .closed, .new true⟩]
    let left := initAll (refusing .init).recorded members ()
    left.verdict = .error (.initFailed "broken" "Component error: refused") ∧
      left.value =
        [⟨"running", .closed, ⟨false, [⟨.stop, true⟩, ⟨.close, true⟩]⟩⟩,
          ⟨"broken", .closed, ⟨true, [⟨.init, false⟩]⟩⟩] ∧
      ¬ List.Forall₂ Managed.RolledBack members left.value := by
  refine ⟨by decide, rfl, ?_⟩
  intro rolledBack
  cases rolledBack with
  | cons first _ =>
      rw [Managed.RolledBack, if_neg (by decide)] at first
      cases first

end Members

/-! ## Starting -/

/-- A request to start leads to work. -/
theorem State.after_requested_start (state : State) :
    state.after (Event.start.requested state) = .started := by
  cases state <;> rfl

/-- Before the last event of a request to start nothing is at work. -/
theorem State.after_ne_started {state : State} {before after : List Event} {event : Event}
    (split : Event.start.requested state = before ++ event :: after) :
    state ≠ .started ∧ state.after before ≠ .started := by
  rcases before with _ | ⟨first, _ | ⟨second, rest⟩⟩
  · cases state <;> simp_all [Event.requested, State.after]
  · cases state <;> cases first <;> simp_all [Event.requested, State.after, Event.target]
  · cases state <;> simp_all [Event.requested]

/-- A component that could not be started was not at work and is not. -/
theorem Managed.BrokeOff.not_started {m left : Managed (Recorded C)}
    (broke : m.BrokeOff (Event.start.requested m.state) left) :
    m.state ≠ .started ∧ left.state ≠ .started := by
  obtain ⟨before, event, after, _, split, _, state_eq, _⟩ := broke.broken
  rw [state_eq]
  exact State.after_ne_started split

namespace Members

variable {hooks : Hooks ω C} {accept : Managed (Recorded C) → Bool}

/-- A member that was passed by is what it was when it was left out or at work already, and was
started otherwise. -/
theorem Passed.took {m : Managed (Recorded C)} {v : Visited (Recorded C)}
    (passed : Passed hooks.recorded accept m v) :
    if accept m then v.member.state = .started ∧ m.Took (Event.start.requested m.state) v.member
    else v.member = m := by
  cases passed with
  | leftOut rejected => rw [if_neg (by rw [rejected]; decide)]
  | started world accepted succeeded =>
      have took := Managed.request_took succeeded
      rw [if_pos accepted]
      exact ⟨took.state_eq.trans m.state.after_requested_start, took⟩

/-- A member is what it was, but that it was started and stopped if it was picked and not at work.
-/
def StartUndone (accept : Managed (Recorded C) → Bool) (m left : Managed (Recorded C)) : Prop :=
  if accept m = true ∧ m.state ≠ .started then
    left.state = .stopped ∧ m.Took (Event.start.requested m.state ++ [.stop]) left
  else left = m

/-- Only those that were at work before are at work when the starts are undone. -/
theorem StartUndone.started_iff {m left : Managed (Recorded C)}
    (undone : StartUndone accept m left) : left.state = .started ↔ m.state = .started := by
  by_cases wasStarted : accept m = true ∧ m.state ≠ .started
  · rw [StartUndone, if_pos wasStarted] at undone
    rw [undone.1]
    exact iff_of_false nofun wasStarted.2
  · rw [StartUndone, if_neg wasStarted] at undone
    rw [undone]

/-- A request to stop undoes a start, and only those members get one that were not at work. -/
theorem undoStarts_startUndone {before : Members (Recorded C)}
    {visited : List (Visited (Recorded C))}
    (all : List.Forall₂ (Passed hooks.recorded accept) before visited) (world : ω) :
    List.Forall₂ (StartUndone accept) before (undoStarts hooks.recorded visited world).1 := by
  refine undoStarts_forall₂ hooks.recorded ?_ ?_ all world
  · intro m v now startedNow passed
    have stopped : v.member.Took (Event.stop.requested v.member.state)
        (v.member.request hooks.recorded .stop now).value :=
      Managed.request_took (Managed.request_ok rfl)
    have took := passed.took
    cases passed with
    | leftOut => cases startedNow
    | started world accepted succeeded =>
        rw [if_pos accepted] at took
        rw [took.1] at stopped
        have notStarted : m.state ≠ .started := bne_iff_ne.mp startedNow
        rw [StartUndone, if_pos ⟨accepted, notStarted⟩]
        exact ⟨stopped.state_eq, took.2.trans stopped⟩
  · intro m v notNow passed
    have took := passed.took
    cases passed with
    | leftOut rejected =>
        rw [StartUndone, if_neg (by simp [rejected])]
    | started world accepted succeeded =>
        rw [if_pos accepted] at took
        have started : m.state = .started := by simpa using notNow
        rw [StartUndone, if_neg (by simp [started])]
        exact took.2.untouched (by rw [started]; rfl)

/-- Members in any states are started, but for those that are left out. Taking down the calls of
their hooks changes nothing else. If that succeeds, every member that was picked is at work, with
the calls it takes to get there, and the others are what they were. If it fails, then at a picked
member that its own request has left behind in front of the event that failed. Those behind it are
what they were; of those before it the picked ones that were not at work were started and stopped
again, and the others are what they were. So at work are those members that were before. -/
theorem startWhere_rollsBack (hooks : Hooks ω C) (pick : Managed C → Bool)
    (members : Members (Recorded C)) (world : ω) :
    let accept := fun m : Managed (Recorded C) => pick (m.map Recorded.service)
    let left := startWhere hooks.recorded accept members world
    startWhere hooks pick (members.map (Managed.map Recorded.service)) world =
        left.map (List.map (Managed.map Recorded.service)) ∧
      (left.verdict = .ok () →
        List.Forall₂
          (fun m after =>
            if accept m then
              after.state = .started ∧ m.Took (Event.start.requested m.state) after
            else after = m)
          members left.value) ∧
      ∀ error, left.verdict = .error error →
        ∃ before failing after undone, members = before ++ failing :: after ∧
          let reached := startWhere hooks.recorded accept before world
          let asked := failing.request hooks.recorded .start reached.world
          reached.verdict = .ok () ∧ accept failing = true ∧ asked.verdict = .error error ∧
            left.value = undone ++ asked.value :: after ∧
            failing.BrokeOff (Event.start.requested failing.state) asked.value ∧
            List.Forall₂ (StartUndone accept) before undone ∧
            List.Forall₂ (fun m after => after.state = .started ↔ m.state = .started)
              members left.value := by
  intro accept left
  refine ⟨startFrom_map hooks.recorded_projection (fun _ => rfl) [] members world, ?_⟩
  rcases startFrom_cases hooks.recorded accept [] members world with
    ⟨now, reached, all, ended⟩ |
    ⟨before, failing, after, now, reached, error, rfl, all, soFar, picked, failed, ended⟩
  · have left_eq : left = .done (now.map Visited.member) reached := ended
    rw [left_eq]
    refine ⟨fun _ => ?_, nofun⟩
    exact List.forall₂_map_right_iff.mpr (all.imp fun _ _ => Passed.took)
  · have left_eq : left = _ := ended
    have reached_eq : startWhere hooks.recorded accept before world = _ := soFar
    have broke := Managed.request_brokeOff failed
    let asked := failing.request hooks.recorded .start reached
    let undone := undoStarts hooks.recorded now asked.world
    have startUndone : List.Forall₂ (StartUndone accept) before undone.1 :=
      undoStarts_startUndone all _
    -- The member that failed was not at work before, and its request did not bring it there.
    have failing_iff := iff_of_false broke.not_started.2 broke.not_started.1
    rw [left_eq]
    refine ⟨nofun, ?_⟩
    rintro _ ⟨⟩
    refine ⟨before, failing, after, undone.1, rfl, ?_⟩
    simp only [reached_eq]
    refine ⟨rfl, picked, failed, rfl, broke, startUndone, ?_⟩
    apply List.rel_append (startUndone.imp fun _ _ => StartUndone.started_iff)
    exact .cons failing_iff (List.forall₂_same.mpr fun _ _ => Iff.rfl)

/-- Of three members at hand the last refuses to start; the first was at work before, the second is
stopped again. -/
theorem startWhere_rollsBack_three :
    let members : Members (Recorded Bool) :=
      [⟨"running", .started, .new false⟩, .new "sound" (.new false), .new "broken" (.new true)]
    let left := startWhere (refusing .start).recorded (fun _ => true) members ()
    left.verdict = .error (.startFailed "broken" "Component error: refused") ∧
      List.Forall₂ (fun m after => after.state = .started ↔ m.state = .started)
        members left.value ∧
      left.value =
        [⟨"running", .started, .new false⟩,
          ⟨"sound", .stopped, ⟨false, [⟨.init, true⟩, ⟨.start, true⟩, ⟨.stop, true⟩]⟩⟩,
          ⟨"broken", .initialised, ⟨true, [⟨.init, true⟩, ⟨.start, false⟩]⟩⟩] := by
  intro members left
  have failed : left.verdict = .error (.startFailed "broken" "Component error: refused") := by
    decide
  obtain ⟨_, _, _, _, _, _, _, _, _, _, _, same⟩ :=
    (startWhere_rollsBack (refusing .start) (fun _ => true) members ()).2.2 _ failed
  exact ⟨failed, same, rfl⟩

end Members

end IntegrationHost.Lifecycle
