import IntegrationHost.Proofs.Registry.Fleet

/-!
# Destroying an adapter from several threads

Several callers ask a registry at once to destroy the adapter of a name. Each call takes its steps
one by one, and the steps of different calls may come in any order. The claim on the adapter
decides: the call that is granted it destroys the adapter, and all others do not find it. Some may
come so late that the server does not know the name any more, and forget it even before the one that
destroys the adapter does.
-/

namespace IntegrationHost.Registry

variable {ω A : Type}

/-! ## Calls -/

/-- How far a call has got. Where it concerns the adapter of a handle, it knows the handle's number
and name. -/
inductive Caller where
  | called
  /-- The server knows the adapter. -/
  | found (n : Nat) (own : ObjectName)
  /-- The registry lists its name. -/
  | listed (n : Nat) (own : ObjectName)
  /-- The server knows no other adapter by its name. -/
  | held (n : Nat) (own : ObjectName)
  /-- It is this caller that destroys the adapter. -/
  | claimed (n : Nat) (own : ObjectName)
  | closed (own : ObjectName)
  | unregistered (own : ObjectName)
  | delisted (own : ObjectName)
  /-- The server does not know the name. -/
  | missed (error : Error)
  | dropped (error : Error)
  | ended (answer : Except Error Unit)

namespace Caller

/-- The next step of a call. -/
def advance (kind : AdapterKind ω A) (name : ObjectName) (r : Registry ω) (h : Host ω A) :
    Caller → Caller × Registry ω × Host ω A
  | called =>
    match h.find r.server name with
    | .error error => (.missed error, r, h)
    | .ok n =>
      match h.handles[n]? with
      | none => (.ended (.error (.core "no such handle")), r, h)
      | some handle => (.found n handle.name, r, h)
  | found n own =>
    if r.lists own then (.listed n own, r, h) else (.ended (.error (.notFound own)), r, h)
  | listed n own =>
    match (h.servers r.server).adapter? own with
    | none => (.held n own, r, h)
    | some registered =>
      if registered == n then (.held n own, r, h) else (.ended (.error (.notFound own)), r, h)
  | held n own =>
    match h.claim n with
    | (true, h) => (.claimed n own, r, h)
    | (false, h) => (.ended (.error (.notFound own)), r, h)
  | claimed n own => (.closed own, r, (h.request kind .close n).2)
  | closed own => (.unregistered own, r, (h.unregister r.server own).2)
  | unregistered own => (.delisted own, r.delist own, h)
  | delisted own => (.ended (.ok ()), r.removeLocation own, h)
  | missed error => (.dropped error, r.delist name, h)
  | dropped error => (.ended (.error error), r.removeLocation name, h)
  | ended answer => (.ended answer, r, h)

/-- The adapter that the next step closes. -/
def closing : Caller → List Nat
  | claimed n _ => [n]
  | _ => []

/-- How many steps are left at most. -/
def toGo : Caller → Nat
  | called => 8
  | found _ _ => 7
  | listed _ _ => 6
  | held _ _ => 5
  | claimed _ _ => 4
  | closed _ => 3
  | unregistered _ => 2
  | delisted _ => 1
  | missed _ => 2
  | dropped _ => 1
  | ended _ => 0

theorem ended_of_toGo {caller : Caller} (none : caller.toGo = 0) :
    ∃ answer, caller = .ended answer := by
  cases caller with
  | ended answer => exact ⟨answer, rfl⟩
  | _ => cases none

/-- Every step brings a call nearer to its end. -/
theorem toGo_advance (kind : AdapterKind ω A) (name : ObjectName) (r : Registry ω) (h : Host ω A)
    (caller : Caller) : (caller.advance kind name r h).1.toGo ≤ caller.toGo - 1 := by
  cases caller with
  | called =>
      simp only [advance]
      split
      · simp [toGo]
      · split <;> simp [toGo]
  | found n own =>
      simp only [advance]
      split <;> simp [toGo]
  | listed n own =>
      simp only [advance]
      split
      · simp [toGo]
      · split <;> simp [toGo]
  | held n own =>
      simp only [advance]
      split <;> simp [toGo]
  | _ => exact Nat.le_refl _

end Caller

/-- Calls under way, and what they work on. -/
structure Race (ω A : Type) where
  callers : List Caller
  registry : Registry ω
  host : Host ω A
  /-- The adapters that were closed so far. -/
  closings : List Nat

namespace Race

/-- A number of calls that have taken no step yet. -/
def start (callers : Nat) (r : Registry ω) (h : Host ω A) : Race ω A :=
  ⟨List.replicate callers .called, r, h, []⟩

/-- The next step of one call. -/
def advance (kind : AdapterKind ω A) (name : ObjectName) (race : Race ω A) (i : Nat) : Race ω A :=
  match race.callers[i]? with
  | none => race
  | some caller =>
    let left := caller.advance kind name race.registry race.host
    ⟨race.callers.set i left.1, left.2.1, left.2.2, race.closings ++ caller.closing⟩

/-- Steps of calls in some order. -/
def run (kind : AdapterKind ω A) (name : ObjectName) (race : Race ω A) (schedule : List Nat) :
    Race ω A :=
  schedule.foldl (advance kind name) race

/-! ## Every call ends -/

variable {kind : AdapterKind ω A} {name : ObjectName}

theorem length_advance (race : Race ω A) (i : Nat) :
    (race.advance kind name i).callers.length = race.callers.length := by
  unfold advance
  cases race.callers[i]? with
  | none => rfl
  | some caller => exact List.length_set

theorem length_run (race : Race ω A) (schedule : List Nat) :
    (race.run kind name schedule).callers.length = race.callers.length := by
  induction schedule generalizing race with
  | nil => rfl
  | cons i rest ih => exact (ih _).trans (race.length_advance i)

theorem length_run_start (kind : AdapterKind ω A) (name : ObjectName) (callers : Nat)
    (r : Registry ω) (h : Host ω A) (schedule : List Nat) :
    ((start callers r h).run kind name schedule).callers.length = callers :=
  (length_run _ schedule).trans List.length_replicate

/-- A step moves one call on, and leaves the others where they are. -/
theorem toGo_advance (kind : AdapterKind ω A) (name : ObjectName) (i : Nat) {race : Race ω A}
    {j : Nat} {caller : Caller} (isThere : race.callers[j]? = some caller) :
    ∃ next, (race.advance kind name i).callers[j]? = some next ∧
      next.toGo ≤ caller.toGo - [i].count j := by
  by_cases same : i = j
  · subst same
    rw [List.count_singleton_self]
    refine ⟨_, ?_, caller.toGo_advance kind name race.registry race.host⟩
    simp only [advance, isThere]
    exact List.getElem?_set_self (List.getElem?_eq_some_iff.mp isThere).1
  · rw [List.count_eq_zero_of_not_mem (by simpa using Ne.symm same)]
    refine ⟨caller, ?_, Nat.le_refl _⟩
    unfold advance
    cases race.callers[i]? with
    | none => exact isThere
    | some mover => exact (List.getElem?_set_ne same).trans isThere

/-- A call takes each turn that it is given, until it ends. -/
theorem toGo_run (kind : AdapterKind ω A) (name : ObjectName) {race : Race ω A} {j : Nat}
    {caller : Caller} (isThere : race.callers[j]? = some caller) (schedule : List Nat) :
    ∃ last, (race.run kind name schedule).callers[j]? = some last ∧
      last.toGo ≤ caller.toGo - schedule.count j := by
  induction schedule generalizing race caller with
  | nil => exact ⟨caller, isThere, Nat.le_refl _⟩
  | cons i rest ih =>
      obtain ⟨next, isNext, nearer⟩ := toGo_advance kind name i isThere
      obtain ⟨last, isLast, within⟩ := ih isNext
      refine ⟨last, isLast, ?_⟩
      have turns : (i :: rest).count j = [i].count j + rest.count j := by
        rw [← List.count_append, List.singleton_append]
      omega

/-- All calls have ended. -/
def Over (race : Race ω A) : Prop :=
  ∀ caller ∈ race.callers, ∃ answer, caller = .ended answer

/-- Calls end, whatever they find, when each is given eight turns. -/
theorem over_of_turns (kind : AdapterKind ω A) (name : ObjectName) (r : Registry ω) (h : Host ω A)
    {callers : Nat} {schedule : List Nat} (turns : ∀ i < callers, 8 ≤ schedule.count i) :
    ((start callers r h).run kind name schedule).Over := by
  intro caller member
  obtain ⟨i, within, isThere⟩ := List.getElem_of_mem member
  have inRange : i < callers := by
    rw [length_run_start] at within
    exact within
  have isCalled : (start callers r h).callers[i]? = some .called :=
    List.getElem?_replicate_of_lt inRange
  obtain ⟨last, isLast, nearer⟩ := toGo_run kind name isCalled schedule
  have same := (List.getElem?_eq_getElem within).symm.trans isLast
  rw [← isThere, Option.some.inj same]
  apply Caller.ended_of_toGo
  have enough := turns i inRange
  have first : Caller.called.toGo = 8 := rfl
  omega

end Race

/-! ## Exactly one call succeeds -/

/-- A registry of whose records of a name some are removed. -/
def cleaned (name : ObjectName) (unlisted unlocated : Bool) (r : Registry ω) : Registry ω :=
  { r with
    listed := if unlisted then r.listed.filter (· != name) else r.listed
    locations := if unlocated then withoutLocation name r.locations else r.locations }

section

variable (r : Registry ω) (name : ObjectName) (unlisted unlocated : Bool)

theorem delist_cleaned :
    (r.cleaned name unlisted unlocated).delist name = r.cleaned name true unlocated := by
  cases unlisted <;> simp [cleaned, delist]

theorem removeLocation_cleaned :
    (r.cleaned name unlisted unlocated).removeLocation name = r.cleaned name unlisted true := by
  cases unlocated <;> simp [cleaned, removeLocation, withoutLocation]

theorem forget_eq_cleaned : r.forget name = r.cleaned name true true :=
  rfl

end

variable {kind : AdapterKind ω A} {r registry : Registry ω} {h host : Host ω A} {n : Nat}
  {handle : Handle A} {closings : List Nat}

namespace Caller

/-- A call that may still be granted the claim on an adapter. -/
inductive Pending (n : Nat) (name : ObjectName) : Caller → Prop
  | called : Pending n name .called
  | found : Pending n name (.found n name)
  | listed : Pending n name (.listed n name)
  | held : Pending n name (.held n name)

/-- A call that is not granted it any more, or was not. -/
inductive Beaten (n : Nat) (name : ObjectName) : Caller → Prop
  | pending {caller : Caller} (isPending : Pending n name caller) : Beaten n name caller
  | missed : Beaten n name (.missed (.notFound name))
  | dropped : Beaten n name (.dropped (.notFound name))
  | ended : Beaten n name (.ended (.error (.notFound name)))

/-- What the call that is granted the claim has left so far, of a registry and a host, and which
adapters it has closed. Others may have removed records of the registry as well. -/
inductive Ahead (kind : AdapterKind ω A) (r : Registry ω) (h : Host ω A) (n : Nat)
    (handle : Handle A) : Caller → Registry ω → Host ω A → List Nat → Prop
  | claimed (unlisted unlocated : Bool) :
      Ahead kind r h n handle (.claimed n handle.name) (r.cleaned handle.name unlisted unlocated)
        (h.setHandle n { handle with destroyed := true }) []
  | closed (unlisted unlocated : Bool) :
      Ahead kind r h n handle (.closed handle.name) (r.cleaned handle.name unlisted unlocated)
        ((h.setHandle n { handle with destroyed := true }).request kind .close n).2 [n]
  | unregistered (unlisted unlocated : Bool) :
      Ahead kind r h n handle (.unregistered handle.name)
        (r.cleaned handle.name unlisted unlocated) (h.tornDown kind r.server n handle) [n]
  | delisted (unlocated : Bool) :
      Ahead kind r h n handle (.delisted handle.name) (r.cleaned handle.name true unlocated)
        (h.tornDown kind r.server n handle) [n]
  | ended :
      Ahead kind r h n handle (.ended (.ok ())) (r.forget handle.name)
        (h.tornDown kind r.server n handle) [n]

/-- As long as the claim is not granted, nothing changes. -/
theorem Pending.advance (kind : AdapterKind ω A) {caller : Caller}
    (pending : Pending n handle.name caller) (found : h.handles[n]? = some handle)
    (alive : handle.destroyed = false) (listed : r.lists handle.name = true)
    (served : (h.servers r.server).adapter? handle.name = some n) :
    caller.closing = [] ∧
      ((∃ next, Pending n handle.name next ∧
          caller.advance kind handle.name r h = (next, r, h)) ∨
        caller.advance kind handle.name r h =
          (.claimed n handle.name, r, h.setHandle n { handle with destroyed := true })) := by
  cases pending with
  | called =>
      refine ⟨rfl, Or.inl ⟨_, .found, ?_⟩⟩
      simp only [Caller.advance, Host.find_eq_ok_iff.mpr served, found]
  | found =>
      refine ⟨rfl, Or.inl ⟨_, .listed, ?_⟩⟩
      simp only [Caller.advance, listed, if_true]
  | listed =>
      refine ⟨rfl, Or.inl ⟨_, .held, ?_⟩⟩
      simp only [Caller.advance, served, BEq.rfl, if_true]
  | held =>
      refine ⟨rfl, Or.inr ?_⟩
      simp [Caller.advance, Host.claim, found, alive]

/-- The call that was granted the claim goes on destroying the adapter. -/
theorem Ahead.advance {caller : Caller}
    (ahead : Ahead kind r h n handle caller registry host closings) :
    let left := caller.advance kind handle.name registry host
    Ahead kind r h n handle left.1 left.2.1 left.2.2 (closings ++ caller.closing) := by
  cases ahead with
  | claimed unlisted unlocated => exact .closed unlisted unlocated
  | closed unlisted unlocated => exact .unregistered unlisted unlocated
  | unregistered unlisted unlocated =>
      dsimp only [Caller.advance]
      rw [delist_cleaned]
      exact .delisted unlocated
  | delisted unlocated =>
      dsimp only [Caller.advance]
      rw [removeLocation_cleaned]
      exact .ended
  | ended => exact .ended

/-- The call that was granted the claim ends when everything is done. -/
theorem Ahead.ended_inv {answer : Except Error Unit}
    (ahead : Ahead kind r h n handle (.ended answer) registry host closings) :
    answer = .ok () ∧ registry = r.forget handle.name ∧
      host = h.tornDown kind r.server n handle ∧ closings = [n] := by
  cases ahead
  exact ⟨rfl, rfl, rfl, rfl⟩

/-- What the other calls see. -/
theorem Ahead.seen {caller : Caller}
    (ahead : Ahead kind r h n handle caller registry host closings)
    (found : h.handles[n]? = some handle)
    (served : (h.servers r.server).adapter? handle.name = some n) :
    registry.server = r.server ∧ host.mark? n = some (handle.name, true) ∧
      ((host.servers r.server).adapter? handle.name = some n ∨
        (host.servers r.server).adapter? handle.name = none) := by
  have marked :
      (h.setHandle n { handle with destroyed := true }).mark? n = some (handle.name, true) := by
    rw [Host.mark?_setHandle found, if_pos rfl]
  have markedDown : (h.tornDown kind r.server n handle).mark? n = some (handle.name, true) := by
    rw [Host.mark?_tornDown found, if_pos rfl]
  have unserved : ((h.tornDown kind r.server n handle).servers r.server).adapter? handle.name =
      none := by
    rw [Host.adapter?_tornDown, if_pos rfl]
  cases ahead with
  | claimed _ _ => exact ⟨rfl, marked, Or.inl served⟩
  | closed _ _ =>
      rw [Host.mark?_request, Host.servers_request]
      exact ⟨rfl, marked, Or.inl served⟩
  | unregistered _ _ => exact ⟨rfl, markedDown, Or.inr unserved⟩
  | delisted _ => exact ⟨rfl, markedDown, Or.inr unserved⟩
  | ended => exact ⟨rfl, markedDown, Or.inr unserved⟩

/-- Other calls may forget the name before it does. -/
theorem Ahead.delist {winner : Caller}
    (ahead : Ahead kind r h n handle winner registry host closings) :
    Ahead kind r h n handle winner (registry.delist handle.name) host closings := by
  cases ahead with
  | claimed _ unlocated =>
      rw [delist_cleaned]
      exact .claimed true unlocated
  | closed _ unlocated =>
      rw [delist_cleaned]
      exact .closed true unlocated
  | unregistered _ unlocated =>
      rw [delist_cleaned]
      exact .unregistered true unlocated
  | delisted unlocated =>
      rw [delist_cleaned]
      exact .delisted unlocated
  | ended =>
      rw [forget_eq_cleaned, delist_cleaned, ← forget_eq_cleaned]
      exact .ended

theorem Ahead.removeLocation {winner : Caller}
    (ahead : Ahead kind r h n handle winner registry host closings) :
    Ahead kind r h n handle winner (registry.removeLocation handle.name) host closings := by
  cases ahead with
  | claimed unlisted _ =>
      rw [removeLocation_cleaned]
      exact .claimed unlisted true
  | closed unlisted _ =>
      rw [removeLocation_cleaned]
      exact .closed unlisted true
  | unregistered unlisted _ =>
      rw [removeLocation_cleaned]
      exact .unregistered unlisted true
  | delisted _ =>
      rw [removeLocation_cleaned]
      exact .delisted true
  | ended =>
      rw [forget_eq_cleaned, removeLocation_cleaned, ← forget_eq_cleaned]
      exact .ended

/-- That is all that they do. -/
theorem Ahead.others {winner caller : Caller}
    (ahead : Ahead kind r h n handle winner registry host closings)
    (beaten : Beaten n handle.name caller) (found : h.handles[n]? = some handle)
    (served : (h.servers r.server).adapter? handle.name = some n) :
    caller.closing = [] ∧ ∃ next left,
      caller.advance kind handle.name registry host = (next, left, host) ∧
        Beaten n handle.name next ∧ Ahead kind r h n handle winner left host closings := by
  obtain ⟨server_eq, marked, seen⟩ := ahead.seen found served
  obtain ⟨mine, isMine, own, destroyed⟩ := Host.mark?_eq_some_iff.mp marked
  rw [← server_eq] at seen
  cases beaten with
  | pending isPending =>
      cases isPending with
      | called =>
          rcases seen with stillServed | unserved
          · refine ⟨rfl, _, _, ?_, .pending .found, ahead⟩
            simp only [Caller.advance, Host.find_eq_ok_iff.mpr stillServed, isMine, own]
          · refine ⟨rfl, _, _, ?_, .missed, ahead⟩
            simp only [Caller.advance, Host.find, unserved]
      | found =>
          by_cases listed : registry.lists handle.name = true
          · exact ⟨rfl, _, _, if_pos listed, .pending .listed, ahead⟩
          · exact ⟨rfl, _, _, if_neg listed, .ended, ahead⟩
      | listed =>
          -- Also when the server knows nothing by the name, it is left to the claim to decide.
          refine ⟨rfl, _, _, ?_, .pending .held, ahead⟩
          rcases seen with stillServed | unserved
          · simp only [Caller.advance, stillServed, BEq.rfl, if_true]
          · simp only [Caller.advance, unserved]
      | held =>
          refine ⟨rfl, _, _, ?_, .ended, ahead⟩
          simp only [Caller.advance, Host.claim, isMine, destroyed, if_true]
  | missed => exact ⟨rfl, _, _, rfl, .dropped, ahead.delist⟩
  | dropped => exact ⟨rfl, _, _, rfl, .ended, ahead.removeLocation⟩
  | ended => exact ⟨rfl, _, _, rfl, .ended, ahead⟩

end Caller

namespace Race

/-! ## Runs -/

theorem run_append (kind : AdapterKind ω A) (name : ObjectName) (race : Race ω A)
    (before after : List Nat) :
    race.run kind name (before ++ after) =
      (race.run kind name before).run kind name after :=
  List.foldl_append

/-- Between the two steps that look whether a registry holds an adapter, nothing may happen. -/
theorem run_found (kind : AdapterKind ω A) (r : Registry ω) (h : Host ω A) (name own : ObjectName)
    (n : Nat) :
    (⟨[.found n own], r, h, []⟩ : Race ω A).run kind name [0, 0] =
      ⟨[if r.holds n own (h.servers r.server) then .held n own
        else .ended (.error (.notFound own))], r, h, []⟩ := by
  cases listed : r.lists own with
  | false => simp [run, advance, Caller.advance, Caller.closing, holds, listed]
  | true =>
      cases served : (h.servers r.server).adapter? own with
      | none => simp [run, advance, Caller.advance, Caller.closing, holds, listed, served]
      | some m =>
          by_cases same : m = n <;>
            simp [run, advance, Caller.advance, Caller.closing, holds, listed, served, same]

/-- One call that is left alone does what a destruction by name does. -/
theorem run_alone (kind : AdapterKind ω A) (r : Registry ω) (h : Host ω A) (name : ObjectName) :
    ∃ closings, (start 1 r h).run kind name (List.replicate 8 0) =
      ⟨[.ended (r.destroyNamed kind name h).answer], (r.destroyNamed kind name h).registry,
        (r.destroyNamed kind name h).host, closings⟩ := by
  unfold destroyNamed
  cases sought : h.find r.server name with
  | error error =>
      refine ⟨[], ?_⟩
      simp [start, run, advance, Caller.advance, Caller.closing, sought, Reply.refuse, forget]
  | ok n =>
      unfold destroy
      cases found : h.handles[n]? with
      | none =>
          refine ⟨[], ?_⟩
          simp [start, run, advance, Caller.advance, Caller.closing, sought, found, Reply.refuse]
      | some handle =>
          have first : (start 1 r h).advance kind name 0 =
              ⟨[.found n handle.name], r, h, []⟩ := by
            simp [start, advance, Caller.advance, Caller.closing, sought, found]
          have parts : (start 1 r h).run kind name (List.replicate 8 0) =
              (((start 1 r h).advance kind name 0).run kind name [0, 0]).run kind name
                (List.replicate 5 0) := by
            rw [show List.replicate 8 0 = [0] ++ ([0, 0] ++ List.replicate 5 0) from rfl,
              run_append, run_append]
            rfl
          rw [parts, first, run_found]
          cases held : r.holds n handle.name (h.servers r.server) with
          | false =>
              refine ⟨[], ?_⟩
              simp [run, advance, Caller.advance, Caller.closing, found, held, Reply.refuse]
          | true =>
              cases destroyed : handle.destroyed with
              | true =>
                  refine ⟨[], ?_⟩
                  simp [run, advance, Caller.advance, Caller.closing, held, Host.claim, found,
                    destroyed, Reply.refuse]
              | false =>
                  refine ⟨[n], ?_⟩
                  simp [run, advance, Caller.advance, Caller.closing, held, Host.claim, found,
                    destroyed, tearDown, forget]

variable {race : Race ω A} {i k : Nat} {caller winner : Caller}

theorem advance_eq {name : ObjectName} {next : Caller} (moved : race.callers[i]? = some caller)
    (step : caller.advance kind name race.registry race.host = (next, registry, host)) :
    race.advance kind name i =
      ⟨race.callers.set i next, registry, host, race.closings ++ caller.closing⟩ := by
  simp only [advance, moved, step]

/-- The claim was granted to no call so far, or to one of them. -/
inductive Fair (kind : AdapterKind ω A) (r : Registry ω) (h : Host ω A) (n : Nat)
    (handle : Handle A) : Race ω A → Prop
  | contested {callers : List Caller}
      (pending : ∀ caller ∈ callers, Caller.Pending n handle.name caller) :
      Fair kind r h n handle ⟨callers, r, h, []⟩
  | decided {race : Race ω A} {k : Nat} {winner : Caller}
      (isWinner : race.callers[k]? = some winner)
      (ahead : Caller.Ahead kind r h n handle winner race.registry race.host race.closings)
      (beaten : ∀ {i caller}, i ≠ k → race.callers[i]? = some caller →
        Caller.Beaten n handle.name caller) :
      Fair kind r h n handle race

namespace Fair

theorem start (kind : AdapterKind ω A) (r : Registry ω) (h : Host ω A) (n : Nat) (handle : Handle A)
    (callers : Nat) : Fair kind r h n handle (Race.start callers r h) := by
  apply contested
  intro caller member
  rw [List.eq_of_mem_replicate member]
  exact .called

/-- A call goes on, and may be granted the claim. -/
theorem contend {callers : List Caller}
    (pending : ∀ caller ∈ callers, Caller.Pending n handle.name caller)
    (moved : callers[i]? = some caller) (found : h.handles[n]? = some handle)
    (alive : handle.destroyed = false) (listed : r.lists handle.name = true)
    (served : (h.servers r.server).adapter? handle.name = some n) :
    Fair kind r h n handle ((⟨callers, r, h, []⟩ : Race ω A).advance kind handle.name i) := by
  obtain ⟨closing_eq, ⟨next, stillPending, step⟩ | step⟩ :=
    (pending caller (List.mem_of_getElem? moved)).advance kind found alive listed served
  · rw [advance_eq moved step, closing_eq]
    apply contested
    intro other member
    rcases List.mem_or_eq_of_mem_set member with old | rfl
    · exact pending other old
    · exact stillPending
  · rw [advance_eq moved step, closing_eq]
    have within := (List.getElem?_eq_some_iff.mp moved).1
    apply decided (List.getElem?_set_self within) (.claimed false false)
    intro j other different isOther
    rw [List.getElem?_set_ne (Ne.symm different)] at isOther
    exact .pending (pending other (List.mem_of_getElem? isOther))

/-- The call that was granted the claim goes on. -/
theorem lead (isWinner : race.callers[k]? = some winner)
    (ahead : Caller.Ahead kind r h n handle winner race.registry race.host race.closings)
    (beaten : ∀ {i caller}, i ≠ k → race.callers[i]? = some caller →
      Caller.Beaten n handle.name caller) :
    Fair kind r h n handle (race.advance kind handle.name k) := by
  rw [advance_eq isWinner rfl]
  have within := (List.getElem?_eq_some_iff.mp isWinner).1
  apply decided (List.getElem?_set_self within) ahead.advance
  intro j other different isOther
  rw [List.getElem?_set_ne (Ne.symm different)] at isOther
  exact beaten different isOther

/-- Another call goes on. -/
theorem follow (isWinner : race.callers[k]? = some winner)
    (ahead : Caller.Ahead kind r h n handle winner race.registry race.host race.closings)
    (beaten : ∀ {i caller}, i ≠ k → race.callers[i]? = some caller →
      Caller.Beaten n handle.name caller)
    (different : i ≠ k) (moved : race.callers[i]? = some caller)
    (found : h.handles[n]? = some handle)
    (served : (h.servers r.server).adapter? handle.name = some n) :
    Fair kind r h n handle (race.advance kind handle.name i) := by
  obtain ⟨closing_eq, next, left, step, stillBeaten, stillAhead⟩ :=
    ahead.others (beaten different moved) found served
  rw [advance_eq moved step, closing_eq, List.append_nil]
  apply decided ((List.getElem?_set_ne different).trans isWinner) stillAhead
  intro j other notWinner isOther
  by_cases same : i = j
  · subst same
    rw [List.getElem?_set_self (List.getElem?_eq_some_iff.mp moved).1] at isOther
    cases isOther
    exact stillBeaten
  · rw [List.getElem?_set_ne same] at isOther
    exact beaten notWinner isOther

/-- Whichever call goes on, the claim is granted once at most. -/
theorem advance (fair : Fair kind r h n handle race) (found : h.handles[n]? = some handle)
    (alive : handle.destroyed = false) (listed : r.lists handle.name = true)
    (served : (h.servers r.server).adapter? handle.name = some n) (i : Nat) :
    Fair kind r h n handle (race.advance kind handle.name i) := by
  cases moved : race.callers[i]? with
  | none =>
      rw [show race.advance kind handle.name i = race by simp only [Race.advance, moved]]
      exact fair
  | some caller =>
      cases fair with
      | contested pending => exact contend pending moved found alive listed served
      | @decided _ k winner isWinner ahead beaten =>
          by_cases same : i = k
          · rw [same]
            exact lead isWinner ahead beaten
          · exact follow isWinner ahead beaten same moved found served

theorem run (fair : Fair kind r h n handle race) (found : h.handles[n]? = some handle)
    (alive : handle.destroyed = false) (listed : r.lists handle.name = true)
    (served : (h.servers r.server).adapter? handle.name = some n) (schedule : List Nat) :
    Fair kind r h n handle (race.run kind handle.name schedule) := by
  induction schedule generalizing race with
  | nil => exact fair
  | cons i rest ih => exact ih (fair.advance found alive listed served i)

end Fair

/-- When all calls have ended, one has destroyed the adapter. -/
theorem Fair.outcome (fair : Fair kind r h n handle race) (several : 0 < race.callers.length)
    (finished : race.Over) :
    (∃ winner < race.callers.length, ∀ i < race.callers.length, race.callers[i]? =
        some (.ended (if i = winner then .ok () else .error (.notFound handle.name)))) ∧
      race.closings = [n] ∧ race.registry = r.forget handle.name ∧
      race.host = h.tornDown kind r.server n handle := by
  cases fair with
  | @contested callers pending =>
      have first := List.getElem_mem several
      obtain ⟨answer, isEnded⟩ := finished _ first
      have isPending := pending _ first
      rw [isEnded] at isPending
      cases isPending
  | @decided _ k winner isWinner ahead beaten =>
      obtain ⟨answer, rfl⟩ := finished winner (List.mem_of_getElem? isWinner)
      obtain ⟨rfl, registry_eq, host_eq, closings_eq⟩ := ahead.ended_inv
      refine ⟨⟨k, (List.getElem?_eq_some_iff.mp isWinner).1, ?_⟩, closings_eq, registry_eq, host_eq⟩
      intro i within
      by_cases same : i = k
      · rw [if_pos same, same]
        exact isWinner
      · rw [if_neg same]
        have isThere := List.getElem?_eq_getElem within
        obtain ⟨other, isEnded⟩ := finished _ (List.getElem_mem within)
        have lost := beaten same isThere
        rw [isEnded] at lost isThere
        cases lost with
        | pending isPending => cases isPending
        | ended => exact isThere

/-- However the steps of any number of calls for an adapter alternate, all calls end when each is
given eight turns. When they have ended, one of them has destroyed the adapter, as if it had been
alone, and the adapter was closed once; all others have not found it. -/
theorem destroyed_once (kind : AdapterKind ω A) (found : h.handles[n]? = some handle)
    (alive : handle.destroyed = false) (listed : r.lists handle.name = true)
    (served : (h.servers r.server).adapter? handle.name = some n) {callers : Nat}
    (several : 0 < callers) (schedule : List Nat) :
    let race := (start callers r h).run kind handle.name schedule
    ((∀ i < callers, 8 ≤ schedule.count i) → race.Over) ∧
      (race.Over →
        (∃ winner < callers, ∀ i < callers, race.callers[i]? =
          some (.ended (if i = winner then .ok () else .error (.notFound handle.name)))) ∧
        race.closings = [n] ∧
        (race.registry, race.host) = (r.destroyNamed kind handle.name h).left ∧
        race.registry.lists handle.name = false ∧
        race.registry.location? handle.name = none ∧
        (race.host.servers r.server).knows handle.name = false) := by
  intro race
  have length_eq := length_run_start kind handle.name callers r h schedule
  constructor
  · exact over_of_turns kind handle.name r h
  · intro finished
    have fair := (Fair.start kind r h n handle callers).run found alive listed served schedule
    have nonempty : 0 < race.callers.length := by
      rw [length_eq]
      exact several
    obtain ⟨winner, closings_eq, registry_eq, host_eq⟩ := fair.outcome nonempty finished
    have done := destroyNamed_of_served kind found listed served
    rw [alive, if_neg Bool.false_ne_true] at done
    rw [length_eq] at winner
    refine ⟨winner, closings_eq, ?_, ?_, ?_, ?_⟩
    · rw [done, registry_eq, host_eq]
      rfl
    · rw [registry_eq, lists_forget, if_pos rfl]
    · rw [registry_eq, location?_forget, if_pos rfl]
    · rw [host_eq, Host.servers_tornDown, if_pos rfl]
      apply Bool.eq_false_iff.mpr
      intro known
      exact ((Management.Server.knows_unregister _ _ _).mp known).1 rfl

/-- Three calls for a running adapter. The third has come as far as to the claim when the first
destroys the adapter and takes it off the server. Then the second does not find it on the server any
more, and forgets it; then the third is not granted the claim. -/
theorem destroyed_once_three :
    let kind := LiveAdapter.kind Rehearsal.Stage
    let r := Fleet.ofIds none 0
    let created := r.createFromText kind "a" (.new default)
    let h := (created.host.request kind .start 0).2
    let schedule := [2, 2, 2, 0, 0, 0, 0, 0, 0, 1, 1, 1, 2] ++ (List.replicate 8 [0, 1, 2]).flatten
    ∃ name, created.answer = .ok name ∧ h.mark? 0 = some (name, false) ∧
      let race := (start 3 created.registry h).run kind name schedule
      (∃ winner < 3, ∀ i < 3, race.callers[i]? =
        some (.ended (if i = winner then .ok () else .error (.notFound name)))) ∧
      race.closings = [0] ∧
      (race.registry, race.host) = (created.registry.destroyNamed kind name h).left ∧
      race.registry.lists name = false ∧ race.registry.location? name = none ∧
      (race.host.servers created.registry.server).knows name = false := by
  intro kind r created h schedule
  have marked : h.mark? 0 = some (⟨ObjectName.hostDomain,
      .ofList [("type", "Adapter"), ("id", "a")], by decide⟩, false) := by
    decide
  refine ⟨_, by rfl, marked, ?_⟩
  obtain ⟨handle, found, own, alive⟩ := Host.mark?_eq_some_iff.mp marked
  have listed : created.registry.lists handle.name = true := by
    rw [own]
    decide
  have served : (h.servers created.registry.server).adapter? handle.name = some 0 := by
    rw [own]
    decide
  rw [← own]
  have several : 0 < 3 := by decide
  obtain ⟨ends, outcome⟩ := destroyed_once kind found alive listed served several schedule
  exact outcome (ends (by decide))

end Race

end IntegrationHost.Registry
