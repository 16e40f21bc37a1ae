import IntegrationHost.Proofs.Adapter.Coherence
import IntegrationHost.Proofs.Lifecycle.Discipline
import IntegrationHost.Proofs.Registry.Fleet

/-!
# Requests to many adapters

A request is sent to the components of some names one after the other, until one of them fails. As
long as what becomes of an adapter is up to that adapter alone, the order does not matter: either
all components grant their requests, and then they do so in every order, or none of the orders comes
to its end. Where it comes to its end each component, an adapter or a stranger, has done what it
would have done on its own.
-/

namespace IntegrationHost

open Lifecycle Service

variable {ω ν A C : Type}

namespace Lifecycle

/-! ## Components that keep to themselves -/

/-- What comes of an event is up to the component, with all that it has been through, and not to the
surroundings. -/
def Hooks.Aloof (hooks : Hooks ω C) : Prop :=
  ∀ event component world other,
    (hooks.run event component world).verdict = (hooks.run event component other).verdict ∧
      (hooks.run event component world).value = (hooks.run event component other).value

/-- Taking down the calls of its hooks makes a component no less aloof. -/
theorem Hooks.Aloof.recorded {hooks : Hooks ω C} (aloof : hooks.Aloof) : hooks.recorded.Aloof := by
  intro event r world other
  obtain ⟨verdict_eq, value_eq⟩ := aloof event r.service world other
  simp only [Hooks.recorded, Attempt.map, Attempt.succeeded]
  rw [verdict_eq, value_eq]
  exact ⟨rfl, rfl⟩

/-- A component with surroundings of its own. -/
structure Secluded (ν C : Type) where
  component : C
  own : ν

/-- What components do in surroundings of their own. -/
def Hooks.secluded (hooks : Hooks ν C) : Hooks ω (Secluded ν C) :=
  ⟨fun event s world =>
    let ran := hooks.run event s.component s.own
    ⟨ran.verdict, ⟨ran.value, ran.world⟩, world⟩⟩

/-- Whatever components do, they do it aloof from each other when each has its own surroundings. -/
theorem Hooks.secluded_aloof (hooks : Hooks ν C) : (hooks.secluded (ω := ω)).Aloof :=
  fun _ _ _ _ => ⟨rfl, rfl⟩

namespace Managed

variable {hooks : Hooks ω C}

theorem fire_aloof (aloof : hooks.Aloof) (event : Event) (m : Managed C) (world other : ω) :
    (m.fire hooks event world).verdict = (m.fire hooks event other).verdict ∧
      (m.fire hooks event world).value = (m.fire hooks event other).value := by
  obtain ⟨verdict_eq, value_eq⟩ := aloof event m.component world other
  unfold fire
  by_cases legal : m.state.canMoveTo event.target = true
  · simp only [if_pos legal, verdict_eq, value_eq]
    cases event.canFail with
    | false => exact ⟨rfl, rfl⟩
    | true => cases (hooks.run event m.component other).verdict <;> exact ⟨rfl, rfl⟩
  · simp only [if_neg legal]
    exact ⟨rfl, rfl⟩

theorem fireAll_aloof (aloof : hooks.Aloof) (events : List Event) (m : Managed C)
    (world other : ω) :
    (m.fireAll hooks events world).verdict = (m.fireAll hooks events other).verdict ∧
      (m.fireAll hooks events world).value = (m.fireAll hooks events other).value := by
  induction events generalizing m world other with
  | nil => exact ⟨rfl, rfl⟩
  | cons event rest ih =>
      obtain ⟨verdict_eq, value_eq⟩ := fire_aloof aloof event m world other
      simp only [fireAll, Attempt.andThen]
      rw [verdict_eq, value_eq]
      cases fired : (m.fire hooks event other).verdict with
      | ok _ => exact ih _ _ _
      | error error => exact ⟨verdict_eq, value_eq⟩

theorem request_aloof (aloof : hooks.Aloof) (event : Event) (m : Managed C) (world other : ω) :
    (m.request hooks event world).verdict = (m.request hooks event other).verdict ∧
      (m.request hooks event world).value = (m.request hooks event other).value :=
  fireAll_aloof aloof _ m world other

/-- A request that was granted asks for nothing more. -/
theorem request_granted {event : Event} {m : Managed C} {world : ω}
    (granted : (m.request hooks event world).verdict = .ok ()) (other : ω) :
    (m.request hooks event world).value.request hooks event other =
      .done (m.request hooks event world).value other := by
  apply request_of_nothing
  have reached : (m.request hooks event world).value.state =
      m.state.after (event.requested m.state) := fireAll_state granted
  rw [reached]
  cases event <;> cases m.state <;> rfl

end Managed

end Lifecycle

/-- Adapters with records of the calls of their hooks. -/
def AdapterKind.recorded (kind : AdapterKind ω A) : AdapterKind ω (Recorded A) :=
  ⟨fun d => .new (kind.build d), kind.hooks.recorded⟩

/-- What a request leaves of a handle. -/
def Handle.asked (kind : AdapterKind ω A) (event : Event) (world : ω) (handle : Handle A) :
    Handle A :=
  { handle with adapter := (handle.adapter.request kind.hooks event world).value }

namespace Host

variable {kind : AdapterKind ω A} {event : Event} {s n : Nat} {h host left : Host ω A}
  {name : ObjectName} {names : List ObjectName}

/-! ## One request -/

/-- The adapter of a handle, if there is one, grants a request. -/
def Willing (kind : AdapterKind ω A) (event : Event) (h : Host ω A) (n : Nat) : Prop :=
  ∀ handle, h.handles[n]? = some handle →
    ∀ world, (handle.adapter.request kind.hooks event world).verdict = .ok ()

/-- Some adapters, and the strangers of some names on a server, have granted a request, and nothing
else has happened. -/
structure Granted (kind : AdapterKind ω A) (event : Event) (s : Nat) (adapters : Nat → Prop)
    (strangers : ObjectName → Prop) (h left : Host ω A) : Prop where
  willing : ∀ n, adapters n → h.Willing kind event n
  asked : ∀ n, adapters n → ∀ world,
    left.handles[n]? = (h.handles[n]?).map (Handle.asked kind event world)
  others : ∀ n, ¬ adapters n → left.handles[n]? = h.handles[n]?
  servers : left.servers = h.servers
  greeted : ∀ name, strangers name →
    left.strangers s name = ((h.strangers s name).ask (.request event)).2
  strange : ∀ t name, ¬ (t = s ∧ strangers name) → left.strangers t name = h.strangers t name

theorem request_ok_iff (aloof : kind.hooks.Aloof) :
    (h.request kind event n).1 = .ok () ↔ h.Willing kind event n := by
  unfold request Willing
  cases h.handles[n]? with
  | none => exact iff_of_true rfl nofun
  | some handle =>
      constructor
      · rintro granted _ ⟨⟩ world
        exact (Managed.request_aloof aloof event handle.adapter world h.world).1.trans granted
      · exact fun willing => willing handle rfl h.world

theorem Willing.granted (aloof : kind.hooks.Aloof) (willing : h.Willing kind event n) (s : Nat) :
    Granted kind event s (· = n) (fun _ => False) h (h.request kind event n).2 where
  willing := by
    rintro _ rfl
    exact willing
  asked := by
    rintro m rfl world
    cases found : h.handles[m]? with
    | none =>
        unfold request
        rw [found]
        exact found
    | some handle =>
        refine (handle_request found kind event).trans (congrArg some ?_)
        exact congrArg (fun adapter => { handle with adapter })
          (Managed.request_aloof aloof event handle.adapter h.world world).2
  others _ different := handle_request_of_ne different kind event h
  servers := servers_request kind event n h
  greeted := nofun
  strange t name _ := congrFun (congrFun (strangers_request kind event n h) t) name

/-- A stranger that is asked is the only one that changes. -/
theorem invokeStranger_granted (s : Nat) (name : ObjectName) (h : Host ω A) :
    Granted kind event s (fun _ => False) (· = name) h
      (h.invokeStranger s name (.request event)).2 where
  willing := nofun
  asked := nofun
  others _ _ := rfl
  servers := rfl
  greeted := by
    rintro _ rfl
    exact if_pos ⟨rfl, rfl⟩
  strange _ _ elsewhere := if_neg elsewhere

namespace Granted

variable {T U : Nat → Prop} {V W : ObjectName → Prop}

theorem nothing (s : Nat) (h : Host ω A) :
    Granted kind event s (fun _ => False) (fun _ => False) h h :=
  ⟨nofun, nofun, fun _ _ => rfl, rfl, nofun, fun _ _ _ => rfl⟩

/-- Who is willing stays so when others are asked, and when asked already. -/
theorem willing_iff (granted : Granted kind event s T V h host) :
    host.Willing kind event n ↔ h.Willing kind event n := by
  by_cases isAsked : T n
  · refine iff_of_true ?_ (granted.willing n isAsked)
    intro after found world
    rw [granted.asked n isAsked world] at found
    obtain ⟨handle, before, rfl⟩ := Option.map_eq_some_iff.mp found
    have first := granted.willing n isAsked handle before world
    exact congrArg Attempt.verdict (Managed.request_granted first world)
  · unfold Willing
    rw [granted.others n isAsked]

/-- Asking an adapter twice is asking it once. No stranger is asked twice. -/
theorem trans (first : Granted kind event s T V h host)
    (second : Granted kind event s U W host left) (apart : ∀ name, V name → ¬ W name) :
    Granted kind event s (fun n => T n ∨ U n) (fun name => V name ∨ W name) h left where
  willing := by
    rintro n (isAsked | isAsked)
    · exact first.willing n isAsked
    · exact first.willing_iff.mp (second.willing n isAsked)
  asked := by
    intro n isAsked world
    by_cases before : T n
    · have once := first.asked n before world
      -- An adapter that is asked again has granted the request already, and stays as it is.
      by_cases again : U n
      · rw [second.asked n again world, once, Option.map_map]
        refine Option.map_congr fun handle found => ?_
        have granted := first.willing n before handle found world
        exact congrArg (fun adapter => { handle with adapter })
          (congrArg Attempt.value (Managed.request_granted granted world))
      · rw [second.others n again, once]
    · rw [second.asked n (isAsked.resolve_left before) world, first.others n before]
  others n notAsked := by
    rw [second.others n (notAsked ∘ Or.inr), first.others n (notAsked ∘ Or.inl)]
  servers := second.servers.trans first.servers
  greeted := by
    rintro name (isAsked | isAsked)
    · rw [second.strange s name fun later => apart name isAsked later.2, first.greeted name isAsked]
    · rw [second.greeted name isAsked,
        first.strange s name fun before => apart name before.2 isAsked]
  strange t name elsewhere := by
    rw [second.strange t name fun here => elsewhere ⟨here.1, Or.inr here.2⟩,
      first.strange t name fun here => elsewhere ⟨here.1, Or.inl here.2⟩]

/-- Where the same adapters have granted the same request, all adapters are the same. -/
theorem handles_eq (one : Granted kind event s T V h host)
    (other : Granted kind event s U W h left) (same : ∀ n, T n ↔ U n) :
    host.handles = left.handles := by
  apply List.ext_getElem?
  intro n
  by_cases isAsked : T n
  · rw [one.asked n isAsked h.world, other.asked n ((same n).mp isAsked) h.world]
  · rw [one.others n isAsked, other.others n (isAsked ∘ (same n).mpr)]

/-- Where the same strangers have, all strangers are the same. -/
theorem strangers_eq (one : Granted kind event s T V h host)
    (other : Granted kind event s U W h left) (same : ∀ name, V name ↔ W name) :
    host.strangers = left.strangers := by
  funext t name
  by_cases isAsked : t = s ∧ V name
  · obtain ⟨rfl, isAsked⟩ := isAsked
    rw [one.greeted name isAsked, other.greeted name ((same name).mp isAsked)]
  · rw [one.strange t name isAsked, other.strange t name]
    rwa [← same name]

end Granted

/-! ## By name -/

/-- A component of a name is there and grants a request. -/
def Grants (kind : AdapterKind ω A) (event : Event) (s : Nat) (h : Host ω A) (name : ObjectName) :
    Prop :=
  (h.servers s).knows name = true ∧
    ∃ response, (h.invoke kind s name (.request event)).1 = .ok response

/-- The component of a name is a stranger that agrees, or an adapter that is willing. -/
theorem grants_iff (aloof : kind.hooks.Aloof) :
    h.Grants kind event s name ↔
      ((h.servers s).lookup name = some .stranger ∧
          ∃ response, ((h.strangers s name).ask (.request event)).1 = .ok response) ∨
        ∃ n, (h.servers s).lookup name = some (.adapter n) ∧ h.Willing kind event n := by
  unfold Grants Management.Server.knows invoke
  cases (h.servers s).lookup name with
  | none => simp
  | some bean =>
      cases bean with
      | registry settings => simp
      | stranger => simp [invokeStranger]
      | adapter n =>
          simp only [Option.isSome_some, true_and, Option.some.injEq, reduceCtorEq, false_and,
            false_or, Management.Bean.adapter.injEq, exists_eq_left', ← request_ok_iff aloof,
            invokeAdapter]
          cases (h.request kind event n).1 with
          | ok _ => simp
          | error error => simp

theorem grants_of_answered {response : Management.Response}
    (answered : (h.invoke kind s name (.request event)).1 = .ok response) :
    h.Grants kind event s name := by
  refine ⟨?_, response, answered⟩
  unfold Management.Server.knows
  cases found : (h.servers s).lookup name with
  | none =>
      simp only [invoke, found] at answered
      cases answered
  | some bean => rfl

/-- What a component that grants a request leaves. -/
theorem Grants.granted (aloof : kind.hooks.Aloof) (grants : h.Grants kind event s name) :
    Granted kind event s (fun n => (h.servers s).adapter? name = some n)
      (fun other => other = name ∧ (h.servers s).lookup name = some .stranger) h
      (h.invoke kind s name (.request event)).2 := by
  unfold Management.Server.adapter?
  rcases (grants_iff aloof).mp grants with ⟨found, _⟩ | ⟨n, found, willing⟩
  · have noAdapter : ∀ n, ¬ (some Management.Bean.stranger).bind Management.Bean.handle? = some n :=
      nofun
    simp only [invoke, found, noAdapter, and_true]
    exact invokeStranger_granted s name h
  · have isAdapter : ∀ m, (some (Management.Bean.adapter n)).bind Management.Bean.handle? = some m ↔
        m = n := fun m => by simp [Management.Bean.handle?, eq_comm]
    have ok := (request_ok_iff aloof).mpr willing
    simp only [invoke, found, invokeAdapter, ok, isAdapter, Option.some.injEq, reduceCtorEq,
      and_false]
    exact willing.granted aloof s

/-- Whether a component grants a request does not depend on what others were asked before. -/
theorem Granted.grants_iff {T : Nat → Prop} {V : ObjectName → Prop} (aloof : kind.hooks.Aloof)
    (granted : Granted kind event s T V h host) (notAsked : ¬ V name) :
    host.Grants kind event s name ↔ h.Grants kind event s name := by
  simp only [Host.grants_iff aloof, granted.servers, granted.willing_iff,
    granted.strange s name (notAsked ∘ And.right)]

/-! ## All of them -/

/-- An adapter is known by one of some names. -/
def Named (h : Host ω A) (s : Nat) (names : List ObjectName) (n : Nat) : Prop :=
  ∃ name ∈ names, (h.servers s).adapter? name = some n

/-- One of some names is that of a stranger. -/
def Strange (h : Host ω A) (s : Nat) (names : List ObjectName) (name : ObjectName) : Prop :=
  name ∈ names ∧ (h.servers s).lookup name = some .stranger

theorem named_nil (h : Host ω A) (s : Nat) : h.Named s [] = fun _ => False := by
  funext n
  simp only [Named, List.not_mem_nil, false_and, exists_false]

theorem strange_nil (h : Host ω A) (s : Nat) : h.Strange s [] = fun _ => False := by
  funext name
  simp only [Strange, List.not_mem_nil, false_and]

theorem named_cons (same : host.servers = h.servers) (s : Nat) (name : ObjectName)
    (rest : List ObjectName) :
    h.Named s (name :: rest) = fun n =>
      (h.servers s).adapter? name = some n ∨ host.Named s rest n := by
  funext n
  simp only [Named, same, List.mem_cons, exists_eq_or_imp]

theorem strange_cons (same : host.servers = h.servers) (s : Nat) (name : ObjectName)
    (rest : List ObjectName) :
    h.Strange s (name :: rest) = fun other =>
      (other = name ∧ (h.servers s).lookup name = some .stranger) ∨ host.Strange s rest other := by
  funext other
  simp only [Strange, same, List.mem_cons, or_and_right, eq_iff_iff]
  exact or_congr_left (and_congr_right fun isFirst => by rw [isFirst])

/-- One component grants a request, and then those of other names do. -/
theorem Granted.cons
    (first : Granted kind event s (fun n => (h.servers s).adapter? name = some n)
      (fun other => other = name ∧ (h.servers s).lookup name = some .stranger) h host)
    (others : Granted kind event s (host.Named s names) (host.Strange s names) host left)
    (isNew : name ∉ names) :
    Granted kind event s (h.Named s (name :: names)) (h.Strange s (name :: names)) h left := by
  rw [named_cons first.servers, strange_cons first.servers]
  apply first.trans others
  rintro _ ⟨rfl, _⟩ isLater
  exact isNew isLater.1

/-- Behind a component that grants its request the others are asked. -/
theorem requestAll_cons_of_grants (grants : h.Grants kind event s name) (rest : List ObjectName) :
    h.requestAll kind event s (name :: rest) =
      (h.invoke kind s name (.request event)).2.requestAll kind event s rest := by
  obtain ⟨_, response, answered⟩ := grants
  simp only [requestAll, answered]

/-- A component that does not grant its request is the last that is asked. -/
theorem requestAll_cons_of_not_grants (refuses : ¬ h.Grants kind event s name)
    (rest : List ObjectName) : (h.requestAll kind event s (name :: rest)).1 ≠ .ok () := by
  cases answer : (h.invoke kind s name (.request event)).1 with
  | ok response => exact absurd (grants_of_answered answer) refuses
  | error error =>
      simp only [requestAll, answer]
      exact nofun

/-- A request to many comes to its end exactly where each of them grants it, and then it is granted
by the adapters and the strangers of these names. -/
theorem requestAll_granted (aloof : kind.hooks.Aloof) (event : Event) (s : Nat)
    {names : List ObjectName} (distinct : names.Nodup) (h : Host ω A) :
    ((h.requestAll kind event s names).1 = .ok () ↔
        ∀ name ∈ names, h.Grants kind event s name) ∧
      ((h.requestAll kind event s names).1 = .ok () →
        Granted kind event s (h.Named s names) (h.Strange s names) h
          (h.requestAll kind event s names).2) := by
  -- What is left after one request is the host that the others start from.
  induction names generalizing h with
  | nil =>
      refine ⟨iff_of_true rfl (List.forall_mem_nil _), fun _ => ?_⟩
      rw [named_nil, strange_nil]
      exact .nothing s h
  | cons name rest ih =>
      obtain ⟨isNew, restDistinct⟩ := List.nodup_cons.mp distinct
      rw [List.forall_mem_cons]
      by_cases grants : h.Grants kind event s name
      · have first := grants.granted aloof
        obtain ⟨ok_iff, behind⟩ := ih restDistinct (h.invoke kind s name (.request event)).2
        have unaffected : ∀ other ∈ rest,
            ((h.invoke kind s name (.request event)).2.Grants kind event s other ↔
              h.Grants kind event s other) := by
          intro other isOther
          apply first.grants_iff aloof
          rintro ⟨rfl, _⟩
          exact isNew isOther
        rw [requestAll_cons_of_grants grants, ok_iff, forall₂_congr unaffected]
        refine ⟨(and_iff_right grants).symm, fun others => ?_⟩
        have granting := (forall₂_congr unaffected).mpr others
        exact first.cons (behind (ok_iff.mpr granting)) isNew
      · have fails := requestAll_cons_of_not_grants grants rest
        exact ⟨iff_of_false fails fun all => grants all.1, fun ok => absurd ok fails⟩

/-- Requests to the components of some names in two orders: one comes to its end exactly where the
other one does, and that is where every name is known and its component grants the request alone.
They leave the same adapters then, with all that is inside them and all calls of their hooks, and
the same strangers: a component of one of the names is what the request to it alone leaves of it,
and everything else is as it was. -/
theorem requestAll_any_order {kind : AdapterKind ω A} (aloof : kind.hooks.Aloof) (event : Event)
    (s : Nat) (h : Host ω (Recorded A)) {names others : List ObjectName}
    (distinct : names.Nodup) (same : names.Perm others) :
    let left := h.requestAll kind.recorded event s names
    let otherLeft := h.requestAll kind.recorded event s others
    (left.1 = .ok () ↔ otherLeft.1 = .ok ()) ∧
      (left.1 = .ok () ↔ ∀ name ∈ names, (h.servers s).knows name = true ∧
        ∃ response, (h.invoke kind.recorded s name (.request event)).1 = .ok response) ∧
      (left.1 = .ok () →
        left.2.handles = otherLeft.2.handles ∧ left.2.strangers = otherLeft.2.strangers ∧
        left.2.servers = h.servers ∧ otherLeft.2.servers = h.servers ∧
        (∀ name ∈ names,
          let alone := (h.invoke kind.recorded s name (.request event)).2
          (∀ n, (h.servers s).adapter? name = some n → left.2.handles[n]? = alone.handles[n]?) ∧
            left.2.strangers s name = alone.strangers s name) ∧
        (∀ n, (∀ name ∈ names, (h.servers s).adapter? name ≠ some n) →
          left.2.handles[n]? = h.handles[n]?) ∧
        ∀ t name, t ≠ s ∨ name ∉ names → left.2.strangers t name = h.strangers t name) := by
  intro left otherLeft
  have aloof : kind.recorded.hooks.Aloof := aloof.recorded
  obtain ⟨ok_iff, granted⟩ := requestAll_granted aloof event s distinct h
  obtain ⟨otherOk_iff, otherGranted⟩ :=
    requestAll_granted aloof event s (same.nodup_iff.mp distinct) h
  have sameEnd : left.1 = .ok () ↔ otherLeft.1 = .ok () := by
    rw [ok_iff, otherOk_iff]
    exact forall_congr' fun name => imp_congr_left same.mem_iff
  refine ⟨sameEnd, ok_iff, fun ok => ?_⟩
  have one := granted ok
  have other := otherGranted (sameEnd.mp ok)
  have sameNamed : ∀ n, h.Named s names n ↔ h.Named s others n := fun n =>
    exists_congr fun name => and_congr_left' same.mem_iff
  have sameStrange : ∀ name, h.Strange s names name ↔ h.Strange s others name := fun name =>
    and_congr_left' same.mem_iff
  refine ⟨one.handles_eq other sameNamed, one.strangers_eq other sameStrange, one.servers,
    other.servers, ?_, ?_, ?_⟩
  · intro name member alone
    have once := (ok_iff.mp ok name member).granted aloof
    constructor
    · intro n served
      rw [one.asked n ⟨name, member, served⟩ h.world, once.asked n served h.world]
    · by_cases isStranger : (h.servers s).lookup name = some .stranger
      · rw [one.greeted name ⟨member, isStranger⟩, once.greeted name ⟨rfl, isStranger⟩]
      · rw [one.strange s name fun asked => isStranger asked.2.2,
          once.strange s name fun asked => isStranger asked.2.2]
  · intro n unnamed
    exact one.others n fun ⟨name, member, served⟩ => unnamed name member served
  · intro t name elsewhere
    exact one.strange t name fun asked => elsewhere.elim (· asked.1) (· asked.2.1)

/-- Adapters that each count the calls of their own services, of which every eighth fails. -/
def counting : AdapterKind Rehearsal.Stage (Secluded Nat (Adapter (Live Nat Unit 1))) :=
  ⟨fun _ => ⟨Adapter.twoChannels, 0⟩,
    (Adapter.hooks (Live.behaviour Adapter.everyEighth 1)).secluded⟩

/-- A stranger that grants what it is asked first, and nothing after that. -/
def onceOnly : Management.Stranger :=
  ⟨fun asked _ => if asked.isEmpty then .ok .done else .error (.invocation "not again"), []⟩

/-- Two adapters failed to start the first time. When they are started again, together with a
stranger, it does not matter which of them comes first. The stranger does not agree a second time,
and then no order comes to its end. -/
theorem requestAll_any_order_twice_started :
    let first := (Fleet.ofIds none 0).createFromText counting.recorded "a" (.new default)
    let second := first.registry.createFromText counting.recorded "b" first.host
    let stranger : ObjectName := ⟨"elsewhere", .ofList [("type", "Probe")], by decide⟩
    let met := (second.host.registerStranger 0 stranger onceOnly).2
    let h := ((met.request counting.recorded .start 0).2.request counting.recorded .start 1).2
    let names := stranger :: second.registry.listed
    let left := h.requestAll counting.recorded .start 0 names
    let otherLeft := h.requestAll counting.recorded .start 0 names.reverse
    names.length = 3 ∧ h.handles.map Handle.state = [.initialised, .initialised] ∧
      left.1 = .ok () ∧ otherLeft.1 = .ok () ∧ left.2.handles = otherLeft.2.handles ∧
      left.2.strangers = otherLeft.2.strangers ∧
      left.2.handles.map Handle.state = [.started, .started] ∧
      (left.2.strangers 0 stranger).asked = [.request .start] ∧
      (left.2.requestAll counting.recorded .start 0 names).1 ≠ .ok () ∧
      (left.2.requestAll counting.recorded .start 0 names.reverse).1 ≠ .ok () := by
  intro first second stranger met h names left otherLeft
  have ok : left.1 = .ok () := by decide +kernel
  have refused : (left.2.requestAll counting.recorded .start 0 names).1 ≠ .ok () := by
    decide +kernel
  have distinct : names.Nodup := by decide +kernel
  have states : left.2.handles.map Handle.state = [.started, .started] := by decide +kernel
  have asked : (left.2.strangers 0 stranger).asked = [.request .start] := by decide +kernel
  subst left otherLeft
  have aloof : counting.hooks.Aloof := Hooks.secluded_aloof _
  have same : names.Perm names.reverse := names.reverse_perm.symm
  obtain ⟨sameEnd, _, granted⟩ := requestAll_any_order aloof .start 0 h distinct same
  obtain ⟨sameRefusal, _⟩ := requestAll_any_order aloof .start 0
    (h.requestAll counting.recorded .start 0 names).2 distinct same
  exact ⟨by decide +kernel, by decide +kernel, ok, sameEnd.mp ok, (granted ok).1, (granted ok).2.1,
    states, asked, refused, refused ∘ sameRefusal.mpr⟩

end Host

end IntegrationHost
