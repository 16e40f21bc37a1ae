import IntegrationHost.Proofs.Lifecycle.Trail
import IntegrationHost.Proofs.Pool.Numbered
import IntegrationHost.Proofs.Service.Crew

/-!
# The register of a crew

To tell what becomes of each worker of a crew, workers are numbered as they are made and the calls
of their hooks are taken down, and a register keeps what would be lost: how each attempt to make a
worker has ended, the services that could not be initialised, and the workers that were destroyed as
they were then. Services are aware of none of this, so a crew in a register goes through what it
goes through without.
-/

namespace IntegrationHost.Service

open Lifecycle
open Pool (Numbered)

variable {ω C : Type}

/-! ## Registered workers -/

/-- What services do, with a number that they carry. -/
def Behaviour.numbered (b : Behaviour ω C) : Behaviour ω (Numbered C) where
  hooks := .ofPart Numbered.object (fun service s => { s with object := service }) b.hooks
  uniqueId s := b.uniqueId s.object
  process s message world :=
    (b.process s.object message world).map fun left => (⟨left.1, s.number⟩, left.2)
  isValid s := b.isValid s.object

/-- What numbered services do, with the calls of their hooks taken down. -/
def Behaviour.registered (b : Behaviour ω C) : Behaviour ω (Recorded (Numbered C)) :=
  Recorded.behaviour b.numbered

/-- A worker whose service has a number and a record. -/
abbrev Registered (C : Type) := Worker (Recorded (Numbered C))

namespace Registered

/-- A new service under a number. -/
def new (b : Behaviour ω C) (number : Nat) (service : C) : Registered C :=
  Managed.new (b.uniqueId service) (Recorded.new ⟨service, number⟩)

/-- The number of a worker. -/
def number (w : Registered C) : Nat := w.component.service.number

/-- How often the service of a worker was closed. -/
def closings (w : Registered C) : Nat := Call.closes w.component.calls

/-- A worker without number and record. -/
def plain : Registered C → Worker C := Managed.map fun r => r.service.object

/-- A worker without its record. -/
def unrecorded (w : Registered C) : Numbered (Worker C) := ⟨plain w, number w⟩

section

variable (b : Behaviour ω C) (event : Event) (w : Registered C) (world : ω)

theorem request_number : number (w.request b.registered.hooks event world).value = number w :=
  w.request_fixes (f := fun r => r.service.number) (fun _ _ _ => rfl) event world

theorem request_plain :
    (plain w).request b.hooks event world =
      (w.request b.registered.hooks event world).map plain := by
  have projection : Hooks.Projection (fun r : Recorded (Numbered C) => r.service.object)
      b.registered.hooks b.hooks := fun _ _ _ => rfl
  exact Managed.request_map projection event w world

end

/-! ### What requests do to them -/

section

variable {b : Behaviour ω C} {w : Registered C}

/-- A request that has succeeded had all its events taken. -/
theorem request_took {event : Event} {world : ω}
    (succeeded : (w.request b.registered.hooks event world).verdict = .ok ()) :
    w.Took (event.requested w.state) (w.request b.registered.hooks event world).value :=
  Managed.request_took succeeded

/-- A request that has failed has broken off. -/
theorem request_brokeOff {event : Event} {error : Lifecycle.Error} {world : ω}
    (failed : (w.request b.registered.hooks event world).verdict = .error error) :
    w.BrokeOff (event.requested w.state) (w.request b.registered.hooks event world).value :=
  Managed.request_brokeOff failed

/-- A request whose events cannot fail has them all taken. -/
theorem request_taken {event : Event} (safe : ∀ e ∈ event.requested w.state, e.canFail = false)
    (world : ω) :
    (w.request b.registered.hooks event world).verdict = .ok () ∧
      w.Took (event.requested w.state) (w.request b.registered.hooks event world).value :=
  Managed.request_taken safe world

/-- What a worker was called for before stays on its record. -/
theorem request_calls (b : Behaviour ω C) (event : Event) (w : Registered C) (world : ω) :
    w.component.calls <+: (w.request b.registered.hooks event world).value.component.calls := by
  cases verdict : (w.request b.registered.hooks event world).verdict with
  | ok _ =>
      have took := request_took verdict
      obtain ⟨calls, calls_eq, _⟩ := took.called
      exact ⟨calls, calls_eq.symm⟩
  | error error =>
      have broke := request_brokeOff verdict
      obtain ⟨_, failed, _, calls, _, _, _, _, calls_eq⟩ := broke.broken
      exact ⟨calls ++ [⟨failed, false⟩], by rw [← List.append_assoc]; exact calls_eq.symm⟩

/-- A worker at rest that was started works, and one that could not be is what it was. -/
theorem request_start (atRest : w.state.AtRest) (world : ω) :
    closings (w.request b.registered.hooks .start world).value = closings w ∧
      ((w.request b.registered.hooks .start world).verdict = .ok () →
        (w.request b.registered.hooks .start world).value.state = .started) ∧
      ∀ error, (w.request b.registered.hooks .start world).verdict = .error error →
        (w.request b.registered.hooks .start world).value.state = w.state := by
  cases verdict : (w.request b.registered.hooks .start world).verdict with
  | ok _ =>
      have took := request_took verdict
      rw [atRest.requested_start] at took
      exact ⟨took.closes_eq, fun _ => took.state_eq, nofun⟩
  | error error =>
      have broke := request_brokeOff verdict
      rw [atRest.requested_start] at broke
      obtain ⟨state_eq, calls_eq⟩ := broke.single
      refine ⟨?_, nofun, fun _ _ => state_eq⟩
      have closes_eq := congrArg Call.closes calls_eq
      rw [Call.closes, Call.closes, List.countP_append] at closes_eq
      exact closes_eq

/-- A worker can always be stopped, and is not closed by that. -/
theorem request_stop (b : Behaviour ω C) (w : Registered C) (world : ω) :
    (w.request b.registered.hooks .stop world).verdict = .ok () ∧
      closings (w.request b.registered.hooks .stop world).value = closings w := by
  have safe : ∀ e ∈ Event.stop.requested w.state, e.canFail = false := by
    cases w.state <;> decide
  obtain ⟨ok, took⟩ := request_taken (b := b) safe world
  refine ⟨ok, took.closes_eq.trans ?_⟩
  have none : (Event.stop.requested w.state).count .close = 0 := by
    cases w.state <;> decide
  rw [none]
  rfl

/-- A worker that is not closed is closed once when it is asked to. -/
theorem request_close (isOpen : w.state ≠ .closed) (world : ω) :
    closings (w.request b.registered.hooks .close world).value = closings w + 1 := by
  have safe : ∀ e ∈ Event.close.requested w.state, e.canFail = false := by
    cases w.state <;> decide
  have took := (request_taken (b := b) safe world).2
  refine took.closes_eq.trans ?_
  have once : (Event.close.requested w.state).count .close = 1 := by
    cases state : w.state with
    | closed => exact absurd state isOpen
    | _ => decide
  rw [once]
  rfl

/-- A new service is initialised or it is not, and the call of its hook for that is the only one.
-/
theorem request_init (b : Behaviour ω C) (number : Nat) (service : C) (world : ω) :
    let asked := (new b number service).request b.registered.hooks .init world
    (asked.verdict = .ok () →
        asked.value.state = .initialised ∧ asked.value.component.calls = [⟨.init, true⟩]) ∧
      ∀ error, asked.verdict = .error error →
        asked.value.component.calls = [⟨.init, false⟩] := by
  intro asked
  constructor
  · intro succeeded
    have took : (new b number service).Took [.init] asked.value :=
      request_took succeeded
    exact ⟨took.state_eq, took.single rfl⟩
  · intro error failed
    have broke : (new b number service).BrokeOff [.init] asked.value :=
      request_brokeOff failed
    exact broke.single.2

end

end Registered

/-! ## The register -/

/-- Surroundings in which it is taken down what becomes of workers. -/
structure Register (ω C : Type) where
  world : ω
  /-- How each attempt to make a worker has ended. -/
  attempts : List (Option Pool.Error)
  /-- How many workers were made; they have the numbers below. -/
  made : Nat
  /-- The services that could not be initialised. -/
  refused : List (Registered C)
  /-- The workers that were destroyed, as they were then. -/
  gone : List (Registered C)

namespace Register

/-- A register in which nothing is taken down yet. -/
def blank (world : ω) : Register ω C := ⟨world, [], 0, [], []⟩

/-- What was done in the surroundings. -/
def carry {ε α : Type} (r : Register ω C) (a : Attempt ε ω α) : Attempt ε (Register ω C) α :=
  ⟨a.verdict, a.value, { r with world := a.world }⟩

/-- The numbers in the register. -/
def ledger (r : Register ω C) : Pool.Ledger ω :=
  ⟨r.world, r.attempts.length, r.made, r.gone.map Registered.number⟩

end Register

/-- Make a worker, and take down how that has ended. -/
def Behaviour.registerMake (b : Behaviour ω C) (p : Prototype ω C) (r : Register ω C) :
    Except Pool.Error (Registered C) × Register ω C :=
  match p.create r.world with
  | (.error error, world) =>
    let refusal := Pool.Error.creation error.message
    (.error refusal, { r with world, attempts := r.attempts ++ [some refusal] })
  | (.ok service, world) =>
    let asked := (Registered.new b r.made service).request b.registered.hooks .init world
    match asked.verdict with
    | .ok () =>
      (.ok asked.value,
        { r with world := asked.world, attempts := r.attempts ++ [none], made := r.made + 1 })
    | .error error =>
      let refusal := Pool.Error.creation error.message
      (.error refusal,
        { r with
          world := asked.world
          attempts := r.attempts ++ [some refusal]
          refused := r.refused ++ [asked.value] })

/-- The workers of a prototype, in a register. -/
def Behaviour.register (b : Behaviour ω C) (p : Prototype ω C) :
    Craft (Register ω C) (Recorded (Numbered C)) where
  factory := {
    make := b.registerMake p
    validate := fun worker r =>
      (worker.state != .closed && b.registered.isValid worker.component, r)
    activate := fun worker r =>
      r.carry ((worker.request b.registered.hooks .start r.world).mapError fun error =>
        .activation error.message)
    passivate := fun worker r =>
      r.carry ((worker.request b.registered.hooks .stop r.world).mapError fun error =>
        .passivation error.message)
    destroy := fun worker r =>
      let closed := worker.request b.registered.hooks .close r.world
      { r with world := closed.world, gone := r.gone ++ [closed.value] } }
  work worker message r :=
    let done := b.registered.process worker.component message r.world
    (worker.withComponent done.value.1, { r with world := done.world })

/-! ## Making workers -/

section

variable (b : Behaviour ω C) (p : Prototype ω C)

/-- A worker is made and initialised under the next number, or it is taken down why it was not, and
which service could not be initialised. -/
theorem registerMake_cases (r : Register ω C) :
    (∃ refusal world, ∃ failed : List (Registered C),
        (∀ w ∈ failed, w.component.calls = [⟨.init, false⟩]) ∧
        (workerFactory b p).make r.world = (.error refusal, world) ∧
        b.registerMake p r =
          (.error refusal,
            { r with
              world
              attempts := r.attempts ++ [some refusal]
              refused := r.refused ++ failed })) ∨
      ∃ world, ∃ w : Registered C, w.state = .initialised ∧
        w.component.calls = [⟨.init, true⟩] ∧ Registered.number w = r.made ∧
        (workerFactory b p).make r.world = (.ok (Registered.plain w), world) ∧
        b.registerMake p r =
          (.ok w, { r with world, attempts := r.attempts ++ [none], made := r.made + 1 }) := by
  unfold Behaviour.registerMake
  simp only [workerFactory]
  rcases p.create r.world with ⟨error | service, world⟩
  · exact Or.inl ⟨_, world, [], List.forall_mem_nil _, rfl, by rw [List.append_nil]⟩
  · have asked := Registered.request_plain b .init (.new b r.made service) world
    have isNew : Registered.plain (.new b r.made service) = .new (b.uniqueId service) service := rfl
    have number := Registered.request_number b .init (.new b r.made service) world
    obtain ⟨whenOk, whenError⟩ := Registered.request_init b r.made service world
    rw [isNew] at asked
    simp only [asked, Attempt.map]
    cases verdict :
        ((Registered.new b r.made service).request b.registered.hooks .init world).verdict with
    | ok _ =>
        obtain ⟨state, calls⟩ := whenOk verdict
        exact Or.inr ⟨_, _, state, calls, number, rfl, rfl⟩
    | error error =>
        refine Or.inl ⟨_, _, [_], ?_, rfl, rfl⟩
        exact List.forall_mem_singleton.mpr (whenError error verdict)

/-! ## Without the register -/

/-- Without the register, a crew does what it does. -/
theorem register_projection :
    Craft.Projection Registered.plain Register.world (b.register p) (b.craft p) where
  factory := {
    make := by
      intro r
      rcases registerMake_cases b p r with
        ⟨_, _, _, _, plainly, made⟩ | ⟨_, _, _, _, _, plainly, made⟩ <;>
        simp only [Behaviour.register, Behaviour.craft, plainly, made, Except.map]
    validate := fun _ _ => rfl
    activate := by
      intro worker r
      simp only [Behaviour.craft, workerFactory, Registered.request_plain]
      rfl
    passivate := by
      intro worker r
      simp only [Behaviour.craft, workerFactory, Registered.request_plain]
      rfl
    destroy := by
      intro worker r
      simp only [Behaviour.craft, workerFactory, Registered.request_plain]
      rfl }
  work _ _ _ := rfl

/-- With nothing but numbers in it, the register is a ledger of the workers. -/
theorem ledger_projection :
    Pool.Factory.Projection Registered.unrecorded Register.ledger (b.register p).factory
      (workerFactory b p).numbered where
  make := by
    intro r
    rcases registerMake_cases b p r with
      ⟨_, _, _, _, plainly, made⟩ | ⟨_, _, _, _, number, plainly, made⟩
    · simp [Behaviour.register, Pool.Factory.numbered, Register.ledger, plainly, made, Except.map]
    · simp [Behaviour.register, Pool.Factory.numbered, Register.ledger, plainly, made, Except.map,
        Registered.unrecorded, number]
  validate _ _ := rfl
  activate := by
    intro worker r
    have number := Registered.request_number b .start worker r.world
    simp only [Pool.Factory.numbered, Pool.Numbered.carry, workerFactory, Registered.unrecorded,
      Register.ledger, Registered.request_plain]
    rw [← number]
    rfl
  passivate := by
    intro worker r
    have number := Registered.request_number b .stop worker r.world
    simp only [Pool.Factory.numbered, Pool.Numbered.carry, workerFactory, Registered.unrecorded,
      Register.ledger, Registered.request_plain]
    rw [← number]
    rfl
  destroy := by
    intro worker r
    have number := Registered.request_number b .close worker r.world
    simp only [Pool.Factory.numbered, workerFactory, Registered.unrecorded, Register.ledger,
      Registered.request_plain]
    rw [← number, ← List.map_singleton, ← List.map_append]
    rfl

end

end IntegrationHost.Service
