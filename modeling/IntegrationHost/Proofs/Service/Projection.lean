import IntegrationHost.Proofs.Lifecycle.Projection
import IntegrationHost.Service.Live

/-!
# Services in less detail

When one kind of service does what another one does, with more detail to it, so do lists of such
services, and layers with such services in them.
-/

namespace IntegrationHost.Service

open Lifecycle

variable {ω C D : Type}

/-- Whatever services of the kind `coarse` do, those of the kind `fine` do, with the detail left out
by `f`. -/
structure Behaviour.Projection (f : C → D) (fine : Behaviour ω C) (coarse : Behaviour ω D) :
    Prop where
  hooks : Hooks.Projection f fine.hooks coarse.hooks
  process : ∀ service message world,
    coarse.process (f service) message world =
      (fine.process service message world).map fun left => (f left.1, left.2)

variable {f : C → D} {fine : Behaviour ω C} {coarse : Behaviour ω D}
  (projection : Behaviour.Projection f fine coarse)

include projection

theorem processAll_map (members : Members C) (message : Message) (world : ω) :
    processAll coarse (members.map (Managed.map f)) message world =
      (processAll fine members message world).map fun left =>
        (left.1.map (Managed.map f), left.2) := by
  induction members generalizing message world with
  | nil => rfl
  | cons first rest ih =>
      have processed := projection.process first.component message world
      simp only [List.map_cons, processAll, Managed.map, Managed.withComponent, processed]
      rcases fine.process first.component message world with ⟨_ | _, ⟨service, passedOn⟩, left⟩
      · rfl
      · simp only [Attempt.map, ih passedOn left]
        rfl

namespace Chain

omit projection in
/-- A list of services in less detail. -/
def map (f : C → D) (chain : Chain C) : Chain D :=
  ⟨chain.uniqueId, chain.services.map (Managed.map f)⟩

omit projection in
theorem map_leftInverse {g : D → C} (inverse : Function.LeftInverse g f) :
    Function.LeftInverse (map g) (map f) := by
  intro chain
  simp only [map, Members.map_leftInverse inverse chain.services]

theorem behaviour_projection :
    Behaviour.Projection (map f) (behaviour fine) (behaviour coarse) where
  hooks := (Members.hooks_projection projection.hooks fun _ => rfl).ofPart (fun _ => rfl)
    fun _ _ => rfl
  process chain message world := by
    simp only [behaviour, Chain.process, map, processAll_map projection]
    rfl

end Chain

namespace Layer

variable {S R : Type}

omit projection in
/-- A service in less detail. -/
def map (g : S → R) (f : C → D) : Layer S C → Layer R D
  | .single service => .single (g service)
  | .chain service => .chain (service.map f)

omit projection in
theorem map_leftInverse {g : S → R} {undoG : R → S} (single : Function.LeftInverse undoG g)
    {undoF : D → C} (parts : Function.LeftInverse undoF f) :
    Function.LeftInverse (map undoG undoF) (map g f) := by
  intro service
  cases service with
  | single s => simp only [map, single s]
  | chain s => simp only [map, Chain.map_leftInverse parts s]

theorem behaviour_projection {g : S → R} {fineSingle : Behaviour ω S} {coarseSingle : Behaviour ω R}
    (alone : Behaviour.Projection g fineSingle coarseSingle) :
    Behaviour.Projection (map g f) (behaviour fineSingle fine) (behaviour coarseSingle coarse) where
  hooks event service world := by
    cases service with
    | single s =>
        simp only [behaviour, map, alone.hooks event s world]
        rfl
    | chain s =>
        have ran := (Chain.behaviour_projection projection).hooks event s world
        simp only [Chain.behaviour] at ran
        simp only [behaviour, map, ran]
        rfl
  process service message world := by
    cases service with
    | single s =>
        simp only [behaviour, map, alone.process s message world]
        rfl
    | chain s =>
        have processed := (Chain.behaviour_projection projection).process s message world
        simp only [Chain.behaviour] at processed
        simp only [behaviour, map, processed]
        rfl

end Layer

end IntegrationHost.Service
