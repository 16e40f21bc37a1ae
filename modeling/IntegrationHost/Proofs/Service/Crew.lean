import IntegrationHost.Proofs.Lifecycle.Projection
import IntegrationHost.Proofs.Pool.Projection
import IntegrationHost.Proofs.Text.Dictionary
import IntegrationHost.Service.WorkerPool

/-!
# Crews

A crew is a pool of workers with the guards that hold those it has lent. Users fill it up, use the
pool through guards, and have messages processed by the workers in their guards. It is said for any
way to make workers and have them work, so that more can be taken down about workers than services
know; if leaving that out before each use is the same as leaving it out afterwards, then so it is
for everything that a crew goes through.
-/

namespace IntegrationHost

variable {ω ν C D : Type}

/-! ## Guards of different names -/

namespace Pool.Guarded

variable {T U : Type}

/-- No two guards have the same name. -/
def Distinct (g : Guarded T) : Prop :=
  (g.guards.map Prod.fst).Nodup

theorem without_sublist (name : String) (guards : List (String × T)) :
    (without name guards).Sublist guards := by
  induction guards with
  | nil => exact List.Sublist.refl []
  | cons guard rest ih =>
      unfold without
      split
      · exact List.sublist_cons_self guard rest
      · exact ih.cons_cons guard

/-- Where all names are different, there is no other guard of a name. -/
theorem name_notMem_without {name : String} {guards : List (String × T)}
    (distinct : (guards.map Prod.fst).Nodup) : name ∉ (without name guards).map Prod.fst := by
  induction guards with
  | nil => exact List.not_mem_nil
  | cons guard rest ih =>
      rw [List.map_cons, List.nodup_cons] at distinct
      by_cases same : guard.1 = name
      · simp only [without, beq_iff_eq, same, if_true]
        exact same ▸ distinct.1
      · simp only [without, beq_iff_eq, same, if_false, List.map_cons]
        rintro (_ | ⟨_, inside⟩)
        · exact same rfl
        · exact ih distinct.2 inside

namespace Distinct

variable {g : Guarded T} (distinct : g.Distinct) (factory : Factory ω T)

include distinct

theorem release (how : Release) (name : String) (world : ω) :
    (g.release factory how name world).1.Distinct := by
  unfold Guarded.release
  cases g.guards.lookup name with
  | none => exact distinct
  | some object => exact ((without_sublist name g.guards).map Prod.fst).nodup distinct

theorem keep (name : String) (object : T) (world : ω) :
    (g.keep factory name object world).1.Distinct := by
  refine List.nodup_cons.mpr ⟨?_, distinct.release factory .checkin name world⟩
  unfold Guarded.release
  cases found : g.guards.lookup name with
  | none =>
      intro named
      obtain ⟨guard, member, rfl⟩ := List.mem_map.mp named
      exact absurd rfl (bne_iff_ne.mp (List.lookup_eq_none_iff.mp found guard member))
  | some object => exact name_notMem_without distinct

/-- However a guarded pool is used, its guards go on having different names. -/
theorem use (u : Use) (world : ω) : (use factory u g world).1.Distinct := by
  cases u with
  | add => exact distinct
  | checkout name =>
      simp only [Guarded.use, checkout]
      rcases g.pool.borrow factory world with ⟨object | error | _, pool, left⟩
      · exact distinct.keep (g := { g with pool }) factory name object left
      · exact distinct
      · exact distinct
  | release how name => exact distinct.release factory how name world
  | close => exact distinct

theorem update (name : String) (object : T) : (g.update name object).Distinct := by
  have sameNames : (g.update name object).guards.map Prod.fst = g.guards.map Prod.fst := by
    simp only [Guarded.update, List.map_map]
    refine List.map_congr_left fun guard _ => ?_
    by_cases same : guard.1 = name <;> simp [same]
  unfold Distinct
  rw [sameNames]
  exact distinct

end Distinct

/-- What is read off the objects in guards is the same when one is put in place of another one off
which the same is read. -/
theorem update_read {g : Guarded T} {α : Type} {read : T → α} (distinct : g.Distinct)
    {name : String} {before after : T} (found : g.get? name = some before)
    (same : read after = read before) :
    (g.update name after).guards.map (fun guard => read guard.2) =
      g.guards.map fun guard => read guard.2 := by
  simp only [update, List.map_map]
  refine List.map_congr_left fun guard member => ?_
  by_cases named : guard.1 = name
  · have isFirst : g.get? guard.1 = some guard.2 := Dictionary.lookup_of_mem distinct member
    rw [named, found, Option.some.injEq] at isFirst
    simp [named, same, isFirst]
  · simp [named]

/-- What holds of the objects in guards holds after one of them was replaced by another. -/
theorem forall_update {g : Guarded T} {P : T → Prop} {name : String} {object : T}
    (all : ∀ guard ∈ g.guards, P guard.2) (new : P object) :
    ∀ guard ∈ (g.update name object).guards, P guard.2 := by
  intro guard member
  obtain ⟨old, isOld, rfl⟩ := List.mem_map.mp member
  by_cases named : old.1 = name
  · simpa [named] using new
  · simpa [named] using all old isOld

theorem update_map (f : T → U) (g : Guarded T) (name : String) (object : T) :
    (g.map f).update name (f object) = (g.update name object).map f := by
  simp only [update, map, List.map_map, Guarded.mk.injEq, true_and]
  refine List.map_congr_left fun guard _ => ?_
  by_cases named : guard.1 = name <;> simp [named]

end Pool.Guarded

namespace Service

open Lifecycle

/-! ## Filling up -/

namespace WorkerPlan

/-- The pool that is made for a plan, whatever is to be in it. -/
def emptyPool (plan : WorkerPlan ω C) (T : Type) : Pool T :=
  ⟨plan.prototype.describe ++ "-workers", .fixed plan.size, [], 0, 0, false⟩

theorem new_emptyPool (plan : WorkerPlan ω C) (positive : 0 < plan.size) (T : Type) :
    Pool.new (plan.prototype.describe ++ "-workers") (.fixed plan.size) =
      .ok (plan.emptyPool T) := by
  refine Pool.new_eq_ok_iff.mpr ⟨Pool.Config.check_eq_ok_iff.mpr ⟨?_, ?_, ?_⟩, rfl⟩
  · exact Nat.ne_of_gt positive
  · exact Nat.le_refl _
  · exact Nat.le_refl _

variable {factory : Pool.Factory ω (Worker C)}

/-- What each addition keeps, filling up keeps, whether it comes to its end or not. -/
theorem fillFrom_keeps {P : Pool (Worker C) → ω → Prop}
    (add : ∀ pool world, P pool world →
      P (pool.add factory world).value (pool.add factory world).world)
    (requested created missing : Nat) {pool : Pool (Worker C)} {world : ω} (start : P pool world) :
    P (fillFrom factory requested created missing pool world).value
      (fillFrom factory requested created missing pool world).world := by
  induction missing generalizing created pool world with
  | zero => exact start
  | succ missing ih =>
      have added := add pool world start
      simp only [fillFrom]
      cases (pool.add factory world).verdict with
      | ok _ => exact ih (created + 1) added
      | error error => exact added

theorem fillFrom_map {f : Worker C → Worker D} {h : ω → ν} {coarse : Pool.Factory ν (Worker D)}
    (projection : Pool.Factory.Projection f h factory coarse) (requested created missing : Nat)
    (pool : Pool (Worker C)) (world : ω) :
    fillFrom coarse requested created missing (pool.map f) (h world) =
      (fillFrom factory requested created missing pool world).project (Pool.map f) h := by
  induction missing generalizing created pool world with
  | zero => rfl
  | succ missing ih =>
      simp only [fillFrom, Pool.add_map projection, Attempt.project]
      cases (pool.add factory world).verdict with
      | ok _ => exact ih (created + 1) _ _
      | error error => rfl

/-- Make as many workers as a pool lacks of so many. -/
def fillUp (factory : Pool.Factory ω (Worker C)) (size : Nat) (pool : Pool (Worker C))
    (world : ω) : Attempt Pool.Error ω (Pool (Worker C)) :=
  let missing := size - pool.allocated
  fillFrom factory missing 0 missing pool world

/-- A pool is filled up as the plan for it says. -/
theorem warmup_eq (b : Behaviour ω C) (plan : WorkerPlan ω C) (pool : Pool (Worker C))
    (world : ω) :
    plan.warmup b pool world = fillUp (workerFactory b plan.prototype) plan.size pool world :=
  rfl

theorem fillUp_keeps {P : Pool (Worker C) → ω → Prop}
    (add : ∀ pool world, P pool world →
      P (pool.add factory world).value (pool.add factory world).world)
    (size : Nat) {pool : Pool (Worker C)} {world : ω} (start : P pool world) :
    P (fillUp factory size pool world).value (fillUp factory size pool world).world :=
  fillFrom_keeps add _ 0 _ start

theorem fillUp_map {f : Worker C → Worker D} {h : ω → ν} {coarse : Pool.Factory ν (Worker D)}
    (projection : Pool.Factory.Projection f h factory coarse) (size : Nat)
    (pool : Pool (Worker C)) (world : ω) :
    fillUp coarse size (pool.map f) (h world) =
      (fillUp factory size pool world).project (Pool.map f) h :=
  fillFrom_map projection _ 0 _ pool world

end WorkerPlan

/-! ## What a crew goes through -/

/-- How workers are made and disposed of, and what is left of one that has processed a message. -/
structure Craft (ω C : Type) where
  factory : Pool.Factory ω (Worker C)
  work : Worker C → Message → ω → Worker C × ω

/-- The workers of a prototype. -/
def Behaviour.craft (b : Behaviour ω C) (p : Prototype ω C) : Craft ω C where
  factory := workerFactory b p
  work worker message world :=
    let done := b.process worker.component message world
    (worker.withComponent done.value.1, done.world)

/-- A pool of workers, with the guards on those that it has lent. -/
abbrev Crew (C : Type) := Pool.Guarded (Worker C)

namespace Crew

/-- What a user can do with a crew. -/
inductive Use where
  /-- Make the workers that the pool is short of, of so many. -/
  | warmup (size : Nat)
  /-- Use the pool. -/
  | pool (use : Pool.Guarded.Use)
  /-- Have a message processed by the worker in the guard of a name. -/
  | process (name : String) (message : Message)

/-- Use a crew once. -/
def use (craft : Craft ω C) : Use → Crew C → ω → Crew C × ω
  | .warmup size, g, world =>
    let filled := WorkerPlan.fillUp craft.factory size g.pool world
    ({ g with pool := filled.value }, filled.world)
  | .pool u, g, world => Pool.Guarded.use craft.factory u g world
  | .process name message, g, world =>
    match g.get? name with
    | none => (g, world)
    | some worker =>
      let left := craft.work worker message world
      (g.update name left.1, left.2)

/-- The workers that a use lends to somebody. -/
def Use.lent (craft : Craft ω C) (g : Crew C) (world : ω) : Use → List (Worker C)
  | .pool (.checkout name) => (g.checkout craft.factory name world).1.objects
  | _ => []

/-- A whole session. -/
def session (craft : Craft ω C) : List Use → Crew C → ω → Crew C × ω
  | [], g, world => (g, world)
  | first :: rest, g, world =>
      let left := use craft first g world
      session craft rest left.1 left.2

/-- The workers that are lent in a session, each as it was then. -/
def lent (craft : Craft ω C) : List Use → Crew C → ω → List (Worker C)
  | [], _, _ => []
  | first :: rest, g, world =>
      let left := use craft first g world
      first.lent craft g world ++ lent craft rest left.1 left.2

section

variable {craft : Craft ω C} {g : Crew C} {world : ω}

theorem session_append (first second : List Use) (g : Crew C) (world : ω) :
    session craft (first ++ second) g world =
      session craft second (session craft first g world).1 (session craft first g world).2 := by
  induction first generalizing g world with
  | nil => rfl
  | cons head rest ih => exact ih _ _

/-- What each use keeps, a session keeps. -/
theorem session_keeps {P : Crew C → ω → Prop}
    (keeps : ∀ u g world, P g world → P (use craft u g world).1 (use craft u g world).2)
    (uses : List Use) (start : P g world) :
    P (session craft uses g world).1 (session craft uses g world).2 := by
  induction uses generalizing g world with
  | nil => exact start
  | cons first rest ih => exact ih (keeps first g world start)

theorem distinct_use (distinct : g.Distinct) (u : Use) : (use craft u g world).1.Distinct := by
  cases u with
  | warmup size => exact distinct
  | pool u => exact distinct.use craft.factory u world
  | process name message =>
      simp only [use]
      cases g.get? name with
      | none => exact distinct
      | some worker => exact distinct.update name _

end

/-! ## Crews in less detail -/

end Crew

/-- The coarse craft does what the fine one does, in less detail. -/
structure Craft.Projection (f : Worker C → Worker D) (h : ω → ν) (fine : Craft ω C)
    (coarse : Craft ν D) : Prop where
  factory : Pool.Factory.Projection f h fine.factory coarse.factory
  work : ∀ worker message world, coarse.work (f worker) message (h world) =
    (f (fine.work worker message world).1, h (fine.work worker message world).2)

namespace Crew

variable {f : Worker C → Worker D} {h : ω → ν} {fine : Craft ω C} {coarse : Craft ν D}
  (projection : Craft.Projection f h fine coarse)

include projection

theorem use_map (u : Use) (g : Crew C) (world : ω) :
    use coarse u (g.map f) (h world) =
      ((use fine u g world).1.map f, h (use fine u g world).2) := by
  cases u with
  | warmup size =>
      have filled := WorkerPlan.fillUp_map projection.factory size g.pool world
      simp only [use, Pool.Guarded.map]
      exact congrArg₂ Prod.mk (congrArg (Pool.Guarded.mk · _) (congrArg Attempt.value filled))
        (congrArg Attempt.world filled)
  | pool u => exact Pool.Guarded.use_map projection.factory u g world
  | process name message =>
      have found : (g.map f).get? name = (g.get? name).map f :=
        Pool.Guarded.lookup_map f g.guards name
      simp only [use, found]
      cases g.get? name with
      | none => rfl
      | some worker =>
          simp only [Option.map_some, projection.work, Pool.Guarded.update_map]

/-- A session in less detail is the session with detail left out afterwards. -/
theorem session_map (uses : List Use) (g : Crew C) (world : ω) :
    session coarse uses (g.map f) (h world) =
      ((session fine uses g world).1.map f, h (session fine uses g world).2) := by
  induction uses generalizing g world with
  | nil => rfl
  | cons first rest ih =>
      simp only [session, use_map projection]
      exact ih _ _

end Crew

end Service

end IntegrationHost
