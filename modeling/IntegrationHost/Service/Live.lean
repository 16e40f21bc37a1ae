import IntegrationHost.Service.Chain
import IntegrationHost.Service.Simple
import IntegrationHost.Service.SplitJoin

/-!
# Live services

A live service is a leaf, or a split-join over live services, or a list of live services. Services
are sorted by level: what a service is made of lies one level below it, so that everything said
about them can be said level by level. A definition can be made into a service at every level that
is not below its rank.
-/

namespace IntegrationHost.Service

/-- A service that is no list: a leaf of type `L`, or a split-join over services of type `C`. -/
inductive Single (ω L C : Type) where
  | leaf (service : L)
  | splitJoin (service : SplitJoin ω C)

/-- A service that stands alone, of type `S`, or a list of services of type `C`. -/
inductive Layer (S C : Type) where
  | single (service : S)
  | chain (service : Chain C)

/-- What a service that is no list does, given what leaves and what the parts of split-joins do. -/
def Single.behaviour {ω L C : Type} (leaf : Behaviour ω L) (parts : Behaviour ω C) :
    Behaviour ω (Single ω L C) where
  hooks := ⟨fun
    | event, .leaf s, world => (leaf.hooks.run event s world).map .leaf
    | event, .splitJoin s, world => ((SplitJoin.hooks parts).run event s world).map .splitJoin⟩
  uniqueId
    | .leaf s => leaf.uniqueId s
    | .splitJoin s => s.uniqueId
  process
    | .leaf s, message, world =>
      (leaf.process s message world).map fun left => (.leaf left.1, left.2)
    | .splitJoin s, message, world =>
      (SplitJoin.process parts s message world).map fun left => (.splitJoin left.1, left.2)
  isValid
    | .leaf s => leaf.isValid s
    | .splitJoin s => s.isValid

/-- What a service does, given what those that stand alone and what the parts of lists do. -/
def Layer.behaviour {ω S C : Type} (single : Behaviour ω S) (parts : Behaviour ω C) :
    Behaviour ω (Layer S C) where
  hooks := ⟨fun
    | event, .single s, world => (single.hooks.run event s world).map .single
    | event, .chain s, world => ((Chain.hooks parts).run event s world).map .chain⟩
  uniqueId
    | .single s => single.uniqueId s
    | .chain s => s.uniqueId
  process
    | .single s, message, world =>
      (single.process s message world).map fun left => (.single left.1, left.2)
    | .chain s, message, world =>
      (Chain.process parts s message world).map fun left => (.chain left.1, left.2)
  isValid
    | .single s => single.isValid s
    | .chain s => (Chain.behaviour parts).isValid s

/-- The live services of a level, with leaves of type `L`. -/
def Live (ω L : Type) : Nat → Type
  | 0 => L
  | level + 1 => Layer (Single ω L (Live ω L level)) (Live ω L level)

/-- What the live services of a level do. -/
def Live.behaviour {ω L : Type} (leaf : Behaviour ω L) :
    (level : Nat) → Behaviour ω (Live ω L level)
  | 0 => leaf
  | level + 1 =>
    Layer.behaviour (Single.behaviour leaf (behaviour leaf level)) (behaviour leaf level)

/-- A leaf can stand at every level. -/
def Live.ofLeaf {ω L : Type} (leaf : L) : (level : Nat) → Live ω L level
  | 0 => leaf
  | _ + 1 => Layer.single (.leaf leaf)

namespace Definition

/-- The rank of a list is at least that of each of its members. -/
theorem rank_le_rankAll {d : Definition} {ds : List Definition} (h : d ∈ ds) :
    d.rank ≤ rankAll ds := by
  induction ds with
  | nil => cases h
  | cons head rest ih =>
    simp only [rankAll]
    rcases List.mem_cons.1 h with rfl | h
    · exact Nat.le_max_left _ _
    · exact Nat.le_trans (ih h) (Nat.le_max_right _ _)

/-- A missing nested service has the rank of the default one. -/
theorem rank_getD (service : Option Definition) :
    (service.getD defaultNested).rank = rankOf service := by
  cases service <;> simp [rankOf, rank, defaultNested]

variable {ω : Type} [Journal ω]

/-- The service of a definition, at a level that is not below its rank. -/
def instantiate : (level : Nat) → (d : Definition) → d.rank ≤ level → Live ω Simple level
  | level, .simple id task, _ => Live.ofLeaf ⟨(Definition.simple id task).resolvedId, task⟩ level
  | 0, .list _ _, h => absurd h (by simp [rank])
  | 0, .splitJoin _ _ _ _ _, h => absurd h (by simp [rank])
  | level + 1, .list id services, h =>
    Layer.chain
      (.new (Live.behaviour (Simple.behaviour ω) level) (Definition.list id services).resolvedId
        (services.attach.map fun s =>
          instantiate level s.1
            (Nat.le_trans (rank_le_rankAll s.2)
              (Nat.le_of_succ_le_succ (by simpa [rank] using h)))))
  | level + 1, .splitJoin id poolSize separator timeout service, h =>
    let nested := service.getD defaultNested
    have hnested : nested.rank ≤ level := by
      simpa [nested, rank_getD] using Nat.le_of_succ_le_succ (by simpa [rank] using h)
    Layer.single (.splitJoin
      (.new (Definition.splitJoin id poolSize separator timeout service).resolvedId
        ⟨nested.describe, fun world => (.ok (instantiate level nested hnested), world)⟩
        poolSize (separator.getD defaultSeparator) (timeout.getD defaultShutdownTimeoutMs)))

/-- A definition as a prototype of services of a level. -/
def prototype (level : Nat) (d : Definition) (h : d.rank ≤ level) :
    Prototype ω (Live ω Simple level) :=
  ⟨d.describe, fun world => (.ok (d.instantiate level h), world)⟩

end Definition

end IntegrationHost.Service
