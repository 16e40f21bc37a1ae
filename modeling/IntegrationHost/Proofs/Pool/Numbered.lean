import IntegrationHost.Proofs.Pool.Projection

/-!
# Numbered objects

Objects of a factory may be indistinguishable. To tell what becomes of each of them, the objects are
given numbers as they are made, and a ledger takes down which of them are destroyed. Numbers and
ledger are left alone by everything that a pool does, so a session with numbered objects is a
session with the objects themselves.
-/

namespace IntegrationHost.Pool

variable {ω T : Type}

/-- An object with the number it was given when it was made. -/
structure Numbered (T : Type) where
  object : T
  number : Nat

/-- Surroundings in which the calls of a factory are taken down. -/
structure Ledger (ω : Type) where
  world : ω
  /-- How often an object was asked for. -/
  asked : Nat
  /-- How many objects were made; they have the numbers below. -/
  made : Nat
  /-- The numbers of the objects that were destroyed, one entry for each time. -/
  destroyed : List Nat

/-- A ledger in which nothing is taken down yet. -/
def Ledger.blank (world : ω) : Ledger ω := ⟨world, 0, 0, []⟩

/-- What a factory does to an object, with its number kept. -/
def Numbered.carry (number : Nat) (l : Ledger ω) (a : Attempt Error ω T) :
    Attempt Error (Ledger ω) (Numbered T) :=
  ⟨a.verdict, ⟨a.value, number⟩, { l with world := a.world }⟩

/-- A factory whose objects are numbered and whose calls are taken down. -/
def Factory.numbered (factory : Factory ω T) : Factory (Ledger ω) (Numbered T) where
  make l :=
    match factory.make l.world with
    | (.error error, world) => (.error error, { l with world, asked := l.asked + 1 })
    | (.ok object, world) =>
      (.ok ⟨object, l.made⟩, { l with world, asked := l.asked + 1, made := l.made + 1 })
  validate o l :=
    let checked := factory.validate o.object l.world
    (checked.1, { l with world := checked.2 })
  activate o l := Numbered.carry o.number l (factory.activate o.object l.world)
  passivate o l := Numbered.carry o.number l (factory.passivate o.object l.world)
  destroy o l :=
    { l with
      world := factory.destroy o.object l.world
      destroyed := l.destroyed ++ [o.number] }

/-! ## What the calls of a numbered factory do -/

section

variable (factory : Factory ω T) (o : Numbered T) (l : Ledger ω)

/-- Asking for an object is taken down, and an object that is made gets the next number. -/
theorem Factory.numbered_make :
    (∃ error world,
        factory.numbered.make l = (.error error, { l with world, asked := l.asked + 1 })) ∨
      ∃ object world, factory.numbered.make l =
        (.ok ⟨object, l.made⟩, { l with world, asked := l.asked + 1, made := l.made + 1 }) := by
  simp only [numbered]
  rcases factory.make l.world with ⟨error | object, world⟩
  · exact Or.inl ⟨error, world, rfl⟩
  · exact Or.inr ⟨object, world, rfl⟩

/-- An object that comes back has the same number after it was looked at. -/
theorem inspect_numbered :
    ∃ fit object world,
      inspect factory.numbered o l = (fit, ⟨object, o.number⟩, { l with world }) := by
  unfold inspect
  simp only [Factory.numbered, Numbered.carry]
  by_cases valid : (factory.validate o.object l.world).1 = true
  · exact ⟨_, _, _, if_pos valid⟩
  · exact ⟨_, _, _, if_neg valid⟩

/-- Destroying objects is taken down object by object. -/
theorem destroyAll_numbered (objects : List (Numbered T)) :
    ∃ world, destroyAll factory.numbered objects l =
      { l with world, destroyed := l.destroyed ++ objects.map Numbered.number } := by
  unfold destroyAll
  induction objects generalizing l with
  | nil => exact ⟨l.world, by simp⟩
  | cons object rest ih =>
      obtain ⟨world, destroyed⟩ := ih (factory.numbered.destroy object l)
      refine ⟨world, ?_⟩
      rw [List.foldl_cons, destroyed]
      simp [Factory.numbered]

end

/-- Without numbers and ledger, the numbered factory is the factory itself. -/
theorem Factory.numbered_projection (factory : Factory ω T) :
    Factory.Projection Numbered.object Ledger.world factory.numbered factory where
  make l := by
    simp only [numbered]
    rcases factory.make l.world with ⟨error | object, world⟩ <;> rfl
  validate _ _ := rfl
  activate _ _ := rfl
  passivate _ _ := rfl
  destroy _ _ := rfl

end IntegrationHost.Pool
