/-!
# Steps that may fail

A `do` block of steps that may fail is read backwards, from how it ended to how
its steps did.  Two steps are compared by the images of what they give.
-/

namespace Playpen

/-- Reads a successful `do` block one step at a time. -/
theorem bind_eq_ok {ε α β : Type} {x : Except ε α} {f : α → Except ε β} {b : β} :
    (x >>= f) = .ok b ↔ ∃ a, x = .ok a ∧ f a = .ok b := by
  cases x with
  | error e =>
    constructor
    · intro h
      cases h
    · rintro ⟨_, h, _⟩
      cases h
  | ok a =>
    constructor
    · intro h
      exact ⟨a, rfl, h⟩
    · rintro ⟨_, h, hf⟩
      cases h
      exact hf

/-- Reads a `do` block that fails one step at a time. -/
theorem bind_eq_error {ε α β : Type} {x : Except ε α} {f : α → Except ε β} {e : ε} :
    (x >>= f) = .error e ↔ x = .error e ∨ ∃ a, x = .ok a ∧ f a = .error e := by
  cases x with
  | error e' =>
    constructor
    · intro h
      cases h
      exact Or.inl rfl
    · rintro (h | ⟨_, h, _⟩)
      · cases h
        rfl
      · cases h
  | ok a =>
    constructor
    · intro h
      exact Or.inr ⟨a, rfl, h⟩
    · rintro (h | ⟨_, h, hf⟩)
      · cases h
      · cases h
        exact hf

/-- Two steps have the same image if both give values of one image, or both fail
for one reason. -/
theorem map_eq_map {ε α β : Type} {f : α → β} {x y : Except ε α} :
    x.map f = y.map f ↔
      (∃ a b, x = .ok a ∧ y = .ok b ∧ f a = f b) ∨ ∃ e, x = .error e ∧ y = .error e := by
  constructor
  · intro h
    cases x with
    | error e =>
      cases y with
      | error e' =>
        cases h
        exact Or.inr ⟨e, rfl, rfl⟩
      | ok b => cases h
    | ok a =>
      cases y with
      | error e => cases h
      | ok b => exact Or.inl ⟨a, b, rfl, rfl, Except.ok.inj h⟩
  · rintro (⟨a, b, rfl, rfl, h⟩ | ⟨e, rfl, rfl⟩)
    · exact congrArg Except.ok h
    · rfl

end Playpen
