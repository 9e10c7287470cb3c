/-!
# Steps that may fail

What a sequence of steps says about its parts once the whole has not failed.
-/

namespace SiteGuard

variable {ε α β : Type}

theorem bind_eq_ok {x : Except ε α} {f : α → Except ε β} {b : β} (h : x >>= f = .ok b) :
    ∃ a, x = .ok a ∧ f a = .ok b := by
  cases x with
  | error e =>
      cases h
  | ok a =>
      exact ⟨a, rfl, h⟩

theorem bind_eq_error {x : Except ε α} {f : α → Except ε β} {e : ε} (h : x >>= f = .error e) :
    x = .error e ∨ ∃ a, x = .ok a ∧ f a = .error e := by
  cases x with
  | error e' =>
      cases h
      exact Or.inl rfl
  | ok a =>
      exact Or.inr ⟨a, rfl, h⟩

theorem map_eq_ok {x : Except ε α} {f : α → β} {b : β} (h : x.map f = .ok b) :
    ∃ a, x = .ok a ∧ f a = b := by
  cases x with
  | error e =>
      cases h
  | ok a =>
      cases h
      exact ⟨a, rfl, rfl⟩

theorem unless_eq_ok {c : Prop} [Decidable c] {e : ε} {f : α → Except ε β} {x : Except ε β}
    {b : β} (h : (if c then throw e >>= f else x) = .ok b) : ¬c ∧ x = .ok b := by
  by_cases hc : c
  · rw [if_pos hc] at h
    cases h
  · rw [if_neg hc] at h
    exact ⟨hc, h⟩

theorem bind_of_eq_ok {x : Except ε α} {f : α → Except ε β} {a : α} {y : Except ε β}
    (hx : x = .ok a) (hf : f a = y) : x >>= f = y := by
  rw [hx]
  exact hf

theorem eq_ok_of_isOk {x : Except ε α} (h : x.isOk = true) : ∃ a, x = .ok a := by
  cases x with
  | error e =>
      cases h
  | ok a =>
      exact ⟨a, rfl⟩

/-- Two steps fail in the same way, or they come to values that are related. -/
inductive Matched (R : α → β → Prop) : Except ε α → Except ε β → Prop where
  | error (e : ε) : Matched R (.error e) (.error e)
  | ok {a : α} {b : β} (h : R a b) : Matched R (.ok a) (.ok b)

theorem Matched.inv {R : α → β → Prop} {x : Except ε α} {y : Except ε β} (h : Matched R x y) :
    (∃ e, x = .error e ∧ y = .error e) ∨ ∃ a b, x = .ok a ∧ y = .ok b ∧ R a b := by
  cases h with
  | error e =>
      exact Or.inl ⟨e, rfl, rfl⟩
  | ok h =>
      exact Or.inr ⟨_, _, rfl, rfl, h⟩

theorem Matched.bind {α' β' : Type} {R : α → β → Prop} {S : α' → β' → Prop} {x : Except ε α}
    {y : Except ε β} {f : α → Except ε α'} {g : β → Except ε β'} (h : Matched R x y)
    (hnext : ∀ a b, R a b → Matched S (f a) (g b)) : Matched S (x >>= f) (y >>= g) := by
  cases h with
  | error e =>
      exact .error e
  | ok h =>
      exact hnext _ _ h

theorem Matched.map {α' β' : Type} {R : α → β → Prop} {S : α' → β' → Prop} {x : Except ε α}
    {y : Except ε β} {f : α → α'} {g : β → β'} (h : Matched R x y)
    (hnext : ∀ a b, R a b → S (f a) (g b)) : Matched S (x.map f) (y.map g) := by
  cases h with
  | error e =>
      exact .error e
  | ok h =>
      exact .ok (hnext _ _ h)

theorem Matched.refl (x : Except ε α) : Matched (· = ·) x x := by
  cases x with
  | error e =>
      exact .error e
  | ok a =>
      exact .ok rfl

theorem bind_eq_some {x : Option α} {f : α → Option β} {a : α} {b : β} (hx : x = some a)
    (hf : f a = some b) : x >>= f = some b := by
  rw [hx]
  exact hf

end SiteGuard
