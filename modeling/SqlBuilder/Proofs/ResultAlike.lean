import SqlBuilder.Error

/-! # Related results

Two results are related if both fail for the same reason, or both succeed with related values.  The
relation passes through mapping and sequencing. -/

namespace SqlBuilder

/-- **Two results that fail for the same reason, or succeed with related values.** -/
inductive ResultAlike {α β : Type} (R : α → β → Prop) : DbResult α → DbResult β → Prop
  | error (e : DbError) : ResultAlike R (.error e) (.error e)
  | ok {a : α} {b : β} (h : R a b) : ResultAlike R (.ok a) (.ok b)

namespace ResultAlike

variable {α β γ δ : Type} {R : α → β → Prop} {S : γ → δ → Prop} {x : DbResult α} {y : DbResult β}

/-- Every result is related to itself. -/
theorem refl {R : α → α → Prop} (h : ∀ a, R a a) (x : DbResult α) : ResultAlike R x x := by
  cases x with
  | error e => exact .error e
  | ok a => exact .ok (h a)

/-- What is related to a failure is the same failure. -/
theorem eq_error {e : DbError} (h : ResultAlike R (.error e) y) : y = .error e := by
  cases h
  rfl

/-- What is related to a success is one. -/
theorem exists_eq_ok {a : α} (h : ResultAlike R (.ok a) y) : ∃ b, y = .ok b ∧ R a b := by
  cases h with
  | ok hab => exact ⟨_, rfl, hab⟩

/-- Related functions keep results alike. -/
theorem map {f : α → γ} {g : β → δ} (h : ResultAlike R x y) (hfg : ∀ a b, R a b → S (f a) (g b)) :
    ResultAlike S (x.map f) (y.map g) := by
  cases h with
  | error e => exact .error e
  | ok h => exact .ok (hfg _ _ h)

/-- Related continuations keep results alike. -/
theorem bind {f : α → DbResult γ} {g : β → DbResult δ} (h : ResultAlike R x y)
    (hfg : ∀ a b, R a b → ResultAlike S (f a) (g b)) : ResultAlike S (x >>= f) (y >>= g) := by
  cases h with
  | error e => exact .error e
  | ok h => exact hfg _ _ h

end ResultAlike

end SqlBuilder
