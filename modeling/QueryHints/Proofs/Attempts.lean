namespace QueryHints

variable {ε δ α β : Type} (x : Except ε α)

@[simp]
theorem bind_eq_ok_iff (f : α → Except ε β) (b : β) :
    (x >>= f) = .ok b ↔ ∃ a, x = .ok a ∧ f a = .ok b := by
  cases x <;> simp [bind, Except.bind]

/-- The second attempt is made only if the first succeeds, so only then can the fault be its own. -/
@[simp]
theorem bind_eq_error_iff (f : α → Except ε β) (e : ε) :
    (x >>= f) = .error e ↔ x = .error e ∨ ∃ a, x = .ok a ∧ f a = .error e := by
  cases x <;> simp [bind, Except.bind]

@[simp]
theorem pure_eq_ok_iff (a b : α) : (pure a : Except ε α) = .ok b ↔ a = b := by
  simp [pure, Except.pure]

@[simp]
theorem pure_ne_error (a : α) (e : ε) : (pure a : Except ε α) ≠ .error e := by
  simp [pure, Except.pure]

@[simp]
theorem mapError_eq_ok_iff (f : ε → δ) (a : α) : x.mapError f = .ok a ↔ x = .ok a := by
  cases x with
  | ok b =>
    change Except.ok b = Except.ok a ↔ _
    simp
  | error e =>
    change Except.error (f e) = Except.ok a ↔ _
    simp

@[simp]
theorem mapError_eq_error_iff (f : ε → δ) (d : δ) :
    x.mapError f = .error d ↔ ∃ e, x = .error e ∧ f e = d := by
  cases x with
  | ok b =>
    change Except.ok b = Except.error d ↔ _
    simp
  | error e =>
    change Except.error (f e) = Except.error d ↔ _
    simp

end QueryHints
