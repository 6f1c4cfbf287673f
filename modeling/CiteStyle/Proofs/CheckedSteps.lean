-- Steps that can fail, one after the other. If all of them together succeed, then each has
-- succeeded, from the result of the one in front of it; so what every step keeps is kept.
namespace CiteStyle

theorem except_bind_ok {ε α β : Type} {x : Except ε α} {f : α → Except ε β} {b : β}
    (h : x >>= f = .ok b) : ∃ a, x = .ok a ∧ f a = .ok b := by
  cases x with
  | error e => cases h
  | ok a => exact ⟨a, rfl, h⟩

/-- What every step keeps is kept by all steps together. -/
theorem foldlM_keeps {ε α β : Type} {P : β → Prop} {f : β → α → Except ε β}
    (step : ∀ s x s', P s → f s x = .ok s' → P s') {xs : List α} {s s' : β} (h : P s)
    (run : xs.foldlM f s = .ok s') : P s' := by
  induction xs generalizing s with
  | nil =>
    cases run
    exact h
  | cons x xs ih =>
    rw [List.foldlM_cons] at run
    obtain ⟨next, first, run⟩ := except_bind_ok run
    exact ih (step s x next h first) run

end CiteStyle
