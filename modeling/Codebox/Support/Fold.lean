import Mathlib.Data.List.Induction

/-! # Folds that may fail

A machine that takes its input item by item and may refuse one is a `foldlM` in `Except`. What it has
accepted it has accepted item by item, so an invariant of one step is an invariant of the fold, and
what it accepts it accepts up to every point.
-/

namespace Codebox.Support

variable {σ α ε : Type} {step : σ → α → Except ε σ} {s t : σ} {items more : List α} {item : α}

theorem except_bind_eq_ok {β : Type} {first : Except ε α} {next : α → Except ε β} {result : β} :
    (first >>= next) = .ok result ↔ ∃ value, first = .ok value ∧ next value = .ok result := by
  cases first <;> simp [bind, Except.bind]

theorem foldlM_append_eq_ok : (items ++ more).foldlM step s = .ok t ↔
    ∃ mid, items.foldlM step s = .ok mid ∧ more.foldlM step mid = .ok t := by
  rw [List.foldlM_append, except_bind_eq_ok]

theorem foldlM_concat_eq_ok : (items ++ [item]).foldlM step s = .ok t ↔
    ∃ mid, items.foldlM step s = .ok mid ∧ step mid item = .ok t := by
  rw [foldlM_append_eq_ok]
  simp

theorem foldlM_cons_eq_ok : (item :: items).foldlM step s = .ok t ↔
    ∃ mid, step s item = .ok mid ∧ items.foldlM step mid = .ok t := by
  rw [List.foldlM_cons, except_bind_eq_ok]

/-- An invariant of the items taken and the state they lead to. -/
theorem foldlM_invariant {inv : List α → σ → Prop} (start : inv [] s)
    (next : ∀ taken mid item t, inv taken mid → step mid item = .ok t → inv (taken ++ [item]) t)
    (accepted : items.foldlM step s = .ok t) : inv items t := by
  induction items using List.reverseRecOn generalizing t with
  | nil =>
      cases accepted
      exact start
  | append_singleton items item ih =>
      obtain ⟨mid, before, last⟩ := foldlM_concat_eq_ok.mp accepted
      exact next items mid item t (ih before) last

/-- A beginning of accepted input is accepted. -/
theorem foldlM_of_isPrefix (beginning : items <+: more) (accepted : more.foldlM step s = .ok t) :
    ∃ mid, items.foldlM step s = .ok mid := by
  obtain ⟨rest, rfl⟩ := beginning
  obtain ⟨mid, before, -⟩ := foldlM_append_eq_ok.mp accepted
  exact ⟨mid, before⟩

end Codebox.Support
