import Codebox.Support.Transition

/-! # Methods that update a record in place

Such a method reports whether it succeeded and leaves a record either way. One that fails may have
changed the record already; whoever goes on with it then holds a record that no run of successful
calls leads to. A failed call that spares the record changes nothing about a run.
-/

namespace Codebox.Support

/-- What is reported, and the record left behind. -/
def Update (ε σ : Type) : Type := σ → Except ε Unit × σ

namespace Update

variable {ε σ κ : Type}

/-- An update made only when it succeeds. -/
def commit (f : σ → Except ε σ) : Update ε σ := fun s =>
  match f s with
  | .ok s' => (.ok (), s')
  | .error reason => (.error reason, s)

theorem commit_eq_ok {f : σ → Except ε σ} {s s' : σ} : commit f s = (.ok (), s') ↔ f s = .ok s' := by
  unfold commit
  cases f s <;> simp

/-- The runs of calls, whatever they report. -/
def runs (start : σ) (apply : κ → Update ε σ) : System σ κ where
  initial s := s = start
  step s call := some (apply call s).2

/-- The call succeeds, or leaves the record as it was. -/
def Spares (apply : κ → Update ε σ) (s : σ) (call : κ) : Prop := (apply call s).1 = .ok () ∨ (apply call s).2 = s

theorem commit_spares {f : κ → σ → Except ε σ} (s : σ) (call : κ) : Spares (fun call => commit (f call)) s call := by
  cases done : f call s with
  | ok => exact .inl (by simp [commit, done])
  | error => exact .inr (by simp [commit, done])

/-- What the constructor gives and every successful call keeps holds after every run of calls that
spare the record when they fail. -/
theorem runs_invariant {inv : σ → Prop} {start s : σ} {apply : κ → Update ε σ}
    (reach : (runs start apply).Reach (Spares apply) s) (first : inv start)
    (keep : ∀ call s s', inv s → apply call s = (.ok (), s') → inv s') : inv s := by
  apply reach.invariant
  · rintro _ rfl
    exact first
  · intro s call s' _ holds spares stepped
    cases stepped
    rcases spares with okay | same
    · exact keep call s _ holds (Prod.ext okay rfl)
    · rwa [same]

end Update

end Codebox.Support
