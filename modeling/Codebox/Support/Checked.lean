import Mathlib.Algebra.Group.Nat.Defs

/-! # Arithmetic that panics

An operator on a fixed-width unsigned integer panics when its exact result does not fit. A
computation over such operators is a value or a panic, and is shown to be free of panics by giving
its value.
-/

namespace Codebox.Support

inductive Panic where
  | arithmeticOverflow
  deriving Repr, DecidableEq

abbrev Checked := Except Panic

@[simp]
theorem checked_ok_bind {α β : Type} (value : α) (next : α → Checked β) :
    ((Except.ok value : Checked α) >>= next) = next value := rfl

@[simp]
theorem checked_ok_map {α β : Type} (value : α) (f : α → β) :
    f <$> (Except.ok value : Checked α) = .ok (f value) := rfl

def addIn (width left right : Nat) : Checked Nat :=
  if left + right < 2 ^ width then .ok (left + right) else .error .arithmeticOverflow

def mulIn (width left right : Nat) : Checked Nat :=
  if left * right < 2 ^ width then .ok (left * right) else .error .arithmeticOverflow

def subIn (left right : Nat) : Checked Nat :=
  if right ≤ left then .ok (left - right) else .error .arithmeticOverflow

theorem addIn_eq_ok {width left right : Nat} (fits : left + right < 2 ^ width) :
    addIn width left right = .ok (left + right) :=
  if_pos fits

theorem mulIn_eq_ok {width left right : Nat} (fits : left * right < 2 ^ width) :
    mulIn width left right = .ok (left * right) :=
  if_pos fits

theorem subIn_eq_ok {left right : Nat} (fits : right ≤ left) :
    subIn left right = .ok (left - right) :=
  if_pos fits

/-- A fold that stops at the first item its step refuses. -/
def tryFold {σ α : Type} (step : σ → α → Checked (Option σ)) : σ → List α → Checked (Option σ)
  | state, [] => .ok (some state)
  | state, item :: rest => do
      let some next ← step state item | return none
      tryFold step next rest

end Codebox.Support
