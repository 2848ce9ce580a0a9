import Mathlib.Logic.Basic

/-! # Comparison in a number of steps that shows nothing

Two sequences are compared by going through both to the end and merging every difference into an
accumulator, which is clear afterwards exactly if nothing differed. The number of steps is counted
along: it is fixed by the lengths.
-/

namespace Codebox.Support

variable {α δ : Type}

theorem clear_foldl_zip {merge : δ → α → α → δ} (clear : δ → Prop)
    (merges : ∀ difference a b, clear (merge difference a b) ↔ clear difference ∧ a = b)
    {left right : List α} (same : left.length = right.length) (difference : δ) (compared : Nat) :
    clear ((left.zip right).foldl (fun seen pair => (merge seen.1 pair.1 pair.2, seen.2 + 1))
      (difference, compared)).1 ↔ clear difference ∧ left = right := by
  induction left generalizing right difference compared with
  | nil =>
      cases right with
      | nil => simp
      | cons => cases same
  | cons a left ih =>
      cases right with
      | nil => cases same
      | cons b right =>
          rw [List.zip_cons_cons, List.foldl_cons, ih (Nat.succ.inj same), merges, List.cons.injEq, and_assoc]

theorem compared_foldl_zip (merge : δ → α → α → δ) {left right : List α} (same : left.length = right.length)
    (difference : δ) (compared : Nat) :
    ((left.zip right).foldl (fun seen pair => (merge seen.1 pair.1 pair.2, seen.2 + 1))
      (difference, compared)).2 = compared + left.length := by
  induction left generalizing right difference compared with
  | nil => rfl
  | cons a left ih =>
      cases right with
      | nil => cases same
      | cons b right =>
          rw [List.zip_cons_cons, List.foldl_cons, ih (Nat.succ.inj same), List.length_cons]
          omega

end Codebox.Support
