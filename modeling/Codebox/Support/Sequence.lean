import Mathlib.Data.List.DropRight
import Mathlib.Data.List.Range

/-! # Numbered logs

A log whose entries carry consecutive numbers, and the bounded history that keeps only its latest
entries. A reader that names the last number it has seen is served by a cut of the log.
-/

namespace Codebox.Support

variable {α : Type} {number : α → Nat} {first : Nat} {items : List α} {item : α}

/-- The items carry the numbers `first`, `first + 1`, … in order. -/
def Numbered (number : α → Nat) (first : Nat) (items : List α) : Prop :=
  items.map number = List.range' first items.length

namespace Numbered

theorem nil : Numbered number first [] := rfl

theorem concat (numbered : Numbered number first items) (next : number item = first + items.length) :
    Numbered number first (items ++ [item]) := by
  unfold Numbered at *
  rw [List.map_append, numbered, List.length_append, List.length_singleton, List.range'_concat, List.map_singleton,
    next, Nat.one_mul]

theorem cons_iff : Numbered number first (item :: items) ↔
    number item = first ∧ Numbered number (first + 1) items := by
  simp [Numbered, List.range'_succ]

theorem drop (numbered : Numbered number first items) (count : Nat) :
    Numbered number (first + count) (items.drop count) := by
  unfold Numbered at *
  rw [List.map_drop, numbered, List.drop_range', List.length_drop, Nat.mul_one]

theorem beginning {part : List α} (numbered : Numbered number first items) (start : part <+: items) :
    Numbered number first part := by
  obtain ⟨rest, rfl⟩ := start
  unfold Numbered at *
  rw [List.map_append, List.length_append, ← List.range'_append_1] at numbered
  exact (List.append_inj numbered (by simp)).1

/-- The items above a number are what is left after a cut. -/
theorem filter_lt (numbered : Numbered number first items) (bound : Nat) (below : first ≤ bound + 1) :
    items.filter (fun item => decide (bound < number item)) = items.drop (bound + 1 - first) := by
  induction items generalizing first with
  | nil => simp
  | cons item items ih =>
      obtain ⟨here, numbered⟩ := cons_iff.mp numbered
      by_cases above : bound < number item
      · have all := ih numbered
        have cut : bound + 1 - first = 0 := by omega
        rw [List.filter_cons_of_pos (by simpa using above), cut, List.drop_zero]
        congr 1
        rw [List.filter_eq_self]
        intro other inside
        have counted : number other ∈ items.map number := List.mem_map_of_mem inside
        rw [numbered, List.mem_range'_1] at counted
        simp
        omega
      · have cut : bound + 1 - first = (bound + 1 - (first + 1)) + 1 := by omega
        rw [List.filter_cons_of_neg (by simpa using above), cut, List.drop_succ_cons]
        exact ih numbered (by omega)

end Numbered

/-- A history that drops its oldest entry on overflow holds the latest entries of the log. -/
theorem rtake_rtake_concat (capacity : Nat) (items : List α) (item : α) :
    (items.rtake capacity ++ [item]).rtake capacity = (items ++ [item]).rtake capacity := by
  cases capacity with
  | zero => simp
  | succ count =>
      have again : (items.rtake (count + 1)).rtake count = items.rtake count := by
        simp [List.rtake_eq_reverse_take_reverse, List.take_take]
      rw [List.rtake_concat_succ, List.rtake_concat_succ, again]

end Codebox.Support
