import Mathlib.Algebra.BigOperators.Group.List.Basic
import Mathlib.Algebra.GroupWithZero.Nat
import Mathlib.Data.List.AList

/-! # The weight of an association list

The sum of a weight over the values of a finite map. A change of one entry changes the weight by that
entry, whatever the order of the others.
-/

namespace Codebox.Support

variable {κ β : Type} [DecidableEq κ] {entries entries' : AList fun _ : κ => β} {key : κ} {value : β}

def weight (w : β → Nat) (entries : AList fun _ : κ => β) : Nat :=
  (entries.entries.map fun pair => w pair.2).sum

omit [DecidableEq κ] in
theorem weight_perm (w : β → Nat) (same : entries.entries.Perm entries'.entries) :
    weight w entries = weight w entries' :=
  (same.map _).sum_eq

/-- An entry that is there has its part of the weight. -/
theorem weight_erase (w : β → Nat) (found : entries.lookup key = some value) :
    weight w entries = w value + weight w (entries.erase key) := by
  have here : key ∈ entries.entries.keys := AList.lookup_isSome.mp (by rw [found]; rfl)
  obtain ⟨value', before, after, -, split, erased⟩ := List.exists_of_kerase here
  have same : value' = value := by
    have mem : (⟨key, value'⟩ : Sigma fun _ => β) ∈ entries.entries := by simp [split]
    have found' : entries.lookup key = some value' := AList.mem_lookup_iff.mpr mem
    rw [found] at found'
    exact (Option.some.inj found').symm
  subst same
  have left : (entries.erase key).entries = before ++ after := erased
  simp only [weight, left]
  rw [split]
  simp only [List.map_append, List.map_cons, List.sum_append, List.sum_cons]
  omega

theorem weight_insert (w : β → Nat) (key : κ) (value : β) (entries : AList fun _ : κ => β) :
    weight w (entries.insert key value) = w value + weight w (entries.erase key) := by
  have left : (entries.erase key).entries = entries.entries.kerase key := rfl
  simp only [weight, AList.entries_insert, left, List.map_cons, List.sum_cons]

/-- A new entry adds its weight. -/
theorem weight_insert_new (w : β → Nat) (value : β) (none : entries.lookup key = none) :
    weight w (entries.insert key value) = w value + weight w entries := by
  have away : key ∉ entries := AList.lookup_eq_none.mp none
  rw [weight, AList.entries_insert_of_notMem away]
  simp [weight]

end Codebox.Support
