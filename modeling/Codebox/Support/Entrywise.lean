import Mathlib.Data.List.Forall2
import Mathlib.Data.List.Induction
import Mathlib.Data.List.Perm.Subperm

/-! # Lists changed entry by entry

A table whose entries are changed in place, and from which entries are then dropped. What holds
of every entry, of every two entries, or bounds the number of entries of a kind, is kept.
-/

namespace Codebox.Support

variable {α : Type} {R S : α → α → Prop} {items changed kept : List α} {p : α → Bool} {f : α → α} {index : Nat}
  {item : α}

theorem forall₂_modify (index : Nat) (same : ∀ item ∈ items, R item item)
    (moved : ∀ item, items[index]? = some item → R item (f item)) : List.Forall₂ R items (items.modify index f) := by
  induction items generalizing index with
  | nil => cases index <;> exact .nil
  | cons item items ih =>
      cases index with
      | zero =>
          refine .cons (moved item rfl) (List.forall₂_same.mpr fun other mem => ?_)
          exact same other (List.mem_cons_of_mem _ mem)
      | succ index =>
          refine .cons (same item List.mem_cons_self) (ih index ?_ moved)
          exact fun other mem => same other (List.mem_cons_of_mem _ mem)

theorem getElem?_concat_eq_some {i : Nat} {last : α} : (items ++ [last])[i]? = some item ↔
    items[i]? = some item ∨ i = items.length ∧ item = last := by
  rw [List.getElem?_append]
  split
  · rename_i inside
    constructor
    · exact .inl
    · rintro (here | ⟨end_, -⟩)
      · exact here
      · omega
  · rename_i beyond
    rw [List.getElem?_eq_none (Nat.le_of_not_lt beyond), List.getElem?_singleton]
    split
    · have end_ : i = items.length := by omega
      simp [end_, eq_comm]
    · have past : ¬i = items.length := by omega
      simp [past]

theorem getElem?_set_here {i j : Nat} {item' : α} (here : items[i]? = some item) :
    (items.set i item')[j]? = if j = i then some item' else items[j]? := by
  obtain ⟨inside, -⟩ := List.getElem?_eq_some_iff.mp here
  rw [List.getElem?_set]
  by_cases same : i = j
  · subst same
    simp [inside]
  · have other : ¬j = i := fun back => same back.symm
    simp [same, other]

/-- The first entry of a kind is the only one, so that changing it changes every entry of the kind. -/
theorem modify_findIdx_eq_map (found : items.findIdx? p = some index)
    (only : items.Pairwise fun a b => ¬ (p a = true ∧ p b = true)) :
    items.modify index f = items.map fun item => if p item then f item else item := by
  obtain ⟨inside, here, -⟩ := List.findIdx?_eq_some_iff_getElem.mp found
  have pairs := List.pairwise_iff_getElem.mp only
  apply List.ext_getElem?
  intro j
  rw [List.getElem?_modify, List.getElem?_map]
  cases there : items[j]? with
  | none => rfl
  | some item =>
      obtain ⟨bound, rfl⟩ := List.getElem?_eq_some_iff.mp there
      simp only [Option.map_eq_map, Option.map_some, Option.some.injEq]
      rcases Nat.lt_trichotomy index j with before | same | after
      · rw [if_neg (Nat.ne_of_lt before), if_neg fun hit => pairs index j inside bound before ⟨here, hit⟩]
      · subst same
        rw [if_pos rfl, if_pos here]
      · rw [if_neg (Nat.ne_of_gt after), if_neg fun hit => pairs j index bound inside after ⟨hit, here⟩]

theorem forall₂_map (moved : ∀ item ∈ items, R item (f item)) : List.Forall₂ R items (items.map f) :=
  List.forall₂_map_right_iff.mpr (List.forall₂_same.mpr moved)

section

variable (related : List.Forall₂ R items changed)

include related

theorem mem_of_forall₂_left (mem : item ∈ items) : ∃ next ∈ changed, R item next := by
  induction related with
  | nil => cases mem
  | cons head _ ih =>
      rcases List.mem_cons.mp mem with here | mem
      · subst here
        exact ⟨_, List.mem_cons_self, head⟩
      · obtain ⟨next, mem, after⟩ := ih mem
        exact ⟨next, List.mem_cons_of_mem _ mem, after⟩

theorem mem_of_forall₂_right {next : α} (mem : next ∈ changed) : ∃ item ∈ items, R item next :=
  mem_of_forall₂_left related.flip mem

theorem countP_le_of_forall₂ (fewer : ∀ item next, R item next → p next = true → p item = true) :
    changed.countP p ≤ items.countP p := by
  induction related with
  | nil => exact Nat.le_refl _
  | cons head _ ih =>
      rw [List.countP_cons, List.countP_cons]
      have := fewer _ _ head
      split <;> split <;> first | omega | exact absurd (this ‹_›) ‹_›

theorem pairwise_of_forall₂ (pairs : items.Pairwise S) (carried : ∀ a b a' b', R a a' → R b b' → S a b → S a' b') :
    changed.Pairwise S := by
  induction related with
  | nil => exact .nil
  | cons head rest ih =>
      obtain ⟨first, pairs⟩ := List.pairwise_cons.mp pairs
      refine List.pairwise_cons.mpr ⟨fun next mem => ?_, ih pairs⟩
      obtain ⟨item, mem, after⟩ := mem_of_forall₂_right rest mem
      exact carried _ _ _ _ head after (first item mem)

end

theorem pairwise_of_subperm (fewer : kept.Subperm changed) (pairs : changed.Pairwise S)
    (symm : ∀ {a b}, S a b → S b a) : kept.Pairwise S := by
  obtain ⟨part, perm, sublist⟩ := fewer
  exact (perm.pairwise_iff symm).mp (pairs.sublist sublist)

/-- The index of the last item that a loop over the whole list finds. -/
def lastMatch (p : α → Bool) (items : List α) : Option Nat :=
  items.zipIdx.foldl (fun found (item, index) => if p item then some index else found) none

theorem lastMatch_concat (p : α → Bool) (items : List α) (item : α) :
    lastMatch p (items ++ [item]) = if p item then some items.length else lastMatch p items := by
  simp [lastMatch, List.zipIdx_append]

theorem lastMatch_eq_some (found : lastMatch p items = some index) :
    ∃ item, items[index]? = some item ∧ p item = true := by
  induction items using List.reverseRecOn with
  | nil => cases found
  | append_singleton items item ih =>
      rw [lastMatch_concat] at found
      split at found
      · rename_i holds
        cases found
        exact ⟨item, by simp, holds⟩
      · obtain ⟨other, here, holds⟩ := ih found
        exact ⟨other, (List.getElem?_append_left (List.getElem?_eq_some_iff.mp here).1).trans here, holds⟩

theorem lastMatch_eq_none (found : lastMatch p items = none) : ∀ item ∈ items, p item = false := by
  induction items using List.reverseRecOn with
  | nil =>
      intro item mem
      cases mem
  | append_singleton items last ih =>
      rw [lastMatch_concat] at found
      split at found
      · cases found
      · rename_i fails
        intro item mem
        rcases List.mem_append.mp mem with mem | mem
        · exact ih found item mem
        · rw [List.mem_singleton.mp mem]
          exact Bool.eq_false_iff.mpr fails

end Codebox.Support
