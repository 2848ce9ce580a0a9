import Mathlib.Data.List.Infix

/-! # Splitting lists

Splitting at every occurrence of one item, and at the first occurrence of a separator of several
items. Occurrences of such a separator may overlap, so that where the first one is says more than
that the list has the form of two parts joined by it.
-/

namespace Codebox.Support

variable {α : Type} [DecidableEq α] {text separator : List α}

/-! ## At one item -/

theorem mem_splitOn {separator : α} {part : List α} (inside : part ∈ text.splitOn separator) :
    separator ∉ part ∧ part ⊆ text := by
  induction text generalizing part with
  | nil =>
      rw [List.splitOn_nil, List.mem_singleton] at inside
      simp [inside]
  | cons first rest ih =>
      rw [List.splitOn_cons_eq_if_modifyHead] at inside
      split at inside
      · rcases List.mem_cons.mp inside with rfl | inside
        · simp
        · exact ⟨(ih inside).1, List.subset_cons_of_subset first (ih inside).2⟩
      · rename_i other
        cases parts : rest.splitOn separator with
        | nil => exact absurd parts (List.splitOn_ne_nil separator rest)
        | cons head tail =>
            rw [parts] at inside ih
            rcases List.mem_cons.mp inside with rfl | inside
            · obtain ⟨clear, within⟩ := ih (List.mem_cons_self ..)
              refine ⟨?_, List.cons_subset_cons first within⟩
              rw [List.mem_cons, not_or]
              exact ⟨fun same => other (by simp [← same]), clear⟩
            · obtain ⟨clear, within⟩ := ih (List.mem_cons_of_mem head inside)
              exact ⟨clear, List.subset_cons_of_subset first within⟩

/-- Splitting gives the only parts without the item that it joins to the list. -/
theorem splitOn_eq_iff {separator : α} {parts : List (List α)} :
    text.splitOn separator = parts ↔
      parts ≠ [] ∧ [separator].intercalate parts = text ∧ ∀ part ∈ parts, separator ∉ part := by
  constructor
  · rintro rfl
    exact ⟨List.splitOn_ne_nil _ _, List.intercalate_splitOn separator,
      fun part inside => (mem_splitOn inside).1⟩
  · rintro ⟨some, rfl, apart⟩
    exact List.splitOn_intercalate separator apart some

/-! ## At a separator -/

/-- The parts before and after the first occurrence of a separator. -/
def splitOnce (separator : List α) : List α → Option (List α × List α)
  | [] => (separator.isPrefixOf? []).map fun after => ([], after)
  | item :: rest =>
      match separator.isPrefixOf? (item :: rest) with
      | some after => some ([], after)
      | none => (splitOnce separator rest).map fun parts => (item :: parts.1, parts.2)

/-- The separator first occurs after `before`, and is followed by `after`. -/
structure FirstSplit (separator text before after : List α) : Prop where
  joined : text = before ++ (separator ++ after)
  first : ∀ before' after', text = before' ++ (separator ++ after') →
    before.length ≤ before'.length

omit [DecidableEq α] in
theorem FirstSplit.unique {before after before' after' : List α} (one : FirstSplit separator text before after)
    (two : FirstSplit separator text before' after') : before = before' ∧ after = after' := by
  have same : before.length = before'.length :=
    Nat.le_antisymm (one.first _ _ two.joined) (two.first _ _ one.joined)
  obtain ⟨rfl, rest⟩ := List.append_inj (one.joined.symm.trans two.joined) same
  exact ⟨rfl, List.append_cancel_left rest⟩

theorem firstSplit_of_splitOnce {before after : List α} (found : splitOnce separator text = some (before, after)) :
    FirstSplit separator text before after := by
  induction text generalizing before with
  | nil =>
    obtain ⟨rest, matched, same⟩ := Option.map_eq_some_iff.mp found
    obtain ⟨rfl, rfl⟩ := Prod.mk.inj same
    exact ⟨(List.isPrefixOf?_eq_some_iff_append_eq.mp matched).symm, fun _ _ _ => Nat.zero_le _⟩
  | cons item text ih =>
    rw [splitOnce] at found
    split at found
    · rename_i rest matched
      obtain ⟨rfl, rfl⟩ := Prod.mk.inj (Option.some.inj found)
      exact ⟨(List.isPrefixOf?_eq_some_iff_append_eq.mp matched).symm, fun _ _ _ => Nat.zero_le _⟩
    · rename_i unmatched
      obtain ⟨⟨front, back⟩, deeper, same⟩ := Option.map_eq_some_iff.mp found
      obtain ⟨rfl, rfl⟩ := Prod.mk.inj same
      have split := ih deeper
      refine ⟨congrArg (item :: ·) split.joined, ?_⟩
      intro before' after' joined
      cases before' with
      | nil =>
        rw [List.nil_append] at joined
        have matched := List.isPrefixOf?_eq_some_iff_append_eq.mpr joined.symm
        rw [unmatched] at matched
        cases matched
      | cons other before' =>
        have tail := (List.cons.inj joined).2
        exact Nat.succ_le_succ (split.first before' after' tail)

theorem splitOnce_eq_none (none : splitOnce separator text = none) : ¬ separator <:+: text := by
  induction text with
  | nil =>
    rintro ⟨before, after, joined⟩
    obtain ⟨front, rfl⟩ := List.append_eq_nil_iff.mp joined
    obtain ⟨-, rfl⟩ := List.append_eq_nil_iff.mp front
    cases none
  | cons item text ih =>
    rw [splitOnce] at none
    split at none
    · cases none
    · rename_i unmatched
      rw [List.infix_cons_iff]
      rintro (⟨after, joined⟩ | deeper)
      · have matched := List.isPrefixOf?_eq_some_iff_append_eq.mpr joined
        rw [unmatched] at matched
        cases matched
      · exact ih (Option.map_eq_none_iff.mp none) deeper

theorem splitOnce_eq_some_iff {before after : List α} :
    splitOnce separator text = some (before, after) ↔ FirstSplit separator text before after := by
  constructor
  · exact firstSplit_of_splitOnce
  · intro split
    cases found : splitOnce separator text with
    | none =>
      exact absurd ⟨before, after, by rw [split.joined, List.append_assoc]⟩ (splitOnce_eq_none found)
    | some parts =>
      obtain ⟨front, back⟩ := parts
      obtain ⟨rfl, rfl⟩ := split.unique (firstSplit_of_splitOnce found)
      rfl

/-- Whether a separator occurs in a list. -/
def occursIn (separator text : List α) : Bool := (splitOnce separator text).isSome

theorem occursIn_iff : occursIn separator text = true ↔ separator <:+: text := by
  rw [occursIn]
  cases found : splitOnce separator text with
  | none => simpa using splitOnce_eq_none found
  | some parts =>
    have split := firstSplit_of_splitOnce found
    simp only [Option.isSome_some, true_iff]
    exact ⟨parts.1, parts.2, by rw [split.joined, List.append_assoc]⟩

end Codebox.Support
