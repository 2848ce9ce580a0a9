import Mathlib.Data.List.Induction

/-! # Bounded histories of phases

A record that keeps every phase it went through, in order: it begins in a fixed phase,
each phase follows from the one before, and its length is bounded. The rule for growing
one at its end and the induction along that growth are stated for any phase type.
-/

namespace Codebox.Support

/-- A check that refuses. -/
theorem ite_error_eq_ok {ε α : Type} {refused : Prop} [Decidable refused] {error : ε} {rest : Except ε α} {value : α} :
    (if refused then .error error else rest) = .ok value ↔ ¬refused ∧ rest = .ok value := by
  split <;> simp_all

structure HistoryRules (φ : Type) where
  first : φ
  next : φ → φ → Bool
  limit : Nat

namespace HistoryRules

variable {φ : Type} (rules : HistoryRules φ) {history : List φ} {phase : φ}

/-- Every pair of neighbours is a permitted step. -/
def linked : List φ → Bool
  | a :: b :: rest => rules.next a b && linked (b :: rest)
  | _ => true

theorem linked_concat {rules : HistoryRules φ} {last : φ} (tail : history.getLast? = some last) :
    rules.linked (history ++ [phase]) = (rules.linked history && rules.next last phase) := by
  induction history with
  | nil => cases tail
  | cons a rest ih =>
      cases rest with
      | nil =>
          obtain rfl : a = last := by simpa using tail
          simp [linked]
      | cons b rest =>
          have tail' : (b :: rest).getLast? = some last := by simpa using tail
          simp only [List.cons_append, linked] at ih ⊢
          rw [ih tail', Bool.and_assoc]

variable [DecidableEq φ]

/-- Non-empty, within the limit, beginning in the first phase, and linked. -/
def accepts (history : List φ) : Bool :=
  history.head? == some rules.first && decide (history.length ≤ rules.limit) &&
    rules.linked history

variable {rules}

theorem accepts_concat_iff {last : φ} (tail : history.getLast? = some last) :
    rules.accepts (history ++ [phase]) = true ↔
      rules.accepts history = true ∧ history.length < rules.limit ∧
        rules.next last phase = true := by
  have nonempty : history ≠ [] := by
    rintro rfl
    cases tail
  have head : (history ++ [phase]).head? = history.head? := by
    cases history with
    | nil => exact absurd rfl nonempty
    | cons => rfl
  simp only [accepts, linked_concat tail, head, List.length_append, List.length_singleton,
    Bool.and_eq_true, decide_eq_true_eq]
  constructor
  · rintro ⟨⟨first, short⟩, chain, step⟩
    exact ⟨⟨⟨first, by omega⟩, chain⟩, by omega, step⟩
  · rintro ⟨⟨⟨first, _⟩, chain⟩, room, step⟩
    exact ⟨⟨first, by omega⟩, chain, step⟩

theorem accepts_getLast? (valid : rules.accepts history = true) : ∃ last, history.getLast? = some last := by
  cases history with
  | nil => simp [accepts] at valid
  | cons a rest => exact ⟨_, List.getLast?_eq_some_getLast (List.cons_ne_nil a rest)⟩

theorem accepts_length (valid : rules.accepts history = true) : history.length ≤ rules.limit := by
  simp only [accepts, Bool.and_eq_true, decide_eq_true_eq] at valid
  exact valid.1.2

/-- Induction along the growth of an accepted history. -/
theorem accepts_induction {P : List φ → Prop} (start : P [rules.first])
    (grow : ∀ history last phase, rules.accepts history = true → P history →
      history.getLast? = some last → rules.next last phase = true → P (history ++ [phase]))
    (valid : rules.accepts history = true) : P history := by
  induction history using List.reverseRecOn with
  | nil => simp [accepts] at valid
  | append_singleton before phase ih =>
      cases tail : before.getLast? with
      | none =>
          obtain rfl := List.getLast?_eq_none_iff.mp tail
          have begins : phase = rules.first := by
            simp only [accepts, List.nil_append, List.head?_cons, Bool.and_eq_true, beq_iff_eq,
              Option.some.injEq] at valid
            exact valid.1.1
          simpa [begins] using start
      | some last =>
          obtain ⟨valid', -, step⟩ := (accepts_concat_iff tail).mp valid
          exact grow before last phase valid' (ih valid') tail step

/-- A phase that nothing follows can only stand at the end. -/
theorem accepts_final (valid : rules.accepts history = true) (final : ∀ next, rules.next phase next = false)
    (member : phase ∈ history) : history.getLast? = some phase := by
  revert member
  refine accepts_induction (P := fun h => phase ∈ h → h.getLast? = some phase) ?_ ?_ valid
  · intro member
    simpa [eq_comm] using member
  · intro before last next _ ih tail step member
    rcases List.mem_append.mp member with earlier | here
    · obtain rfl : last = phase := Option.some.inj (tail.symm.trans (ih earlier))
      exact absurd step (by simp [final])
    · rw [List.mem_singleton] at here
      simp [here]

end HistoryRules

end Codebox.Support
