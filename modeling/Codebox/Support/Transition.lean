import Mathlib.Logic.Basic

/-! # Guarded runs of a transition system

A system has initial states and a partial step for each label. A guard speaks about the
state before a step and the label taken; the states reached by runs whose every step
meets the guard are the subject of the invariance rule. The trivial guard gives plain
reachability.
-/

namespace Codebox.Support

structure System (σ lab : Type) where
  initial : σ → Prop
  step : σ → lab → Option σ

namespace System

variable {σ lab : Type} {sys : System σ lab} {guard guard' : σ → lab → Prop} {ls : List lab} {s : σ}

/-- The states reached by a run each of whose steps meets `guard`. -/
inductive Reach (sys : System σ lab) (guard : σ → lab → Prop) : σ → Prop where
  | initial {s : σ} : sys.initial s → Reach sys guard s
  | step {s s' : σ} {l : lab} : Reach sys guard s → guard s l → sys.step s l = some s' →
      Reach sys guard s'

/-- Reachability with no condition on the steps. -/
def Reachable (sys : System σ lab) : σ → Prop := Reach sys fun _ _ => True

theorem Reach.mono (reach : Reach sys guard s) (weaker : ∀ s l, guard s l → guard' s l) : Reach sys guard' s := by
  induction reach with
  | initial start => exact .initial start
  | step _ allowed stepped ih => exact .step ih (weaker _ _ allowed) stepped

theorem Reach.reachable (reach : Reach sys guard s) : Reachable sys s :=
  reach.mono fun _ _ _ => trivial

/-- The invariance rule. The step case may also use that the state before is reachable. -/
theorem Reach.invariant {inv : σ → Prop} (reach : Reach sys guard s) (start : ∀ s, sys.initial s → inv s)
    (keep : ∀ s l s', Reach sys guard s → inv s → guard s l → sys.step s l = some s' → inv s') : inv s := by
  induction reach with
  | initial begins => exact start _ begins
  | step before allowed stepped ih => exact keep _ _ _ before ih allowed stepped

/-- Take the steps of a schedule in order. -/
def run (sys : System σ lab) : σ → List lab → Option σ
  | s, [] => some s
  | s, l :: ls => (sys.step s l).bind fun s' => run sys s' ls

/-- A schedule of labels that the guard never refuses. -/
theorem Reach.run {s' : σ} (reach : Reach sys guard s) (free : ∀ l ∈ ls, ∀ s, guard s l)
    (ran : sys.run s ls = some s') : Reach sys guard s' := by
  induction ls generalizing s with
  | nil =>
      cases ran
      exact reach
  | cons l ls ih =>
      obtain ⟨next, stepped, rest⟩ := Option.bind_eq_some_iff.mp ran
      apply ih (.step reach (free l (List.mem_cons_self ..) s) stepped) _ rest
      exact fun later inside => free later (List.mem_cons_of_mem l inside)

theorem Reachable.run {s' : σ} (reach : Reachable sys s) (ran : sys.run s ls = some s') : Reachable sys s' :=
  Reach.run reach (fun _ _ _ => trivial) ran

/-- Take the steps of a schedule as long as they pass a test. -/
def runIf (sys : System σ lab) (test : σ → lab → Bool) : σ → List lab → Option σ
  | s, [] => some s
  | s, l :: ls => if test s l then (sys.step s l).bind fun s' => runIf sys test s' ls else none

theorem Reach.runIf {test : σ → lab → Bool} {s' : σ} (reach : Reach sys guard s)
    (sound : ∀ s l, test s l = true → guard s l) (ran : sys.runIf test s ls = some s') : Reach sys guard s' := by
  induction ls generalizing s with
  | nil =>
      cases ran
      exact reach
  | cons l ls ih =>
      unfold System.runIf at ran
      split at ran
      · rename_i passed
        obtain ⟨next, stepped, rest⟩ := Option.bind_eq_some_iff.mp ran
        exact ih (.step reach (sound s l passed) stepped) rest
      · cases ran

end System

end Codebox.Support
