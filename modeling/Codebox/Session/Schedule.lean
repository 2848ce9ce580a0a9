import Codebox.Session.System

/-! # Schedules

A schedule names who takes the next step. From an orchestrator on an empty state directory it
leads to one state, and that state is reachable.
-/

namespace Codebox.Session

open Codebox.Support Codebox.Cloud

namespace Sys

/-- The runtime that a first process on an empty state directory builds. -/
def first (inner : Inner) (runner : CloudTaskRunner) (env : Nat → Answers) : Option Sys :=
  match fromRunner runner ⟨Host.fresh env, ⟨none, none, 0⟩⟩ with
  | (.ok (), process) => new inner process
  | (_, _) => none

/-- The state a schedule leads to. -/
def scheduled (inner : Inner) (runner : CloudTaskRunner) (env : Nat → Answers) (schedule : List Label) :
    Option Sys :=
  (first inner runner env).bind fun sys => (system inner runner env).run sys schedule

variable {inner : Inner} {runner : CloudTaskRunner} {env : Nat → Answers} {sys : Sys} {schedule : List Label}

theorem first_initial (built : first inner runner env = some sys) :
    (system inner runner env).initial sys := by
  unfold first at built
  split at built
  · rename_i process constructed
    have restarted : (Machine.system runner env).step (.down (Host.fresh env)) .restart =
        some (.up process none) := by
      simp only [Machine.system, Machine.step, constructed]
    exact ⟨process, .step (.initial rfl) trivial restarted, built⟩
  · cases built

theorem scheduled_reachable (ran : scheduled inner runner env schedule = some sys) :
    (system inner runner env).Reachable sys := by
  obtain ⟨start, built, ran⟩ := Option.bind_eq_some_iff.mp ran
  exact .run (.initial (first_initial built)) ran

/-- A schedule that ends in a state with a property shows that the property is reached. -/
theorem scheduled_any {property : Sys → Bool} (found : (scheduled inner runner env schedule).any property = true) :
    ∃ sys, (system inner runner env).Reachable sys ∧ property sys = true := by
  cases ran : scheduled inner runner env schedule with
  | none => simp [ran] at found
  | some sys => exact ⟨sys, scheduled_reachable ran, by simpa [ran] using found⟩

/-- A schedule each of whose steps passes a test keeps what the test says. -/
theorem scheduledIf_reach {guard : Sys → Label → Prop} {test : Sys → Label → Bool}
    (sound : ∀ sys label, test sys label = true → guard sys label)
    (ran : ((first inner runner env).bind fun sys => (system inner runner env).runIf test sys schedule) = some sys) :
    (system inner runner env).Reach guard sys := by
  obtain ⟨start, built, ran⟩ := Option.bind_eq_some_iff.mp ran
  exact .runIf (.initial (first_initial built)) sound ran

end Sys

end Codebox.Session
