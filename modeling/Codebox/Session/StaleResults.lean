import Codebox.Session.ControlRuns
import Codebox.Session.Schedule

/-! # Results for a turn that is no longer current

The worker gives the lock up during a lower call. When it comes back, another turn may be
current, and its step must not touch that turn. A running worker instead stops the runtime.
-/

namespace Codebox.Session

open Codebox.Support Codebox.Cloud

/-- The turn a worker is about to commit a step for. -/
def Worker.commits : Worker → Option TurnId
  | .claimed turn _ | .started turn _ | .monitored turn _ _ => some turn
  | .idle | .admitted _ _ | .submitting _ _ _ | .submitted _ _ _ | .monitoring _ _ | .canceling _ _
  | .canceled _ _ _ | .failing _ | .exited => none

/-- The worker is about to commit a start whose outcome is unknown. -/
def Worker.reportsUnknown : Worker → Bool
  | .started _ (.ok lifecycle) => lifecycle.isUnknown
  | _ => false

namespace RuntimeState

/-- A step that leaves the current turn, the queued work, the session state and the log alone and
does not stop the runtime. -/
structure Inert (rt rt' : RuntimeState) : Prop where
  currentTurn : rt'.currentTurn = rt.currentTurn
  work : rt'.work = rt.work
  sessionState : rt'.sessionState = rt.sessionState
  log : rt'.log = rt.log
  workerStopped : rt'.workerStopped = rt.workerStopped

variable {inner : Inner} {rt rt' : RuntimeState} {turn : TurnId}
  {result : Except CloudLifecycleError P0CloudLifecycle}

theorem Inert.refl (rt : RuntimeState) : Inert rt rt := ⟨rfl, rfl, rfl, rfl, rfl⟩

theorem Halted.not_inert {before : RuntimeState} {reason : P0RuntimeStopReason}
    (halted : Halted reason before rt') (up : rt.workerStopped = false) : ¬Inert rt rt' := by
  intro inert
  have stopped := halted.workerStopped
  rw [inert.workerStopped, up] at stopped
  cases stopped

/-- A failure for a turn that is not current stops a running runtime and nothing else. -/
theorem stopAfterLowerFailure_inert_iff (other : rt.turnNamed turn = none) :
    Inert rt (stopAfterLowerFailure inner rt turn) ↔ rt.workerStopped = true := by
  constructor
  · intro inert
    obtain stopped | up := rt.workerStopped.eq_false_or_eq_true
    · exact stopped
    · exact absurd inert ((stopAfterLowerFailure_running inner rt up turn).not_inert up)
  · intro stopped
    rw [stopAfterLowerFailure_stopped inner rt stopped other]
    exact .refl rt

theorem stopWorker_inert_iff (reason : P0RuntimeStopReason) :
    Inert rt (stopWorker inner rt reason) ↔ rt.workerStopped = true := by
  constructor
  · intro inert
    obtain stopped | up := rt.workerStopped.eq_false_or_eq_true
    · exact stopped
    · exact absurd inert ((stopWorker_running inner rt up reason).not_inert up)
  · intro stopped
    rw [stopWorker_stopped stopped]
    exact .refl rt

theorem admitStart_inert_iff (other : rt.turnNamed turn = none) :
    Inert rt (rt.admitStart inner turn).2 ↔ rt.workerStopped = true := by
  obtain ⟨-, stops⟩ | fails | ⟨record, -, current, same, -⟩ := admitStart_cases inner rt turn
  · rw [stops]
    exact stopWorker_inert_iff .shutdown
  · rw [fails]
    exact stopAfterLowerFailure_inert_iff other
  · exact absurd same (turnNamed_eq_none.mp other record current)

/-- Only an unknown outcome makes a stopped runtime change its session state. -/
theorem handleStartResult_inert_iff {now : Nat} (other : rt.turnNamed turn = none)
    (session : rt.workerStopped = true → rt.sessionState = .stopped) :
    Inert rt (rt.handleStartResult inner now turn result).2 ↔
      rt.workerStopped = true ∧ (Worker.started turn result).reportsUnknown = false := by
  cases result with
  | error error =>
      rw [handleStartResult_error]
      simp only [Worker.reportsUnknown, and_true]
      exact stopAfterLowerFailure_inert_iff other
  | ok projected =>
      obtain fails | ⟨record, current, same, -⟩ := handleStartResult_ok inner rt now turn projected
      · rw [fails, latchUnknown, Worker.reportsUnknown]
        cases projected.isUnknown with
        | false =>
            simp only [Bool.false_eq_true, if_false, and_true]
            exact stopAfterLowerFailure_inert_iff other
        | true =>
            simp only [if_true, Bool.true_eq_false, and_false, iff_false]
            intro inert
            obtain stopped | up := rt.workerStopped.eq_false_or_eq_true
            · rw [stopAfterLowerFailure_stopped inner { rt with sessionState := .recoveryRequired } stopped other]
                at inert
              have same := inert.sessionState
              rw [session stopped] at same
              cases same
            · exact (stopAfterLowerFailure_running inner { rt with sessionState := .recoveryRequired } up turn).not_inert
                up inert
      · exact absurd same (turnNamed_eq_none.mp other record current)

theorem handleMonitorResult_inert_iff {now failures : Nat} (other : rt.turnNamed turn = none)
    (bare : rt.currentLifecycle = none) :
    Inert rt (rt.handleMonitorResult inner now turn failures result) ↔ rt.workerStopped = true := by
  obtain ⟨shown, shows, -⟩ | ⟨-, ⟨-, stops⟩ | ⟨-, ⟨projected, rfl, shows⟩ | ⟨error, rfl, degrades⟩ | fails⟩⟩ :=
    handleMonitorResult_cases inner rt now failures turn result
  · rw [bare] at shows
    cases shows
  · rw [stops]
    obtain stopped | ⟨record, projected, -, current, same, -⟩ := showThenStop_cases inner rt turn result
    · rw [stopped]
      exact stopWorker_inert_iff .shutdown
    · exact absurd same (turnNamed_eq_none.mp other record current)
  · rw [shows]
    obtain fails | ⟨record, current, same, -⟩ := showInspected_cases inner rt now turn projected
    · rw [fails]
      exact stopAfterLowerFailure_inert_iff other
    · exact absurd same (turnNamed_eq_none.mp other record current)
  · rw [degrades]
    obtain fails | ⟨record, pending, -, current, shown, -⟩ := degradeMonitoring_cases inner rt now failures turn
    · rw [fails]
      exact stopAfterLowerFailure_inert_iff other
    · rw [currentLifecycle, current] at bare
      exact absurd (bare.symm.trans shown) (by simp)
  · rw [fails]
    exact stopAfterLowerFailure_inert_iff other

end RuntimeState

namespace Sys

variable {inner : Inner} {runner : CloudTaskRunner} {env : Nat → Answers} {sys sys' : Sys}

/-- A step committed for a turn that is no longer current leaves the new turn alone exactly if the
runtime had stopped before and the step does not report an unknown start. -/
theorem stale_result_inert_iff {turn : TurnId} {record : TurnRecord}
    (reachable : (system inner runner env).Reachable sys) (commits : sys.worker.commits = some turn)
    (current : sys.runtime.currentTurn = some record) (other : record.turnId ≠ turn)
    (stepped : (system inner runner env).step sys .worker = some sys') :
    sys.runtime.Inert sys'.runtime ↔
      sys.runtime.workerStopped = true ∧ sys.worker.reportsUnknown = false := by
  have control := controlled_reachable reachable
  unfold Controlled at control
  have missing : sys.runtime.turnNamed turn = none := RuntimeState.turnNamed_eq_none.mpr fun record' current' => by
    cases current.symm.trans current'
    exact other
  have stepped : sys.stepWorker inner runner sys.worker = some sys' := stepped
  cases worker : sys.worker with
  | claimed turn' prompt =>
      rw [worker] at commits stepped
      cases commits
      rw [stepWorker_claimed] at stepped
      cases Option.some.inj stepped
      simp only [Worker.reportsUnknown, and_true]
      exact RuntimeState.admitStart_inert_iff missing
  | started turn' result =>
      rw [worker] at commits stepped control
      cases commits
      rw [stepWorker_started] at stepped
      cases Option.some.inj stepped
      exact RuntimeState.handleStartResult_inert_iff missing fun stopped =>
        (control.worker.stopped _ record rfl current stopped).1
  | monitored turn' failures result =>
      rw [worker] at commits stepped control
      cases commits
      cases Option.some.inj stepped
      simp only [Worker.reportsUnknown, and_true]
      have unclaimed := control.worker.replaced _ record rfl current other
      apply RuntimeState.handleMonitorResult_inert_iff missing
      rw [RuntimeState.currentLifecycle, current]
      exact unclaimed.lifecycle
  | _ =>
      rw [worker] at commits
      cases commits

end Sys

/-! ## A start result that arrives late

An operator cancels while the start result is on its way: the canceled task makes the session
ready, the next turn is accepted, and then the worker commits the start of the turn before.
-/

/-- A configuration, and a provider that names a task for every submit. -/
def plainInner : Inner := ⟨.default, ⟨1, 1⟩⟩

def plainRunner : CloudTaskRunner := ⟨⟨[]⟩, ⟨[]⟩⟩

def plainAnswers : Answers where
  execOutput := some ⟨"task_1".toList, by decide⟩

/-- A turn whose task is canceled before its start result is committed. -/
def canceledEarly : List Label :=
  [.startTurn ⟨['p']⟩, .worker, .worker, .worker, .worker, .worker, .cancelTurn 0 .operator, .call 0, .call 0]

theorem late_start_result_stops_next_turn :
    ∃ sys sys' : Sys, (Sys.system plainInner plainRunner fun _ => plainAnswers).Reachable sys ∧
      sys.worker.commits = some 2 ∧
      sys.runtime.currentTurn = some { turnId := 3, projection := .queued } ∧
      (Sys.system plainInner plainRunner fun _ => plainAnswers).step sys .worker = some sys' ∧
      sys.runtime.workerStopped = false ∧ sys'.runtime.workerStopped = true ∧
      ¬sys.runtime.Inert sys'.runtime := by
  have ran : Sys.scheduled plainInner plainRunner (fun _ => plainAnswers)
      (canceledEarly ++ [.startTurn ⟨['q']⟩]) = some _ := rfl
  refine ⟨_, _, Sys.scheduled_reachable ran, rfl, rfl, rfl, rfl, rfl, ?_⟩
  intro inert
  exact absurd inert.workerStopped (by decide)

/-- After a shutdown the late result is ignored. -/
theorem late_start_result_ignored_after_stop :
    ∃ sys sys' : Sys, (Sys.system plainInner plainRunner fun _ => plainAnswers).Reachable sys ∧
      sys.worker.commits = some 2 ∧
      (Sys.system plainInner plainRunner fun _ => plainAnswers).step sys .worker = some sys' ∧
      sys.runtime.Inert sys'.runtime := by
  have ran : Sys.scheduled plainInner plainRunner (fun _ => plainAnswers)
      (canceledEarly ++ [.startTurn ⟨['q']⟩, .shutdown 1]) = some _ := rfl
  have reachable := Sys.scheduled_reachable ran
  refine ⟨_, _, reachable, rfl, rfl, ?_⟩
  exact (Sys.stale_result_inert_iff reachable rfl rfl (by decide) rfl).mpr ⟨rfl, rfl⟩

end Codebox.Session
