import Codebox.Session.Monotone
import Codebox.Support.Checked
import Mathlib.Order.Lattice
import Mathlib.Order.MinMax

/-! # How long the worker waits after a failed read

A read of the provider that fails is tried again after a delay that doubles with every failure in a
row, up to a bound. The worker keeps the number of failures in a counter that stops at the largest
`u32`, and asks for the delay of one failure more than the counter. That sum has nowhere to go once
the counter has stopped: the delay is the intended one exactly as long as the number of failures in a
row is itself a `u32`.
-/

namespace Codebox.Session

open Codebox.Support Codebox.Cloud

/-! ## The delay -/

namespace RuntimeState

variable {inner : Inner} {state : RuntimeState} {turn : TurnId} {now failures : Nat} {projected : P0CloudLifecycle}

theorem stopWorker_work (idle : state.work = none) (reason : P0RuntimeStopReason) :
    (stopWorker inner state reason).work = none := by
  cases stopped : state.workerStopped with
  | true =>
    rw [stopWorker_stopped stopped]
    exact idle
  | false => exact (stopWorker_running inner state stopped reason).work

theorem stopAfterLowerFailure_work (idle : state.work = none) :
    (stopAfterLowerFailure inner state turn).work = none := by
  rw [stopAfterLowerFailure]
  apply stopWorker_work
  exact idle

theorem degradeMonitoring_work (idle : state.work = none) :
    (degradeMonitoring inner now turn failures state).work = none ∨
    (degradeMonitoring inner now turn failures state).work = some (.monitor turn
      (now + backoff inner.config.pollInterval ((failures + 1) % 2 ^ 32))
      (min (failures + 1) maxFailures)) := by
  unfold degradeMonitoring
  split
  · dsimp only
    split
    · exact .inl (stopAfterLowerFailure_work idle)
    · exact .inr rfl
  · exact .inl (stopAfterLowerFailure_work idle)

theorem applyProjectedLifecycle_work {completed : Bool} {applied : RuntimeState} (idle : state.work = none)
    (shown : applyProjectedLifecycle state turn projected completed = .ok applied) : applied.work = none := by
  unfold applyProjectedLifecycle at shown
  split at shown
  · cases shown
  · split at shown
    · cases shown
    · obtain rfl := Except.ok.inj shown
      simp [idle]

theorem showThenStop_work {result : Except CloudLifecycleError P0CloudLifecycle}
    (idle : state.work = none) : (showThenStop inner turn result state).work = none := by
  unfold showThenStop
  apply stopWorker_work
  split
  · exact idle
  · split
    · rename_i applied _ shown
      rw [appendEvent_work]
      exact applyProjectedLifecycle_work idle shown
    · exact idle

/-- The worker has taken its work, and the read it did failed: it is left with nothing to do, or
with another read. -/
theorem handleMonitorResult_failed {error : CloudLifecycleError} (idle : state.work = none)
    (read : error.category = .providerRead) :
    (handleMonitorResult inner now turn failures (.error error) state).work = none ∨
    (handleMonitorResult inner now turn failures (.error error) state).work = some (.monitor turn
      (now + backoff inner.config.pollInterval ((failures + 1) % 2 ^ 32))
      (min (failures + 1) maxFailures)) := by
  unfold handleMonitorResult
  split
  · exact .inl rfl
  · split
    · exact .inl (showThenStop_work idle)
    · simp only [read, if_true]
      exact degradeMonitoring_work idle

end RuntimeState

/-! ## Failures in a row -/

/-- The work in the state was left by the last of so many failed reads in a row. While the worker
reads, the lock is given up and the rest of the state may become any other. -/
inductive FailedReads (inner : Inner) (turn : TurnId) : Nat → RuntimeState → Prop where
  | scheduled {state : RuntimeState} {due : Nat} (work : state.work = some (.monitor turn due 0)) :
      FailedReads inner turn 0 state
  | failed {count due failures : Nat} {earlier state : RuntimeState} {error : CloudLifecycleError}
      (now : Nat) (reads : FailedReads inner turn count earlier)
      (work : earlier.work = some (.monitor turn due failures)) (idle : state.work = none)
      (read : error.category = .providerRead) :
      FailedReads inner turn (count + 1)
        (state.handleMonitorResult inner now turn failures (.error error))

/-- The counter is the number of failures, as far as it goes. -/
theorem FailedReads.counter {inner : Inner} {turn : TurnId} {count due failures : Nat}
    {state : RuntimeState} (reads : FailedReads inner turn count state)
    (work : state.work = some (.monitor turn due failures)) : failures = min count maxFailures := by
  induction reads generalizing due failures with
  | scheduled started =>
    rw [started] at work
    obtain ⟨-, -, rfl⟩ := WorkerWork.monitor.inj (Option.some.inj work)
    rfl
  | failed now _ earlier idle read ih =>
    have before := ih earlier
    obtain none | again := RuntimeState.handleMonitorResult_failed idle read
    · rw [none] at work
      cases work
    · rw [again] at work
      obtain ⟨-, -, rfl⟩ := WorkerWork.monitor.inj (Option.some.inj work)
      omega

end Codebox.Session
