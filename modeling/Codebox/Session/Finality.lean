import Codebox.Cloud.Recovery
import Codebox.Session.Feed
import Codebox.Session.StaleResults

/-! # Nothing follows the stop

`RuntimeStopped` is meant to be the last event of a session. The worker and most commands look at
the stop before they publish; a reconciliation that comes back from the orchestrator and a shutdown
that meets a queued turn do not.
-/

namespace Codebox.Session

open Codebox.Support Codebox.Cloud

namespace RuntimeState

/-- Only the last event may report the stop, and it does so only if the runtime stopped. -/
structure StopsLast (rt : RuntimeState) : Prop where
  last : ∀ event ∈ rt.log.dropLast, event.payload.isStop = false
  stopped : ∀ event ∈ rt.log, event.payload.isStop = true → rt.workerStopped = true

namespace StopsLast

variable {inner : Inner} {rt rt' : RuntimeState}

theorem keep (ends : StopsLast rt) (log : rt'.log = rt.log)
    (stays : rt.workerStopped = true → rt'.workerStopped = true) : StopsLast rt' := by
  constructor
  · rw [log]
    exact ends.last
  · intro event logged stop
    rw [log] at logged
    exact stays (ends.stopped event logged stop)

theorem running (ends : StopsLast rt) (up : rt.workerStopped = false) :
    ∀ event ∈ rt.log, event.payload.isStop = false := by
  intro event logged
  rw [Bool.eq_false_iff]
  intro stop
  cases up.symm.trans (ends.stopped event logged stop)

/-- Whatever a running runtime appends, only that event may be the stop. -/
theorem extend {event : P0SessionEventEnvelope} (ends : StopsLast rt) (up : rt.workerStopped = false)
    (log : rt'.log = rt.log ++ [event]) (stays : event.payload.isStop = true → rt'.workerStopped = true) :
    StopsLast rt' := by
  constructor
  · rw [log, List.dropLast_concat]
    exact ends.running up
  · intro other logged stop
    rw [log, List.mem_append, List.mem_singleton] at logged
    obtain earlier | rfl := logged
    · rw [ends.running up other earlier] at stop
      cases stop
    · exact stays stop

theorem publishes (published : Publishes True inner rt rt') (ends : StopsLast rt) : StopsLast rt' := by
  induction published with
  | quiet same stays => exact ends.keep (congrArg Feed.log same) stays
  | append about payload room up going =>
      apply ends.extend (up trivial) rfl
      intro stop
      cases going.symm.trans stop
  | stop about reason room up reported stopped =>
      exact ends.extend (up trivial) (congrArg Feed.log reported) fun _ => stopped
  | stopSilently closed stopped => exact ends.keep (congrArg Feed.log closed) fun _ => stopped
  | trans _ _ first second => exact second (first ends)

end StopsLast

end RuntimeState

namespace Sys

variable {inner : Inner} {runner : CloudTaskRunner} {env : Nat → Answers} {sys sys' : Sys} {process : Process}

/-- A new session has published nothing. -/
theorem build_feed {result : Except CloudLifecycleError CloudLifecycle}
    (built : Sys.build inner process result = some sys) : sys.runtime.feed = ⟨0, [], [], 1, []⟩ := by
  obtain ⟨rt, starts, begun, rfl⟩ := build_cases built
  obtain rfl | ⟨lifecycle, work, -, -, -, rfl⟩ := initialState_cases begun
  · rfl
  · rfl

theorem new_feed (built : Sys.new inner process = some sys) : sys.runtime.feed = ⟨0, [], [], 1, []⟩ := by
  obtain ⟨process', result, built, -⟩ := build_of_new built
  exact build_feed built

theorem stopsLast_step {label : Label} (control : sys.Controlled) (orderly : sys.Orderly label)
    (ends : sys.runtime.StopsLast) (stepped : sys.step inner runner label = some sys') :
    sys'.runtime.StopsLast := by
  cases command : label.isSubscriber with
  | false => exact ends.publishes (step_publishes (fun _ => control) (fun _ => orderly) command stepped)
  | true =>
      cases label with
      | subscribe session afterSeq =>
          cases Option.some.inj stepped
          apply ends.keep
          · exact RuntimeState.subscribe_log inner sys.runtime session afterSeq
          · rw [(RuntimeState.subscribe_quiet inner sys.runtime session afterSeq).workerStopped]
            exact id
      | receive subscriber | dropReceiver subscriber =>
          cases Option.some.inj stepped
          exact ends.keep rfl id
      | _ => cases command

theorem stopsLast_reach (reach : (system inner runner env).Reach Orderly sys) : sys.runtime.StopsLast := by
  apply reach.invariant
  · rintro sys ⟨process, -, built⟩
    have empty : sys.runtime.log = [] := congrArg Feed.log (new_feed built)
    constructor <;> simp [empty]
  · intro sys label sys' before ends orderly stepped
    exact stopsLast_step (controlled_reachable before.reachable) orderly ends stepped

/-- In a run whose steps are orderly, nothing is ever appended after the report of the stop, and the
stop is reported once. -/
theorem stop_is_final {before after : List P0SessionEventEnvelope} {event : P0SessionEventEnvelope}
    (reach : (system inner runner env).Reach Orderly sys)
    (logged : sys.runtime.log = before ++ event :: after) (stop : event.payload.isStop = true) :
    after = [] ∧ ∀ other ∈ before, other.payload.isStop = false := by
  have ends := stopsLast_reach reach
  have last : after = [] := by
    by_contra more
    have inside : event ∈ sys.runtime.log.dropLast := by
      rw [logged, List.dropLast_append_of_ne_nil (by simp), List.dropLast_cons_of_ne_nil more]
      simp
    rw [ends.last event inside] at stop
    cases stop
  subst last
  refine ⟨rfl, fun other earlier => ends.last other ?_⟩
  rw [logged, List.dropLast_concat]
  exact earlier

end Sys

/-! ## A reconciliation that comes back after the stop

The submit named no task, so the turn asks for recovery. A reconciliation has its answer from the
orchestrator when the session is shut down, and publishes it afterwards.
-/

/-- A turn of unknown outcome and a reconciliation that has been answered. -/
def answeredReconciliation : List Label :=
  [.startTurn ⟨['p']⟩, .worker, .worker, .worker, .worker, .worker, .worker, .reconcileUnknown 0 .operator, .call 0]

theorem reconciliation_follows_stop :
    ∃ sys : Sys, (Sys.system plainInner plainRunner fun _ => namelessSubmit).Reachable sys ∧
      sys.runtime.log.map (·.payload) = [.turnAccepted, .lifecycleChanged (.outcomeUnknown ⟨1, by decide⟩),
        .runtimeStopped .shutdown, .recoveryObserved .operator ⟨⟨1, by decide⟩, [], true⟩] := by
  have found : (Sys.scheduled plainInner plainRunner (fun _ => namelessSubmit)
      (answeredReconciliation ++ [.shutdown 1, .worker, .call 0])).any (fun sys =>
        sys.runtime.log.map (·.payload) == [.turnAccepted, .lifecycleChanged (.outcomeUnknown ⟨1, by decide⟩),
          .runtimeStopped .shutdown, .recoveryObserved .operator ⟨⟨1, by decide⟩, [], true⟩]) = true := by
    decide +kernel
  obtain ⟨sys, reachable, log⟩ := Sys.scheduled_any found
  exact ⟨sys, reachable, by simpa using log⟩

/-- A queued turn that a shutdown stops is the plain case. -/
theorem shutdown_of_queued_turn_is_final :
    ∃ (sys : Sys) (before : List P0SessionEventEnvelope) (event : P0SessionEventEnvelope),
      (Sys.system plainInner plainRunner fun _ => plainAnswers).Reach Sys.Orderly sys ∧
      sys.runtime.log = before ++ [event] ∧ event.payload = .runtimeStopped .shutdown ∧
      ∀ other ∈ before, other.payload.isStop = false := by
  have ran : Sys.first plainInner plainRunner (fun _ => plainAnswers) = some _ := rfl
  have queued : (Sys.system plainInner plainRunner fun _ => plainAnswers).Reach Sys.Orderly _ :=
    .step (.initial (Sys.first_initial ran)) (l := .startTurn ⟨['p']⟩) trivial rfl
  have stopped : (Sys.system plainInner plainRunner fun _ => plainAnswers).Reach Sys.Orderly _ :=
    .step queued (l := .shutdown 0) (fun already => by cases already) rfl
  refine ⟨_, [_], _, stopped, rfl, rfl, ?_⟩
  exact (Sys.stop_is_final stopped rfl rfl).2

end Codebox.Session
