import Codebox.Cloud.Recovery
import Codebox.Session.Feed

/-! # Joining the worker

`shutdown` latches the request under the lock of the state and takes the thread's handle under
another. Whoever takes the handle waits for the thread. A second caller finds no handle and returns
at once, so its answer means an exited worker only when the first one no longer waits.
-/

namespace Codebox.Session

open Codebox.Support Codebox.Cloud

namespace RuntimeState

variable {rt rt' : RuntimeState}

/-- The session state of a stopped runtime. -/
def Settled (rt : RuntimeState) : Prop := rt.workerStopped = true → rt.sessionState = .stopped

theorem Rests.settled (rests : Rests rt rt') (settled : rt.Settled) : rt'.Settled := by
  intro stopped'
  obtain stopped | up := rt.workerStopped.eq_false_or_eq_true
  · rcases (rests.stays stopped).2 with same | same
    · exact same.trans (settled stopped)
    · exact same
  · exact rests.stops up stopped'

end RuntimeState

namespace Sys

variable {inner : Inner} {runner : CloudTaskRunner} {env : Nat → Answers} {sys sys' : Sys} {label : Label} {i : Nat}

/-! ## Callers of shutdown -/

/-- A shutdown finds no handle only when nobody waits for the thread any more, and no unknown start
is committed to a runtime that has stopped. -/
def JoinsAlone (sys : Sys) : Label → Prop
  | .call i => sys.callers i = .shuttingDown → sys.handle = false → ∀ j, sys.callers j ≠ .joining
  | .worker => sys.worker.reportsUnknown = true → sys.runtime.workerStopped = false
  | .startTurn _ | .cancelTurn _ _ | .reconcileUnknown _ _ | .resolveUnknown _ _ _ _ | .shutdown _
  | .subscribe _ _ | .receive _ | .dropReceiver _ | .elapse _ => True

/-- A step that is none of the last two of a shutdown. -/
structure Aside (sys sys' : Sys) : Prop where
  worker : sys.worker = .exited → sys'.worker = .exited
  handle : sys'.handle = sys.handle
  joining : ∀ i, sys.callers i = .joining → sys'.callers i = .joining
  returned : ∀ i, sys'.callers i = .returned (.ok .joined) → sys.callers i = .returned (.ok .joined)

theorem Aside.callers (worker : sys.worker = .exited → sys'.worker = .exited)
    (handle : sys'.handle = sys.handle) (callers : sys'.callers = sys.callers) : Aside sys sys' :=
  ⟨worker, handle, fun _ waits => callers ▸ waits, fun _ done => callers ▸ done⟩

theorem Aside.set {next : Caller} (worker : sys'.worker = sys.worker) (handle : sys'.handle = sys.handle)
    (callers : sys'.callers = Function.update sys.callers i next) (other : sys.callers i ≠ .joining)
    (pending : next ≠ .returned (.ok .joined)) : Aside sys sys' := by
  refine ⟨fun exited => worker.trans exited, handle, fun j waits => ?_, fun j done => ?_⟩
  · rw [callers, Function.update_of_ne]
    · exact waits
    · rintro rfl
      exact other waits
  · rw [callers] at done
    by_cases same : j = i
    · subst same
      rw [Function.update_self] at done
      exact absurd done pending
    · rwa [Function.update_of_ne same] at done

theorem map_snapshot_ne (result : Except P0SessionError P0SessionSnapshot) :
    Caller.returned (result.map .snapshot) ≠ .returned (.ok .joined) := by
  cases result <;> simp [Except.map]

theorem map_candidates_ne (result : Except P0SessionError P0RecoveryCandidates) :
    Caller.returned (result.map .candidates) ≠ .returned (.ok .joined) := by
  cases result <;> simp [Except.map]

theorem stepCancel_aside {turn : TurnId} {pending : Bool} {deadline : Nat} {stage : CancelStage}
    (other : sys.callers i ≠ .joining) (stepped : sys.stepCancel inner i turn pending deadline stage = some sys') :
    Aside sys sys' := by
  cases stage with
  | calling =>
      rw [stepCancel] at stepped
      obtain ⟨result, process, -, rfl⟩ := resume_returned stepped
      exact .set rfl rfl rfl other (by simp)
  | answered lifecycle =>
      cases Option.some.inj stepped
      exact .set rfl rfl rfl other (map_snapshot_ne _)
  | failed error =>
      cases Option.some.inj stepped
      exact .set rfl rfl rfl other (by simp)
  | polling =>
      cases Option.some.inj stepped
      split
      · exact .set rfl rfl rfl other (by simp)
      · exact .set rfl rfl rfl other (by simp)
  | givingUp error =>
      cases Option.some.inj stepped
      refine .set rfl rfl rfl other ?_
      split <;> simp

/-- The last two sections of a shutdown, and everything else. -/
inductive Joins (sys : Sys) : Label → Sys → Prop where
  | take {i : Nat} (asks : sys.callers i = .shuttingDown) (handle : sys.handle = true) :
      Joins sys (.call i) ({ sys with handle := false }.setCaller i .joining)
  | pass {i : Nat} (asks : sys.callers i = .shuttingDown) (taken : sys.handle = false) :
      Joins sys (.call i) (sys.setCaller i (.returned (.ok .joined)))
  | join {i : Nat} (waits : sys.callers i = .joining) (exited : sys.worker = .exited) :
      Joins sys (.call i) (sys.setCaller i (.returned (.ok .joined)))
  | aside {label : Label} {sys' : Sys} (aside : Aside sys sys') : Joins sys label sys'

theorem stepCaller_joins (stepped : sys.stepCaller inner runner i (sys.callers i) = some sys') :
    Joins sys (.call i) sys' := by
  cases caller : sys.callers i with
  | idle | returned => simp [caller, stepCaller] at stepped
  | observing =>
      rw [caller] at stepped
      cases Option.some.inj stepped
      exact .aside (.set rfl rfl rfl (by simp [caller]) (by simp))
  | canceling turn pending deadline stage =>
      rw [caller] at stepped
      exact .aside (stepCancel_aside (by simp [caller]) stepped)
  | reconciling actor expected | resolving actor op decision =>
      rw [caller, stepCaller] at stepped
      obtain ⟨result, process, -, rfl⟩ := resume_returned stepped
      exact .aside (.set rfl rfl rfl (by simp [caller]) (by simp))
  | reconciled actor expected result =>
      rw [caller] at stepped
      cases Option.some.inj stepped
      cases result with
      | error error => exact .aside (.set rfl rfl rfl (by simp [caller]) (by simp))
      | ok found =>
          simp only [finishReconcile]
          split
          · exact .aside (.set rfl rfl rfl (by simp [caller]) (by simp))
          · exact .aside (.set rfl rfl rfl (by simp [caller]) (map_candidates_ne _))
  | resolved actor op decision result =>
      rw [caller] at stepped
      cases Option.some.inj stepped
      cases result with
      | error error => exact .aside (.set rfl rfl rfl (by simp [caller]) (by simp))
      | ok projected =>
          simp only [finishResolve]
          split
          · exact .aside (.set rfl rfl rfl (by simp [caller]) (by simp))
          · exact .aside (.set rfl rfl rfl (by simp [caller]) (map_snapshot_ne _))
  | shuttingDown =>
      simp only [caller, stepCaller] at stepped
      split at stepped
      · rename_i handle
        cases stepped
        exact .take caller handle
      · rename_i taken
        cases stepped
        exact .pass caller (eq_false_of_ne_true taken)
  | joining =>
      simp only [caller, stepCaller] at stepped
      split at stepped
      · rename_i exited
        cases stepped
        exact .join caller exited
      · cases stepped

theorem stepWorker_joins (stepped : sys.stepWorker inner runner sys.worker = some sys') :
    Joins sys .worker sys' := by
  have awake : sys.worker ≠ .exited := by
    intro exited
    rw [exited] at stepped
    cases stepped
  cases stepWorker_moves stepped with
  | advance handle next command => exact absurd rfl command
  | _ => exact .aside (.callers (fun exited => absurd exited awake) rfl rfl)

theorem step_joins (stepped : sys.step inner runner label = some sys') : Joins sys label sys' := by
  cases label with
  | startTurn prompt | subscribe session afterSeq | receive subscriber | dropReceiver subscriber | elapse duration =>
      cases Option.some.inj stepped
      exact .aside (.callers id rfl rfl)
  | cancelTurn caller actor =>
      obtain ⟨idle, rfl⟩ := enter_eq_some stepped
      refine .aside (.set rfl rfl rfl (by simp [idle]) ?_)
      unfold afterEntry
      split <;> simp
  | reconcileUnknown caller actor | resolveUnknown caller actor op decision =>
      obtain ⟨idle, rfl⟩ := enter_eq_some stepped
      refine .aside (.set rfl rfl rfl (by simp [idle]) ?_)
      split <;> simp
  | shutdown caller =>
      obtain ⟨idle, rfl⟩ := enter_eq_some stepped
      refine .aside (.set rfl rfl rfl (by simp [idle]) ?_)
      unfold afterRequest
      split <;> simp
  | call caller => exact stepCaller_joins stepped
  | worker => exact stepWorker_joins stepped

/-! ## The worker's exit -/

/-- Every section rests a stopped runtime. -/
theorem step_rests (control : sys.Controlled) (guard : sys.JoinsAlone label)
    (stepped : sys.step inner runner label = some sys') : sys.runtime.Rests sys'.runtime := by
  have anything : sys.Holds fun _ _ => True := ⟨fun _ _ _ => trivial, fun _ _ _ _ => trivial⟩
  cases command : label.isSubscriber with
  | false =>
      have writes : RuntimeState.Writes False True _ inner sys.runtime sys'.runtime :=
        step_writes (fun _ => control) False.elim (by rintro - rfl; exact guard) anything command stepped
      exact writes.rests trivial
  | true =>
      have quiet : RuntimeState.Quiet sys.runtime sys'.runtime := by
        cases label with
        | subscribe session afterSeq =>
            cases Option.some.inj stepped
            exact RuntimeState.subscribe_quiet ..
        | receive subscriber =>
            cases Option.some.inj stepped
            exact RuntimeState.receive_quiet ..
        | dropReceiver subscriber =>
            cases Option.some.inj stepped
            exact RuntimeState.dropReceiver_quiet ..
        | _ => cases command
      exact .same quiet.workerStopped quiet.sessionState

/-- The worker exits from a stopped runtime. -/
theorem step_exits (stepped : sys.step inner runner label = some sys') (exited : sys'.worker = .exited) :
    sys.worker = .exited ∨ sys'.runtime.workerStopped = true := by
  cases step_moves stepped with
  | nextAction worker taken =>
      obtain ⟨-, rfl, rfl⟩ | ⟨record, -, -, -, rfl, -⟩ | ⟨record, prompt, -, -, -, rfl, -⟩ | ⟨turn, prompt, -, -, rfl⟩ |
        ⟨turn, due, failures, -, -, rfl, -⟩ := RuntimeState.nextWorkerAction_cases taken
      · exact .inr (RuntimeState.stopWorker_stops inner sys.runtime .shutdown)
      · cases exited
      · cases exited
      · exact .inr (RuntimeState.stopWorker_stops inner _ .lowerFailure)
      · cases exited
  | admitStart worker | startResult worker | workerDrop worker refused =>
      dsimp only at exited
      split at exited <;> cases exited
  | startBegin worker ran | startSubmit worker ran =>
      rename_i result _
      cases result <;> cases exited
  | workerPass worker ran =>
      rename_i result _
      rcases result with _ | _ | _ <;> cases exited
  | startCommit | inspect | monitorResult | workerCommit | workerFail => cases exited
  | _ => exact .inl exited

/-- What a shutdown can rely on. -/
structure Joined (sys : Sys) : Prop where
  settled : sys.runtime.Settled
  exited : sys.worker = .exited → sys.runtime.workerStopped = true
  handle : sys.handle = false → sys.worker = .exited ∨ ∃ i, sys.callers i = .joining
  returned : ∀ i, sys.callers i = .returned (.ok .joined) → sys.worker = .exited

theorem Joined.threads (joined : sys.Joined) (guard : sys.JoinsAlone label) (joins : Joins sys label sys') :
    (sys'.handle = false → sys'.worker = .exited ∨ ∃ i, sys'.callers i = .joining) ∧
      ∀ i, sys'.callers i = .returned (.ok .joined) → sys'.worker = .exited := by
  -- a caller that returns from a shutdown leaves the others as they are
  have leaves : ∀ i, sys.worker = .exited →
      (sys.handle = false → (sys.setCaller i (.returned (.ok .joined))).worker = .exited ∨
        ∃ j, (sys.setCaller i (.returned (.ok .joined))).callers j = .joining) ∧
      ∀ j, (sys.setCaller i (.returned (.ok .joined))).callers j = .returned (.ok .joined) →
        (sys.setCaller i (.returned (.ok .joined))).worker = .exited :=
    fun _ exited => ⟨fun _ => .inl exited, fun _ _ => exited⟩
  cases joins with
  | take asks handle =>
      rename_i i
      refine ⟨fun _ => .inr ⟨i, Function.update_self ..⟩, fun j done => ?_⟩
      by_cases same : j = i
      · subst same
        have waits : Function.update sys.callers j Caller.joining j = .returned (.ok .joined) := done
        rw [Function.update_self] at waits
        cases waits
      · have before : Function.update sys.callers i Caller.joining j = .returned (.ok .joined) := done
        rw [Function.update_of_ne same] at before
        exact joined.returned j before
  | pass asks taken =>
      rename_i i
      apply leaves i
      rcases joined.handle taken with exited | ⟨j, waits⟩
      · exact exited
      · exact absurd waits (guard asks taken j)
  | join waits exited =>
      rename_i i
      exact leaves i exited
  | aside aside =>
      constructor
      · intro taken
        rcases joined.handle (aside.handle ▸ taken) with exited | ⟨i, waits⟩
        · exact .inl (aside.worker exited)
        · exact .inr ⟨i, aside.joining i waits⟩
      · intro i done
        exact aside.worker (joined.returned i (aside.returned i done))

theorem Joined.step (joined : sys.Joined) (control : sys.Controlled) (guard : sys.JoinsAlone label)
    (stepped : sys.step inner runner label = some sys') : sys'.Joined := by
  have rests := step_rests control guard stepped
  obtain ⟨handle, returned⟩ := joined.threads guard (step_joins stepped)
  refine ⟨rests.settled joined.settled, fun exited => ?_, handle, returned⟩
  rcases step_exits stepped exited with before | stopped
  · exact (rests.stays (joined.exited before)).1
  · exact stopped

theorem joined_build {process : Process} {result : Except CloudLifecycleError CloudLifecycle}
    (built : build inner process result = some sys) : sys.Joined := by
  obtain ⟨rt, starts, begun, rfl⟩ := build_cases built
  have up : rt.workerStopped = false := by
    obtain rfl | ⟨lifecycle, work, -, -, -, rfl⟩ := initialState_cases begun
    · rfl
    · rfl
  refine ⟨fun stopped => ?_, ?_, ?_, ?_⟩
  · cases up.symm.trans stopped
  · simp
  · simp
  · simp

theorem joined_reach (reach : (system inner runner env).Reach JoinsAlone sys) : sys.Joined := by
  apply reach.invariant
  · rintro sys ⟨process, -, built⟩
    obtain ⟨process', result, built, -⟩ := build_of_new built
    exact joined_build built
  · intro sys label sys' before joined guard stepped
    exact joined.step (controlled_reachable before.reachable) guard stepped

/-- A shutdown that returns has joined the worker: its thread has exited, so none of its lower calls
is running, and the session is stopped. -/
theorem shutdown_joins {i : Nat} (reach : (system inner runner env).Reach JoinsAlone sys)
    (returned : sys.callers i = .returned (.ok .joined)) :
    sys.worker = .exited ∧ sys.worker.callsLower = false ∧ sys.runtime.sessionState = .stopped := by
  have joined := joined_reach reach
  have exited := joined.returned i returned
  exact ⟨exited, by rw [exited]; rfl, joined.settled (joined.exited exited)⟩

end Sys

/-! ## Two shutdowns at once, and a start that nobody waited for -/

def Caller.hasJoined : Caller → Bool
  | .returned (.ok .joined) => true
  | _ => false

theorem Caller.eq_of_hasJoined {caller : Caller} (joined : caller.hasJoined = true) :
    caller = .returned (.ok .joined) := by
  unfold hasJoined at joined
  split at joined
  · rfl
  · cases joined

/-- A second shutdown while the first one waits for a worker that is submitting. -/
def overtakingShutdown : List Label :=
  [.startTurn ⟨['p']⟩, .worker, .worker, .worker, .shutdown 0, .call 0, .shutdown 1, .call 1]

/-- An unknown start is canceled, abandoned and replaced by a queued turn before its result is
committed; the shutdown stops the queued turn. -/
def abandonedEarly : List Label :=
  [.startTurn ⟨['p']⟩, .worker, .worker, .worker, .worker, .worker, .cancelTurn 0 .operator, .call 0, .call 0,
    .reconcileUnknown 1 .operator, .call 1, .call 1,
    .resolveUnknown 2 .operator ⟨1, Nat.one_ne_zero⟩ (.abandonAfterReconciliation ⟨⟨1, Nat.one_ne_zero⟩⟩),
    .call 2, .call 2, .startTurn ⟨['q']⟩, .shutdown 3, .call 3, .worker, .worker, .call 3]

theorem shutdown_returns_early :
    (∃ sys, (Sys.system plainInner plainRunner fun _ => plainAnswers).Reachable sys ∧
      sys.callers 1 = .returned (.ok .joined) ∧ sys.worker.callsLower = true ∧
      sys.runtime.sessionState = .running) ∧
    ∃ sys, (Sys.system plainInner plainRunner fun _ => namelessSubmit).Reachable sys ∧
      sys.callers 3 = .returned (.ok .joined) ∧ sys.runtime.sessionState = .recoveryRequired := by
  constructor
  · have found : (Sys.scheduled plainInner plainRunner (fun _ => plainAnswers) overtakingShutdown).map
        (fun sys => ((sys.callers 1).hasJoined, sys.worker.callsLower, sys.runtime.sessionState)) =
          some (true, true, .running) := by
      decide +kernel
    obtain ⟨sys, ran, seen⟩ := Option.map_eq_some_iff.mp found
    simp only [Prod.mk.injEq] at seen
    exact ⟨sys, Sys.scheduled_reachable ran, Caller.eq_of_hasJoined seen.1, seen.2⟩
  · have found : (Sys.scheduled plainInner plainRunner (fun _ => namelessSubmit) abandonedEarly).map
        (fun sys => ((sys.callers 3).hasJoined, sys.runtime.sessionState)) =
          some (true, .recoveryRequired) := by
      decide +kernel
    obtain ⟨sys, ran, seen⟩ := Option.map_eq_some_iff.mp found
    simp only [Prod.mk.injEq] at seen
    exact ⟨sys, Sys.scheduled_reachable ran, Caller.eq_of_hasJoined seen.1, seen.2⟩

def Caller.asksToJoin : Caller → Bool
  | .shuttingDown => true
  | _ => false

/-- A shutdown that takes the handle, and no unknown start. -/
def Sys.shutsDownAlone (sys : Sys) : Label → Bool
  | .call i => sys.handle || !(sys.callers i).asksToJoin
  | .worker => !sys.worker.reportsUnknown
  | _ => true

theorem Sys.joinsAlone_of_alone (sys : Sys) (label : Label) (alone : sys.shutsDownAlone label = true) :
    sys.JoinsAlone label := by
  cases label with
  | call i =>
      intro asks taken
      simp [shutsDownAlone, asks, taken, Caller.asksToJoin] at alone
  | worker =>
      intro unknown
      simp [shutsDownAlone, unknown] at alone
  | _ => trivial

theorem lone_shutdown_joins :
    ∃ sys, (Sys.system plainInner plainRunner fun _ => plainAnswers).Reach Sys.JoinsAlone sys ∧
      sys.callers 0 = .returned (.ok .joined) ∧
      sys.worker = .exited ∧ sys.worker.callsLower = false ∧ sys.runtime.sessionState = .stopped := by
  have found : ((Sys.first plainInner plainRunner fun _ => plainAnswers).bind fun sys =>
      (Sys.system plainInner plainRunner fun _ => plainAnswers).runIf Sys.shutsDownAlone sys
        [.startTurn ⟨['p']⟩, .worker, .worker, .worker, .shutdown 0, .call 0, .worker, .worker, .worker, .worker,
          .call 0]).map (fun sys => (sys.callers 0).hasJoined) = some true := by
    decide +kernel
  obtain ⟨sys, ran, seen⟩ := Option.map_eq_some_iff.mp found
  have reach := Sys.scheduledIf_reach Sys.joinsAlone_of_alone ran
  have returned := Caller.eq_of_hasJoined seen
  exact ⟨sys, reach, returned, Sys.shutdown_joins reach returned⟩

end Codebox.Session
