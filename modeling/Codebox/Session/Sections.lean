import Codebox.Session.Runtime

/-! # Commands and worker steps under the lock

Every function here is one lock section of `runtime.rs`. Its result is what the caller goes on
with; the state is what the section leaves behind.
-/

namespace Codebox.Session

open Codebox.Cloud

namespace RuntimeState

/-! ## Starting and canceling a turn -/

def startTurn (inner : Inner) (turn : TurnId) (prompt : CloudPrompt) (state : RuntimeState) :
    Except P0SessionError P0TurnReceipt × RuntimeState :=
  match state.requireRunningWorker with
  | .error error => (.error error, state)
  | .ok () =>
      if state.sessionState ≠ .ready then
        (.error (match state.currentTurn with
          | some current => .forTurn .turnAlreadyRunning current.turnId
          | none => .new .turnAlreadyRunning), state)
      else match state.reserveEvents 1 with
        | .error error => (.error error, state)
        | .ok () =>
            let accepted := appendEvent inner { state with
              sessionState := .running
              currentTurn := some { turnId := turn, projection := .queued }
              work := some (.start turn prompt) } (some turn) .turnAccepted
            (.ok ⟨turn, accepted.highWaterSeq⟩, accepted)

/-- How the first section of `cancel_turn` ends for a caller it does not refuse. -/
inductive CancelEntry where
  | finished (snapshot : P0SessionSnapshot)
  /-- Another caller is canceling; only the snapshot is left to take. -/
  | joined
  | proceed (turn : TurnId) (admissionMayBePending : Bool)
  deriving Repr, DecidableEq

/-- Record the request of the current turn's cancellation, once. -/
def requestCancel (inner : Inner) (actor : P0Actor) (turn : TurnRecord) (state : RuntimeState) :
    Except P0SessionError RuntimeState :=
  if turn.projection.isCancelRequested then .ok state
  else match state.reserveEvents 1 with
    | .error error => .error error
    | .ok () => .ok (appendEvent inner { state with
        currentTurn := some { turn with projection := turn.projection.requestCancel } }
        (some turn.turnId) (.cancelRequested actor))

/-- Become the caller of the lower cancellation, unless there is one or it is done. -/
def latchCancel (inner : Inner) (state : RuntimeState) : Except P0SessionError CancelEntry × RuntimeState :=
  match state.currentTurn with
  | none => (.error (.new .noCurrentTurn), state)
  | some turn =>
      if turn.cancelCompleted then (.ok (.finished (state.snapshot inner)), state)
      else if turn.cancelInProgress then (.ok .joined, state)
      else
        let pending := turn.projection.isStarting
        (.ok (.proceed turn.turnId pending), { state with
          currentTurn := some { turn with cancelInProgress := true }
          work := if pending then state.work else none })

def cancelQueued (inner : Inner) (turn : TurnRecord) (state : RuntimeState) :
    Except P0SessionError CancelEntry × RuntimeState :=
  match state.reserveEvents 1 with
  | .error error => (.error error, state)
  | .ok () =>
      let canceled := appendEvent inner { state with
        work := none
        sessionState := .ready
        currentTurn := some { turn with projection := .canceledBeforeCloudStart, cancelCompleted := true } }
        (some turn.turnId) .turnCanceledBeforeCloudStart
      (.ok (.finished (canceled.snapshot inner)), canceled)

def cancelTurn (inner : Inner) (actor : P0Actor) (state : RuntimeState) :
    Except P0SessionError CancelEntry × RuntimeState :=
  match state.requireRunningWorker with
  | .error error => (.error error, state)
  | .ok () =>
      if state.sessionState = .recoveryRequired then
        (.error (match state.currentOperation with
          | some op => .forOperation .wrongState op
          | none => .new .wrongState), state)
      else if state.sessionState ≠ .running ∧ state.sessionState ≠ .monitoringDegraded then
        (.error (.new .wrongState), state)
      else match state.currentTurn with
        | none => (.error (.new .noCurrentTurn), state)
        | some turn =>
            if turn.projection = .queued then cancelQueued inner turn state
            else match requestCancel inner actor turn state with
              | .error error => (.error error, state)
              | .ok requested => latchCancel inner requested

/-- The turn is over for a caller that waits for its admission. -/
def cancelIsCompleted (turn : TurnId) (state : RuntimeState) : Bool :=
  (state.turnNamed turn).any (·.cancelCompleted)

/-- A caller whose lower cancellation failed gives the latch back. -/
def releaseCancel (turn : TurnId) (state : RuntimeState) : RuntimeState :=
  state.updateTurn turn fun record => { record with cancelInProgress := false }

def finishCancel (state : RuntimeState) : RuntimeState :=
  { state with currentTurn := state.currentTurn.map fun record =>
      { record with cancelInProgress := false, cancelCompleted := true } }

def commitCancelResult (inner : Inner) (turn : TurnId) (projected : P0CloudLifecycle)
    (state : RuntimeState) : Except P0SessionError P0SessionSnapshot × RuntimeState :=
  if state.workerStopped then (.error (.new .runtimeStopped), state)
  else match state.turnNamed turn with
    | none => (.error (.new .wrongState), state)
    | some record =>
        if record.projection.operation.any (· != projected.operationId) then
          (.error (.forOperation .lowerConflict projected.operationId), state)
        else
          let changed := record.projection.lifecycle != some projected
          match if changed then state.reserveEvents 1 else .ok () with
          | .error error => (.error error, state)
          | .ok () => match applyProjectedLifecycle state turn projected true with
              | .error error => (.error error, state)
              | .ok applied =>
                  let finished := finishCancel applied
                  let reported := if changed then
                      appendEvent inner finished (some turn) (.lifecycleChanged projected)
                    else finished
                  (.ok (reported.snapshot inner), reported)

/-! ## Recovery -/

def enterReconcile (state : RuntimeState) : Except P0SessionError CloudSubmitOperationId :=
  match state.requireRunningWorker with
  | .error error => .error error
  | .ok () =>
      if state.sessionState ≠ .recoveryRequired then .error (.new .wrongState)
      else match state.currentOperation with
        | some op => .ok op
        | none => .error (.new .wrongOperation)

def commitReconcile (inner : Inner) (actor : P0Actor) (expected : CloudSubmitOperationId)
    (candidates : P0RecoveryCandidates) (state : RuntimeState) :
    Except P0SessionError P0RecoveryCandidates × RuntimeState :=
  match state.requireCurrentOperation expected with
  | .error error => (.error error, state)
  | .ok () => match state.reserveEvents 1 with
      | .error error => (.error error, state)
      | .ok () => (.ok candidates, appendEvent inner state (state.currentTurn.map TurnRecord.turnId)
          (.recoveryObserved actor { candidates with operationId := expected }))

def enterResolve (op : CloudSubmitOperationId) (state : RuntimeState) : Except P0SessionError Unit :=
  match state.requireRunningWorker with
  | .error error => .error error
  | .ok () =>
      if state.sessionState ≠ .recoveryRequired then .error (.forOperation .wrongState op)
      else state.requireCurrentOperation op

def decisionKind : UnknownSubmitDecision → P0RecoveryDecisionKind
  | .adoptListedTask _ => .adopt
  | .abandonAfterReconciliation _ => .abandon

def commitResolve (inner : Inner) (now : Nat) (actor : P0Actor) (op : CloudSubmitOperationId)
    (decision : UnknownSubmitDecision) (projected : P0CloudLifecycle) (state : RuntimeState) :
    Except P0SessionError P0SessionSnapshot × RuntimeState :=
  match state.requireCurrentOperation op with
  | .error error => (.error error, state)
  | .ok () => match state.requireRunningWorker with
    | .error error => (.error error, state)
    | .ok () => match state.reserveEvents 2 with
      | .error error => (.error error, state)
      | .ok () => match state.currentTurn with
        | none => (.error (.new .noCurrentTurn), state)
        | some turn => match applyProjectedLifecycle state turn.turnId projected false with
          | .error error => (.error error, state)
          | .ok applied =>
              let resolved := appendEvent inner applied (some turn.turnId)
                (.recoveryResolved actor op (decisionKind decision))
              let shown := appendEvent inner resolved (some turn.turnId) (.lifecycleChanged projected)
              let queued := if projected.isPending then
                  { shown with work := some (.monitor turn.turnId (now + inner.config.pollInterval) 0) }
                else shown
              (.ok (queued.snapshot inner), queued)

/-! ## Shutdown -/

/-- The first caller latches the request; a queued turn never starts. The request stays latched
when no event is left to report the stop. -/
def requestShutdown (inner : Inner) (state : RuntimeState) : Except P0SessionError Unit × RuntimeState :=
  if state.shutdownRequested then (.ok (), state)
  else
    let requested := { state with shutdownRequested := true }
    match requested.currentTurn.filter (·.projection == .queued) with
    | none => (.ok (), requested)
    | some turn => match requested.reserveEvents 1 with
      | .error error => (.error error, requested)
      | .ok () =>
          let stopped := { requested with
            work := none
            sessionState := .stopped
            workerStopped := true
            currentTurn := some { turn with projection := .stoppedBeforeCloudStart } }
          (.ok (), closeSubscribers
            (appendEvent inner stopped (some turn.turnId) (.runtimeStopped .shutdown)) .runtimeStopped)

/-! ## Subscribers -/

/-- Register a channel after the retained events above the cursor. -/
def subscribe (inner : Inner) (session : SessionId) (afterSeq : Nat) (state : RuntimeState) :
    Except P0SessionError (List P0SessionEventEnvelope × P0SessionSnapshot × Nat) × RuntimeState :=
  if session ≠ inner.identity.sessionId then (.error (.new .wrongSession), state)
  else match state.requireRunningWorker with
    | .error error => (.error error, state)
    | .ok () =>
        if state.highWaterSeq < afterSeq then (.error (.futureCursor state.highWaterSeq), state)
        else match state.history.head?.filter fun oldest => decide (afterSeq < oldest.seq - 1) with
          | some oldest => (.error (.historyGap oldest.seq state.highWaterSeq), state)
          | none =>
              if inner.config.maxSubscribers ≤ (state.channels.filter (·.registered)).length
                  ∨ maxSeq < state.nextSubscriberId + 1 then
                (.error (.new .subscriberLimit), state)
              else
                let replay := state.history.filter fun event => decide (afterSeq < event.seq)
                (.ok (replay, state.snapshot inner, state.nextSubscriberId), { state with
                  nextSubscriberId := state.nextSubscriberId + 1
                  channels := state.channels ++ [⟨state.nextSubscriberId, [], true, .opened⟩] })

/-- Take the oldest event out of a channel. -/
def receive (subscriber : Nat) (state : RuntimeState) : RuntimeState :=
  { state with channels := state.channels.map fun channel =>
      if channel.subscriberId = subscriber then { channel with queue := channel.queue.tail } else channel }

/-- A dropped receiver removes its own channel and nothing else. -/
def dropReceiver (subscriber : Nat) (state : RuntimeState) : RuntimeState :=
  { state with channels := state.channels.filter fun channel => channel.subscriberId != subscriber }

/-! ## The worker -/

inductive WorkerAction where
  | start (turn : TurnId) (prompt : CloudPrompt)
  | monitor (turn : TurnId) (failures : Nat)
  | cancel (turn : TurnId)
  | stop
  deriving Repr, DecidableEq

/-- The current turn asks for a cancellation that nobody makes. -/
def cancellationDue (turn : TurnRecord) : Bool :=
  turn.projection.isCancelRequested && !turn.cancelInProgress && !turn.cancelCompleted &&
    match turn.projection with
    | .cloud lifecycle _ => lifecycle.isPending
    | .monitoringDegraded _ _ _ => true
    | _ => false

/-- Take the queued work; `none` is a worker that waits. -/
def claimWork (inner : Inner) (now : Nat) (state : RuntimeState) : Option (WorkerAction × RuntimeState) :=
  match state.work with
  | some (.start turn prompt) =>
      let claimed := { state with work := none }
      match claimed.turnNamed turn with
      | some record => some (.start turn prompt, { claimed with
          currentTurn := some { record with projection := .starting false, lowerStartAdmitted := false } })
      | none => some (.stop, stopWorker inner claimed .lowerFailure)
  | some (.monitor turn due failures) =>
      if now < due then none else some (.monitor turn failures, { state with work := none })
  | none => none

def nextWorkerAction (inner : Inner) (now : Nat) (state : RuntimeState) :
    Option (WorkerAction × RuntimeState) :=
  if state.shutdownRequested then some (.stop, stopWorker inner state .shutdown)
  else match state.currentTurn.filter cancellationDue with
    | some turn => some (.cancel turn.turnId, { state with
        currentTurn := some { turn with cancelInProgress := true }
        work := none })
    | none => claimWork inner now state

/-- The last look before the orchestrator is called: `true` lets the start through. -/
def admitStart (inner : Inner) (turn : TurnId) (state : RuntimeState) : Bool × RuntimeState :=
  if state.shutdownRequested then (false, stopWorker inner state .shutdown)
  else match state.turnNamed turn with
    | none => (false, stopAfterLowerFailure inner state turn)
    | some record =>
        if record.projection.isCancelRequested then
          match state.reserveEvents 1 with
          | .error _ => (false, stopAfterLowerFailure inner state turn)
          | .ok () => (false, appendEvent inner { state with
              sessionState := .ready
              currentTurn := some { record with
                projection := .canceledBeforeCloudStart
                cancelInProgress := false
                cancelCompleted := true } } (some turn) .turnCanceledBeforeCloudStart)
        else (true, { state with currentTurn := some { record with lowerStartAdmitted := true } })

/-- Queue the next look at a pending task. -/
def queueMonitor (inner : Inner) (now : Nat) (turn : TurnId) (projected : P0CloudLifecycle)
    (state : RuntimeState) : RuntimeState :=
  if projected.isPending then
    { state with work := some (.monitor turn (now + inner.config.pollInterval) 0) }
  else state

/-- The start result is shown; the worker goes on to the lower cancellation if one is due. -/
def afterStartShown (inner : Inner) (now : Nat) (turn : TurnId) (projected : P0CloudLifecycle)
    (state : RuntimeState) : Bool × RuntimeState :=
  if state.shutdownRequested then
    (false, closeSubscribers
      (appendEvent inner { state with sessionState := .stopped, workerStopped := true } (some turn)
        (.runtimeStopped .shutdown)) .runtimeStopped)
  else match (state.turnNamed turn).filter fun record =>
      record.projection.isCancelRequested && !record.cancelInProgress && !record.cancelCompleted &&
        projected.isPending with
    | some record => (true, { state with currentTurn := some { record with cancelInProgress := true } })
    | none => (false, queueMonitor inner now turn projected state)

def handleStartResult (inner : Inner) (now : Nat) (turn : TurnId)
    (result : Except CloudLifecycleError P0CloudLifecycle) (state : RuntimeState) : Bool × RuntimeState :=
  match result with
  | .error _ => (false, stopAfterLowerFailure inner state turn)
  | .ok projected =>
      -- an unknown outcome is latched before anything is checked
      let latched := if projected.isUnknown then { state with sessionState := .recoveryRequired } else state
      match latched.reserveEvents (if latched.shutdownRequested then 2 else 1) with
      | .error _ => (false, stopAfterLowerFailure inner latched turn)
      | .ok () => match applyProjectedLifecycle latched turn projected false with
          | .error _ => (false, stopAfterLowerFailure inner latched turn)
          | .ok applied => afterStartShown inner now turn projected
              (appendEvent inner applied (some turn) (.lifecycleChanged projected))

/-- Show an inspected lifecycle; an unchanged one is no event. -/
def showInspected (inner : Inner) (now : Nat) (turn : TurnId) (projected : P0CloudLifecycle)
    (state : RuntimeState) : RuntimeState :=
  let changed := state.currentLifecycle != some projected
  match if changed then state.reserveEvents 1 else .ok () with
  | .error _ => stopAfterLowerFailure inner state turn
  | .ok () => match applyProjectedLifecycle state turn projected false with
      | .error _ => stopAfterLowerFailure inner state turn
      | .ok applied => queueMonitor inner now turn projected
          (if changed then appendEvent inner applied (some turn) (.lifecycleChanged projected) else applied)

/-- A read failed: keep the last pending lifecycle on show and look again later. The delay is for one
failure more than the count, a sum that wraps around; the count itself stops at its largest value. -/
def degradeMonitoring (inner : Inner) (now : Nat) (turn : TurnId) (failures : Nat)
    (state : RuntimeState) : RuntimeState :=
  match state.currentTurn, state.currentLifecycle.filter CloudLifecycle.isPending with
  | some record, some lastKnownPending =>
      let alreadyDegraded := state.sessionState == .monitoringDegraded
      match if alreadyDegraded then .ok () else state.reserveEvents 1 with
      | .error _ => stopAfterLowerFailure inner state turn
      | .ok () =>
          let degraded := { state with
            sessionState := .monitoringDegraded
            currentTurn := some { record with
              projection := .monitoringDegraded lastKnownPending.operationId lastKnownPending
                record.projection.isCancelRequested } }
          let reported := if alreadyDegraded then degraded
            else appendEvent inner degraded (some turn) .monitoringDegraded
          { reported with
            work := some (.monitor turn
              (now + backoff inner.config.pollInterval ((failures + 1) % 2 ^ 32))
              (min (failures + 1) maxFailures)) }
  | _, _ => stopAfterLowerFailure inner state turn

/-- A monitor result during a shutdown: what can be shown is shown, then the worker stops. -/
def showThenStop (inner : Inner) (turn : TurnId) (result : Except CloudLifecycleError P0CloudLifecycle)
    (state : RuntimeState) : RuntimeState :=
  let shown := match result with
    | .error _ => state
    | .ok projected => match state.reserveEvents 2, applyProjectedLifecycle state turn projected false with
      | .ok (), .ok applied => appendEvent inner applied (some turn) (.lifecycleChanged projected)
      | _, _ => state
  stopWorker inner shown .shutdown

def handleMonitorResult (inner : Inner) (now : Nat) (turn : TurnId) (failures : Nat)
    (result : Except CloudLifecycleError P0CloudLifecycle) (state : RuntimeState) : RuntimeState :=
  if state.currentLifecycle.any CloudLifecycle.isTerminal then { state with work := none }
  else if state.shutdownRequested then showThenStop inner turn result state
  else match result with
    | .ok projected => showInspected inner now turn projected state
    | .error error =>
        if error.category = .providerRead then degradeMonitoring inner now turn failures state
        else stopAfterLowerFailure inner state turn

def commitWorkerCancel (inner : Inner) (turn : TurnId) (projected : P0CloudLifecycle)
    (state : RuntimeState) : Except P0SessionError RuntimeState :=
  match state.reserveEvents 1 with
  | .error error => .error error
  | .ok () => match applyProjectedLifecycle state turn projected true with
      | .error error => .error error
      | .ok applied =>
          .ok (appendEvent inner (finishCancel applied) (some turn) (.lifecycleChanged projected))

end RuntimeState

end Codebox.Session
