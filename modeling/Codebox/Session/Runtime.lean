import Codebox.Session.Types
import Mathlib.Algebra.Group.Nat.Defs

/-! # The session runtime

The state behind the runtime's lock, and each section of code that runs while the lock is held:
the entry and the commit of every command, and the steps of the worker. A command that calls the
orchestrator gives the lock up around the call, so its entry and its commit are two functions.
-/

namespace Codebox.Session

open Codebox.Cloud

/-! ## Configuration -/

def minPollInterval : Nat := 250000000
def maxPollInterval : Nat := 60000000000
def maxBackoff : Nat := 60000000000

/-- Administrator bounds, in nanoseconds and entries, as `try_new` lets them through. -/
structure P0SessionConfig where
  pollInterval : Nat
  historyCapacity : Nat
  maxSubscribers : Nat
  liveCapacity : Nat
  pollBounds : minPollInterval ≤ pollInterval ∧ pollInterval ≤ maxPollInterval
  historyBounds : 64 ≤ historyCapacity ∧ historyCapacity ≤ 1024
  subscriberBounds : 1 ≤ maxSubscribers ∧ maxSubscribers ≤ 32
  liveBounds : 8 ≤ liveCapacity ∧ liveCapacity ≤ 256
  deriving Repr

def P0SessionConfig.default : P0SessionConfig where
  pollInterval := 2000000000
  historyCapacity := 256
  maxSubscribers := 8
  liveCapacity := 32
  pollBounds := by decide
  historyBounds := by decide
  subscriberBounds := by decide
  liveBounds := by decide

/-- The parts of the runtime that never change. -/
structure Inner where
  config : P0SessionConfig
  identity : P0SessionIdentity

/-- The first number of nanoseconds that is not a `Duration`: its seconds are a `u64`. -/
def durationEnd : Nat := 2 ^ 64 * 1000000000

/-- `Duration::checked_mul`. -/
def checkedMul (duration multiplier : Nat) : Option Nat :=
  if duration * multiplier < durationEnd then some (duration * multiplier) else none

/-- `u32::checked_shl`. -/
def checkedShl (value shift : Nat) : Option Nat :=
  if shift < 32 then some ((value <<< shift) % 2 ^ 32) else none

/-- The largest `u32`, where a count of failed reads stops. -/
def maxFailures : Nat := 4294967295

/-- The delay after the given number of failed reads in a row. -/
def backoff (base failures : Nat) : Nat :=
  let exponent := min failures 8
  let multiplier := (checkedShl 1 exponent).getD maxFailures
  min ((checkedMul base multiplier).getD maxBackoff) maxBackoff

/-! ## State -/

structure TurnRecord where
  turnId : TurnId
  projection : P0TurnProjection
  lowerStartAdmitted : Bool := false
  cancelInProgress : Bool := false
  cancelCompleted : Bool := false
  deriving Repr, DecidableEq

inductive WorkerWork where
  | start (turnId : TurnId) (prompt : CloudPrompt)
  | monitor (turnId : TurnId) (due failures : Nat)
  deriving Repr, DecidableEq

inductive CloseReason where
  | opened | lagged | runtimeStopped | normal
  deriving Repr, DecidableEq

/-- A live channel: what its receiver has not taken yet, and whether events still arrive. -/
structure Channel where
  subscriberId : Nat
  queue : List P0SessionEventEnvelope
  registered : Bool
  closeReason : CloseReason
  deriving Repr, DecidableEq

structure RuntimeState where
  sessionState : P0SessionState
  currentTurn : Option TurnRecord
  highWaterSeq : Nat := 0
  history : List P0SessionEventEnvelope := []
  channels : List Channel := []
  nextSubscriberId : Nat := 1
  work : Option WorkerWork
  shutdownRequested : Bool := false
  workerStopped : Bool := false
  /-- Every event ever appended, oldest first; no section reads it. -/
  log : List P0SessionEventEnvelope := []
  deriving Repr, DecidableEq

namespace RuntimeState

/-- The largest event sequence number. -/
def maxSeq : Nat := 18446744073709551615

def currentOperation (state : RuntimeState) : Option CloudSubmitOperationId :=
  state.currentTurn.bind (·.projection.operation)

/-- The lifecycle the current turn shows. -/
def currentLifecycle (state : RuntimeState) : Option P0CloudLifecycle :=
  state.currentTurn.bind (·.projection.lifecycle)

/-- The current turn, if it is the given one. -/
def turnNamed (state : RuntimeState) (turn : TurnId) : Option TurnRecord :=
  state.currentTurn.filter (·.turnId == turn)

/-- Change the current turn, if it is the given one. -/
def updateTurn (state : RuntimeState) (turn : TurnId) (f : TurnRecord → TurnRecord) : RuntimeState :=
  { state with currentTurn := state.currentTurn.map fun record =>
      if record.turnId = turn then f record else record }

def snapshot (state : RuntimeState) (inner : Inner) : P0SessionSnapshot where
  identity := inner.identity
  state := state.sessionState
  currentTurn := state.currentTurn.map fun turn => (turn.turnId, turn.projection)
  highWaterSeq := state.highWaterSeq

def requireRunningWorker (state : RuntimeState) : Except P0SessionError Unit :=
  if state.workerStopped ∨ state.shutdownRequested then .error (.new .runtimeStopped) else .ok ()

def requireCurrentOperation (state : RuntimeState) (op : CloudSubmitOperationId) :
    Except P0SessionError Unit :=
  if state.currentOperation = some op then .ok () else .error (.forOperation .wrongOperation op)

def reserveEvents (state : RuntimeState) (count : Nat) : Except P0SessionError Unit :=
  if state.highWaterSeq + count ≤ maxSeq then .ok () else .error (.new .sequenceExhausted)

/-- Deliver an event to one channel; a full one is cut off. -/
def Channel.deliver (capacity : Nat) (event : P0SessionEventEnvelope) (channel : Channel) : Channel :=
  if channel.registered then
    if channel.queue.length < capacity then { channel with queue := channel.queue ++ [event] }
    else { channel with registered := false, closeReason := .lagged }
  else channel

def appendEvent (inner : Inner) (state : RuntimeState) (turn : Option TurnId) (payload : P0SessionEvent) :
    RuntimeState :=
  let envelope : P0SessionEventEnvelope :=
    ⟨eventSchemaVersion, inner.identity.sessionId, state.highWaterSeq + 1, turn, payload⟩
  let grown := state.history ++ [envelope]
  { state with
    highWaterSeq := state.highWaterSeq + 1
    history := grown.drop (grown.length - inner.config.historyCapacity)
    channels := state.channels.map (Channel.deliver inner.config.liveCapacity envelope)
    log := state.log ++ [envelope] }

def closeSubscribers (state : RuntimeState) (reason : CloseReason) : RuntimeState :=
  { state with channels := state.channels.map fun channel =>
      if channel.registered then { channel with registered := false, closeReason := reason } else channel }

/-! ## Stopping -/

/-- A start that the worker has not handed to the orchestrator. -/
def startNotAdmitted (turn : TurnRecord) : Bool :=
  match turn.projection with
  | .queued | .starting _ => !turn.lowerStartAdmitted
  | _ => false

def stopWorker (inner : Inner) (state : RuntimeState) (reason : P0RuntimeStopReason) : RuntimeState :=
  if state.workerStopped then state
  else
    let turn := if reason = .shutdown then
        state.currentTurn.map fun turn =>
          if startNotAdmitted turn then { turn with projection := .stoppedBeforeCloudStart } else turn
      else state.currentTurn
    let stopped := { state with
      currentTurn := turn
      work := none
      sessionState := .stopped
      workerStopped := true }
    let reported := match stopped.reserveEvents 1 with
      | .ok () => appendEvent inner stopped (turn.map TurnRecord.turnId) (.runtimeStopped reason)
      | .error _ => stopped
    closeSubscribers reported .runtimeStopped

def stopAfterLowerFailure (inner : Inner) (state : RuntimeState) (turn : TurnId) : RuntimeState :=
  stopWorker inner
    (state.updateTurn turn fun record => { record with projection := .stoppedAfterLowerFailure })
    .lowerFailure

/-! ## Showing a lifecycle -/

/-- The current turn shows a lifecycle that the given one may not replace. -/
def invalidTransition (turn : TurnRecord) (projected : P0CloudLifecycle) : Bool :=
  turn.projection.lifecycle.any fun current =>
    current.operationId != projected.operationId || !lifecycleTransitionAllowed current projected

def applyProjectedLifecycle (state : RuntimeState) (turn : TurnId) (projected : P0CloudLifecycle)
    (cancelCompleted : Bool) : Except P0SessionError RuntimeState :=
  match state.turnNamed turn with
  | none => .error (.new .wrongState)
  | some record =>
      if invalidTransition record projected then
        .error (.forOperation .lowerConflict projected.operationId)
      else .ok { state with
        sessionState := stateForLifecycle projected
        work := if projected.isPending then state.work else none
        currentTurn := some { record with
          projection := .cloud projected record.projection.isCancelRequested
          cancelCompleted := record.cancelCompleted || cancelCompleted } }

end RuntimeState

end Codebox.Session
