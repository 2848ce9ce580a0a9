import Codebox.Cloud.Orchestrator

/-! # Values of the session runtime

What one process-lifetime session shows of its turns. A task identifier is projected as the same
text, so the projected lifecycle is the lifecycle of the Cloud layer itself.
-/

namespace Codebox.Session

open Codebox.Cloud

/-- A random turn identifier, modelled as one never handed out before. -/
abbrev TurnId := Nat

abbrev SessionId := Nat

abbrev P0CloudLifecycle := CloudLifecycle

inductive P0Actor where
  | operator
  deriving Repr, DecidableEq

structure P0SessionIdentity where
  sessionId : SessionId
  instanceId : Nat
  deriving Repr, DecidableEq

inductive P0SessionState where
  | ready | running | recoveryRequired | monitoringDegraded | stopped
  deriving Repr, DecidableEq

inductive P0TurnProjection where
  | queued
  | starting (cancelRequested : Bool)
  | cloud (lifecycle : P0CloudLifecycle) (cancelRequested : Bool)
  | monitoringDegraded (operationId : CloudSubmitOperationId) (lastKnownPending : P0CloudLifecycle)
      (cancelRequested : Bool)
  | canceledBeforeCloudStart
  | stoppedBeforeCloudStart
  | stoppedAfterLowerFailure
  deriving Repr, DecidableEq

inductive P0RecoveryDecisionKind where
  | adopt | abandon
  deriving Repr, DecidableEq

inductive P0RuntimeStopReason where
  | shutdown | lowerFailure
  deriving Repr, DecidableEq

structure P0RecoveryCandidates where
  operationId : CloudSubmitOperationId
  taskIds : List CloudTaskId
  complete : Bool
  deriving Repr, DecidableEq

inductive P0SessionEvent where
  | turnAccepted
  | turnCanceledBeforeCloudStart
  | lifecycleChanged (lifecycle : P0CloudLifecycle)
  | cancelRequested (actor : P0Actor)
  | monitoringDegraded
  | recoveryObserved (actor : P0Actor) (candidates : P0RecoveryCandidates)
  | recoveryResolved (actor : P0Actor) (operationId : CloudSubmitOperationId)
      (decision : P0RecoveryDecisionKind)
  | runtimeStopped (reason : P0RuntimeStopReason)
  deriving Repr, DecidableEq

def eventSchemaVersion : Nat := 1

structure P0SessionEventEnvelope where
  schemaVersion : Nat
  sessionId : SessionId
  seq : Nat
  turnId : Option TurnId
  payload : P0SessionEvent
  deriving Repr, DecidableEq

structure P0SessionSnapshot where
  identity : P0SessionIdentity
  state : P0SessionState
  currentTurn : Option (TurnId × P0TurnProjection)
  highWaterSeq : Nat
  deriving Repr, DecidableEq

structure P0TurnReceipt where
  turnId : TurnId
  highWaterSeq : Nat
  deriving Repr, DecidableEq

/-! ## Errors -/

inductive P0SessionErrorCategory where
  | turnAlreadyRunning | noCurrentTurn | wrongState | wrongSession | wrongOperation | runtimeStopped
  | cloudLifecycle | historyGap | futureCursor | subscriberLimit | sequenceExhausted | lowerConflict
  deriving Repr, DecidableEq

structure P0SessionError where
  category : P0SessionErrorCategory
  turnId : Option TurnId := none
  operationId : Option CloudSubmitOperationId := none
  oldestAvailable : Option Nat := none
  latestAvailable : Option Nat := none
  cloudLifecycle : Option CloudLifecycleErrorCategory := none
  deriving Repr, DecidableEq

namespace P0SessionError

def new (category : P0SessionErrorCategory) : P0SessionError where
  category := category

def forTurn (category : P0SessionErrorCategory) (turn : TurnId) : P0SessionError where
  category := category
  turnId := some turn

def forOperation (category : P0SessionErrorCategory) (op : CloudSubmitOperationId) : P0SessionError where
  category := category
  operationId := some op

def historyGap (oldest latest : Nat) : P0SessionError where
  category := .historyGap
  oldestAvailable := some oldest
  latestAvailable := some latest

def futureCursor (latest : Nat) : P0SessionError where
  category := .futureCursor
  latestAvailable := some latest

end P0SessionError

def mapLowerError (error : CloudLifecycleError) : P0SessionError where
  category := .cloudLifecycle
  operationId := error.operationId
  cloudLifecycle := some error.category

/-! ## Lifecycles -/

end Codebox.Session

namespace Codebox.Cloud.CloudLifecycle

def isPending : CloudLifecycle → Bool
  | pending _ _ => true
  | submitting _ | failedBeforeSubmit _ | outcomeUnknown _ | ready _ _ | applied _ _
  | providerError _ _ | canceledLocally _ _ _ | abandonedUnknown _ => false

def isUnknown : CloudLifecycle → Bool
  | outcomeUnknown _ => true
  | submitting _ | failedBeforeSubmit _ | pending _ _ | ready _ _ | applied _ _
  | providerError _ _ | canceledLocally _ _ _ | abandonedUnknown _ => false

def isTerminal : CloudLifecycle → Bool
  | failedBeforeSubmit _ | ready _ _ | applied _ _ | providerError _ _ | canceledLocally _ _ _
  | abandonedUnknown _ => true
  | submitting _ | outcomeUnknown _ | pending _ _ => false

attribute [simp] isPending.eq_1 isPending.eq_2 isPending.eq_3 isPending.eq_4 isPending.eq_5
  isPending.eq_6 isPending.eq_7 isPending.eq_8 isPending.eq_9 isUnknown.eq_1 isUnknown.eq_2
  isUnknown.eq_3 isUnknown.eq_4 isUnknown.eq_5 isUnknown.eq_6 isUnknown.eq_7 isUnknown.eq_8
  isUnknown.eq_9 isTerminal.eq_1 isTerminal.eq_2 isTerminal.eq_3 isTerminal.eq_4 isTerminal.eq_5
  isTerminal.eq_6 isTerminal.eq_7 isTerminal.eq_8 isTerminal.eq_9

end Codebox.Cloud.CloudLifecycle

namespace Codebox.Session

open Codebox.Cloud

/-- The steps `lifecycle_transition_allowed` lets a shown lifecycle take. -/
def lifecycleTransitionAllowed (current next : P0CloudLifecycle) : Bool :=
  current == next || match current with
  | .submitting _ => match next with
      | .failedBeforeSubmit _ | .outcomeUnknown _ | .pending _ _ => true
      | _ => false
  | .outcomeUnknown _ => match next with
      | .pending _ _ | .ready _ _ | .applied _ _ | .providerError _ _ | .abandonedUnknown _ => true
      | _ => false
  | .pending _ _ => current.taskId == next.taskId && match next with
      | .pending _ _ | .ready _ _ | .applied _ _ | .providerError _ _ | .canceledLocally _ _ _ => true
      | _ => false
  | .failedBeforeSubmit _ | .ready _ _ | .applied _ _ | .providerError _ _ | .canceledLocally _ _ _
  | .abandonedUnknown _ => false

def stateForLifecycle (lifecycle : P0CloudLifecycle) : P0SessionState :=
  if lifecycle.isUnknown then .recoveryRequired
  else match lifecycle with
    | .pending _ _ | .submitting _ => .running
    | _ => .ready

/-! ## Projections -/

namespace P0TurnProjection

def operation : P0TurnProjection → Option CloudSubmitOperationId
  | cloud lifecycle _ => some lifecycle.operationId
  | monitoringDegraded op _ _ => some op
  | queued | starting _ | canceledBeforeCloudStart | stoppedBeforeCloudStart
  | stoppedAfterLowerFailure => none

def lifecycle : P0TurnProjection → Option P0CloudLifecycle
  | cloud lifecycle _ => some lifecycle
  | monitoringDegraded _ lastKnownPending _ => some lastKnownPending
  | queued | starting _ | canceledBeforeCloudStart | stoppedBeforeCloudStart
  | stoppedAfterLowerFailure => none

def isCancelRequested : P0TurnProjection → Bool
  | starting requested | cloud _ requested | monitoringDegraded _ _ requested => requested
  | queued | canceledBeforeCloudStart | stoppedBeforeCloudStart | stoppedAfterLowerFailure => false

def isStarting : P0TurnProjection → Bool
  | starting _ => true
  | queued | cloud _ _ | monitoringDegraded _ _ _ | canceledBeforeCloudStart | stoppedBeforeCloudStart
  | stoppedAfterLowerFailure => false

def requestCancel : P0TurnProjection → P0TurnProjection
  | starting _ => starting true
  | cloud lifecycle _ => cloud lifecycle true
  | monitoringDegraded op lastKnownPending _ => monitoringDegraded op lastKnownPending true
  | queued => queued
  | canceledBeforeCloudStart => canceledBeforeCloudStart
  | stoppedBeforeCloudStart => stoppedBeforeCloudStart
  | stoppedAfterLowerFailure => stoppedAfterLowerFailure

attribute [simp] operation.eq_1 operation.eq_2 operation.eq_3 operation.eq_4 operation.eq_5 operation.eq_6
  operation.eq_7 lifecycle.eq_1 lifecycle.eq_2 lifecycle.eq_3 lifecycle.eq_4 lifecycle.eq_5 lifecycle.eq_6
  lifecycle.eq_7 isCancelRequested.eq_1 isCancelRequested.eq_2 isCancelRequested.eq_3
  isCancelRequested.eq_4 isCancelRequested.eq_5 isCancelRequested.eq_6 isCancelRequested.eq_7
  requestCancel.eq_1 requestCancel.eq_2 requestCancel.eq_3 requestCancel.eq_4 requestCancel.eq_5
  requestCancel.eq_6 requestCancel.eq_7

end P0TurnProjection

end Codebox.Session
