import Codebox.Cloud.Runner

/-! # The Cloud task orchestrator

The serialized lifecycle of one Cloud operation. A state lock protects the ledger in
memory and the cancellation signal of a submit in flight; the functions below are the
sections that run under the lock. `start` holds the lock twice, with the submit between the
two sections, and `cancel` gives the lock up while it waits for a submit to return.
-/

namespace Codebox.Cloud

open Codebox.Support Codebox.Login Codebox.Host

structure OrchestratorState where
  ledger : Option CloudLifecycleLedger
  cancellation : Option CloudCancellation
  /-- How often waiting callers have been notified; a waiting caller compares this with the
  number it saw when it began to wait. -/
  notifications : Nat
  deriving Repr, DecidableEq

/-- A process: the host it runs on and the orchestrator's protected state. -/
structure Process where
  host : Host
  state : OrchestratorState

abbrev OrchestratorProc := Proc Process CloudLifecycleError

def onHost {ε α : Type} (p : Proc Host ε α) : Proc Process ε α :=
  p.on Process.host fun process host => { process with host := host }

def mapRunnerError (error : CloudRunnerError) : CloudLifecycleError where
  category := match error.category with
    | .scope => .scope
    | .busy => .busy
    | .operationConflict => .operationConflict
    | .outcomeUnknown => .outcomeUnknown
    | .recoveryRequired => .recoveryRequired
    | .ledgerInvalid => .ledgerInvalid
    | .ledgerUnavailable => .ledgerUnavailable
    | _ => .lowerRunner
  operationId := error.operationId

/-- A runner call whose error is passed on in the orchestrator's terms. -/
def onRunner {α : Type} (p : RunnerProc α) : OrchestratorProc α :=
  (onHost p).mapError mapRunnerError

def mapProviderRead (op : CloudSubmitOperationId) (_error : CloudRunnerError) :
    CloudLifecycleError := .forOperation .providerRead op

def recoveryRequired (op : CloudSubmitOperationId) : CloudLifecycleError :=
  .forOperation .recoveryRequired op

def currentError (category : CloudLifecycleErrorCategory) :
    Option CloudLifecycleLedger → CloudLifecycleError
  | some ledger => .forOperation category ledger.operationId
  | none => ⟨category, none⟩

def getState : OrchestratorProc OrchestratorState := do return (← Proc.get).state

def setLedger (ledger : Option CloudLifecycleLedger) : OrchestratorProc Unit :=
  Proc.modify fun process => { process with state := { process.state with ledger := ledger } }

def setCancellation (cancellation : Option CloudCancellation) : OrchestratorProc Unit :=
  Proc.modify fun process =>
    { process with state := { process.state with cancellation := cancellation } }

def notifyAll : OrchestratorProc Unit :=
  Proc.modify fun process => { process with
    state := { process.state with notifications := process.state.notifications + 1 } }

/-- The ledger in memory, or the error of a caller that finds none. -/
def currentLedger : OrchestratorProc CloudLifecycleLedger := do
  match (← getState).ledger with
  | some ledger => return ledger
  | none => Proc.fail ⟨.noCurrentOperation, none⟩

section

variable {α : Type} {p : Process} {onError : CloudLifecycleError → Process → Prop}
  {onCrash : Process → Prop} {onOk : Unit → Process → Prop}

@[simp] theorem wp_onHost {ε : Type} (proc : Proc Host ε α) {onOk : α → Process → Prop}
    {onError : ε → Process → Prop} :
    (onHost proc).wp onOk onError onCrash p =
      proc.wp (fun value host => onOk value { p with host := host })
        (fun error host => onError error { p with host := host })
        (fun host => onCrash { p with host := host }) p.host := by
  rw [onHost, Proc.wp_on]

@[simp] theorem wp_onRunner (proc : RunnerProc α) {onOk : α → Process → Prop} :
    (onRunner proc).wp onOk onError onCrash p =
      proc.wp (fun value host => onOk value { p with host := host })
        (fun error host => onError (mapRunnerError error) { p with host := host })
        (fun host => onCrash { p with host := host }) p.host := by
  rw [onRunner, Proc.wp_mapError, wp_onHost]

@[simp] theorem wp_getState {onOk : OrchestratorState → Process → Prop} :
    getState.wp onOk onError onCrash p = onOk p.state p := rfl

@[simp] theorem wp_setLedger (ledger : Option CloudLifecycleLedger) :
    (setLedger ledger).wp onOk onError onCrash p =
      onOk () { p with state := { p.state with ledger := ledger } } := rfl

@[simp] theorem wp_setCancellation (cancellation : Option CloudCancellation) :
    (setCancellation cancellation).wp onOk onError onCrash p =
      onOk () { p with state := { p.state with cancellation := cancellation } } := rfl

@[simp] theorem wp_notifyAll :
    notifyAll.wp onOk onError onCrash p =
      onOk () { p with state := { p.state with notifications := p.state.notifications + 1 } } := rfl

end

/-! ## The lifecycle file -/

def loadLifecycleLedger : Proc Host CloudLifecycleError (Option CloudLifecycleLedger) := do
  match ← readFile lifecycleFile CloudLifecycleLedger.invalidLedger
      CloudLifecycleLedger.unavailableLedger with
  | none => return none
  | some ledger => do
      Proc.ofExcept ledger.validate
      return some ledger

def persistLifecycleLedger (ledger : CloudLifecycleLedger) :
    Proc Host CloudLifecycleError Unit := do
  Proc.ofExcept ledger.validate
  replaceFile (·.writeLifecycle ledger) (storeLifecycle ledger) CloudLifecycleLedger.invalidLedger
    CloudLifecycleLedger.unavailableLedger

def removeLifecycleLedger : Proc Host CloudLifecycleError Unit := do
  match (← Proc.get).lifecycleFile with
  | none => Proc.fail CloudLifecycleLedger.unavailableLedger
  | some _ =>
      replaceFile (·.removeLifecycle) dropLifecycle CloudLifecycleLedger.invalidLedger
        CloudLifecycleLedger.unavailableLedger

def persist (ledger : CloudLifecycleLedger) : OrchestratorProc Unit := do
  onRunner acquireScope
  onHost (persistLifecycleLedger ledger)

/-- Persist after an effect outside happened: any failure needs recovery. -/
def persistAfterEffect (ledger : CloudLifecycleLedger) : OrchestratorProc Unit :=
  (persist ledger).mapError fun _ => recoveryRequired ledger.operationId

def remove : OrchestratorProc Unit := do
  onRunner acquireScope
  onHost removeLifecycleLedger

/-! ## Start -/

/-- What the first section of `start` hands to the second. -/
structure StartTicket where
  operationId : CloudSubmitOperationId
  prior : Option CloudLifecycleLedger
  deriving Repr, DecidableEq

section

variable (runner : CloudTaskRunner)

/-- The first section of `start`: claim the slot and make the intent durable. -/
def startBegin : OrchestratorProc StartTicket := do
  let state ← getState
  if state.ledger.any fun ledger => !ledger.phase.isTerminal then
    Proc.fail (currentError .turnAlreadyRunning state.ledger)
  else do
    let op ← onHost newOperationId
    match ← (onHost (runner.observeSubmit op)).attempt with
    | .error error => Proc.fail (mapRunnerError error)
    | .ok .absent => do
        let submitting := CloudLifecycleLedger.submitting op
        persist submitting
        setLedger (some submitting)
        setCancellation (some {})
        return ⟨op, state.ledger⟩
    | .ok .failedBeforeSpawn | .ok .outcomeUnknown | .ok (.taskRecorded _)
    | .ok .explicitlyAbandoned => Proc.fail (.forOperation .operationConflict op)

/-- The unlocked part of `start`. The signal is shared with cancelers, so the submit sees
the requests made until it returns. -/
def startSubmit (ticket : StartTicket) (prompt : CloudPrompt) :
    OrchestratorProc (Except CloudRunnerError CloudSubmission) := do
  let cancellation := (← getState).cancellation.getD {}
  (onHost (runner.submit ⟨ticket.operationId, prompt⟩ cancellation)).attempt

/-- Give the slot back to the operation before; the submit reported another one. -/
def rollbackAfterConflict (ticket : StartTicket) (conflicting : CloudSubmitOperationId) :
    OrchestratorProc CloudLifecycle := do
  let restored ← (match ticket.prior with
    | some ledger => persist ledger
    | none => remove).attempt
  setCancellation none
  notifyAll
  match restored with
  | .ok () => do
      setLedger ticket.prior
      Proc.fail (.forOperation .operationConflict conflicting)
  | .error _ => Proc.fail (recoveryRequired ticket.operationId)

/-- The slot no longer holds this submit, or its uncertain outcome names no operation. -/
def loseSlot (ticket : StartTicket) : OrchestratorProc CloudLifecycle := do
  setCancellation none
  notifyAll
  Proc.fail (recoveryRequired ticket.operationId)

/-- Make the recorded outcome of a submit durable and visible. -/
def commitStart (recorded : Except CloudLifecycleError CloudLifecycleLedger) :
    OrchestratorProc CloudLifecycle := do
  let next ← Proc.ofExcept recorded
  match ← (persistAfterEffect next).attempt with
  | .error error => do
      setCancellation none
      notifyAll
      Proc.fail error
  | .ok () => do
      let lifecycle ← Proc.ofExcept next.lifecycle
      setLedger (some next)
      setCancellation none
      notifyAll
      return lifecycle

/-- The second section of `start`: commit what the submit reported. -/
def startCommit (ticket : StartTicket) (result : Except CloudRunnerError CloudSubmission) :
    OrchestratorProc CloudLifecycle := do
  match (← getState).ledger with
  | none => loseSlot ticket
  | some ledger =>
      if ledger.operationId ≠ ticket.operationId ∨ ledger.phase ≠ .submitting then
        loseSlot ticket
      else match result with
        | .ok submission =>
            if submission.operationId ≠ ticket.operationId then
              rollbackAfterConflict ticket submission.operationId
            else commitStart (ledger.recordStatus submission.taskId .pending)
        | .error error =>
            match error.operationId.filter (· ≠ ticket.operationId) with
            | some reported => rollbackAfterConflict ticket reported
            | none => match error.category with
                | .canceledBeforeStart => commitStart ledger.recordCanceledWithoutTask
                | .outcomeUnknown | .recoveryRequired =>
                    if error.operationId ≠ some ticket.operationId then loseSlot ticket
                    else commitStart ledger.recordOutcomeUnknown
                | .operationConflict =>
                    rollbackAfterConflict ticket (error.operationId.getD ticket.operationId)
                | _ => commitStart ledger.recordFailedBeforeSubmit

/-! ## Inspect, reconcile and resolve -/

/-- At most one provider status read, for a pending task. -/
def inspect : OrchestratorProc CloudLifecycle := do
  let ledger ← currentLedger
  let current ← Proc.ofExcept ledger.lifecycle
  match current with
  | .pending op task => do
      let status ← (onHost (CloudTaskRunner.status task)).mapError (mapProviderRead op)
      let next ← Proc.ofExcept (ledger.recordStatus task status)
      persistAfterEffect next
      let lifecycle ← Proc.ofExcept next.lifecycle
      setLedger (some next)
      return lifecycle
  | .submitting op => Proc.fail (.forOperation .turnAlreadyRunning op)
  | .outcomeUnknown op => Proc.fail (.forOperation .outcomeUnknown op)
  | .failedBeforeSubmit _ | .ready _ _ | .applied _ _ | .providerError _ _
  | .canceledLocally _ _ _ | .abandonedUnknown _ => return current

def requirePhase (expected : CloudLifecyclePhase) : OrchestratorProc CloudLifecycleLedger := do
  let ledger ← currentLedger
  if ledger.phase = expected then return ledger
  else Proc.fail (.forOperation .wrongState ledger.operationId)

/-- Record one bounded reconciliation for the current unknown submit. -/
def reconcileUnknown : OrchestratorProc CloudReconciliation := do
  let ledger ← requirePhase .outcomeUnknown
  let reconciliation ← onRunner runner.reconcileUnknown
  if reconciliation.operationId ≠ ledger.operationId then
    Proc.fail (.forOperation .operationConflict reconciliation.operationId)
  else do
    let next ← Proc.ofExcept (ledger.recordReconciliation
      (reconciliation.tasks.map CloudTaskSummary.id) reconciliation.complete)
    persistAfterEffect next
    setLedger (some next)
    return reconciliation

/-- Whether a finished operation was finished by exactly this decision. -/
def replaysDecision : UnknownSubmitDecision → CloudLifecycle → Bool
  | .adoptListedTask requested, .pending _ task | .adoptListedTask requested, .ready _ task
  | .adoptListedTask requested, .applied _ task
  | .adoptListedTask requested, .providerError _ task => requested == task
  | .abandonAfterReconciliation acknowledgement, .abandonedUnknown op =>
      acknowledgement.operationId == op
  | _, _ => false

def replayResolution (ledger : CloudLifecycleLedger) (decision : UnknownSubmitDecision) :
    Except CloudLifecycleError CloudLifecycle := do
  let lifecycle ← ledger.lifecycle
  if 0 < ledger.reconciliationGeneration ∧ replaysDecision decision lifecycle then .ok lifecycle
  else .error (.forOperation .staleDecision ledger.operationId)

/-- The second half of `resolveUnknown`, once the decision is checked: the submit ledger is
closed first, then the lifecycle ledger. -/
def commitResolution (ledger : CloudLifecycleLedger) (resolution : CloudUnknownResolution)
    (expected : CloudSubmitObservation)
    (recorded : Except CloudLifecycleError CloudLifecycleLedger) :
    OrchestratorProc CloudLifecycle := do
  let observation ← onRunner (runner.resolveUnknown ledger.operationId resolution)
  if observation ≠ expected then
    Proc.fail (.forOperation .operationConflict ledger.operationId)
  else do
    let next ← (Proc.ofExcept recorded).mapError fun _ => recoveryRequired ledger.operationId
    persistAfterEffect next
    let lifecycle ← Proc.ofExcept next.lifecycle
    setLedger (some next)
    return lifecycle

/-- Apply one explicit decision to the current unknown submit. -/
def resolveUnknown (op : CloudSubmitOperationId) (decision : UnknownSubmitDecision) :
    OrchestratorProc CloudLifecycle := do
  let ledger ← currentLedger
  if ledger.operationId ≠ op then Proc.fail (.forOperation .staleDecision op)
  else if ledger.phase.isTerminal ∨ ledger.phase = .pending then
    Proc.ofExcept (replayResolution ledger decision)
  else if ledger.phase ≠ .outcomeUnknown ∨ ledger.reconciliationGeneration = 0 then
    Proc.fail (.forOperation .wrongState op)
  else match decision with
    | .adoptListedTask task =>
        if ledger.reconciliationComplete ≠ some true ∨ ledger.hasCandidate task = false then
          Proc.fail (.forOperation .taskNotListed op)
        else do
          let status ← (onHost (CloudTaskRunner.status task)).mapError (mapProviderRead op)
          commitResolution runner ledger (.adoptListedTask task) (.taskRecorded ⟨op, task⟩)
            (ledger.recordStatus task status)
    | .abandonAfterReconciliation acknowledgement =>
        if acknowledgement.operationId ≠ op then
          Proc.fail (.forOperation .acknowledgementRequired op)
        else
          commitResolution runner ledger .explicitlyAbandon .explicitlyAbandoned
            ledger.recordAbandonedUnknown

/-! ## Cancel -/

/-- One pass of `cancel` under the lock: it answers, or it requests the cancellation of the
submit in flight and has to wait for it. -/
inductive CancelPass where
  | answered (lifecycle : CloudLifecycle)
  | waiting (operationId : CloudSubmitOperationId)
  deriving Repr, DecidableEq

def cancel : OrchestratorProc CancelPass := do
  let ledger ← currentLedger
  let current ← Proc.ofExcept ledger.lifecycle
  match current with
  | .submitting op => do
      match (← getState).cancellation with
      | none => Proc.fail (recoveryRequired op)
      | some _ => do
          setCancellation (some ⟨true⟩)
          return .waiting op
  | .pending _ _ => do
      let next ← Proc.ofExcept ledger.recordCanceledWithTask
      persistAfterEffect next
      let lifecycle ← Proc.ofExcept next.lifecycle
      setLedger (some next)
      return .answered lifecycle
  | .outcomeUnknown _ | .failedBeforeSubmit _ | .ready _ _ | .applied _ _ | .providerError _ _
  | .canceledLocally _ _ _ | .abandonedUnknown _ => return .answered current

/-! ## Construction -/

/-- The record a restart writes for an interrupted submit; `none` leaves it as it is. -/
def repairedLedger (current : CloudLifecycleLedger) (observation : CloudSubmitObservation) :
    Except CloudLifecycleError (Option CloudLifecycleLedger) :=
  let op := current.operationId
  match current.phase, observation with
  | .submitting, .absent | .submitting, .failedBeforeSpawn =>
      current.recordFailedBeforeSubmit.map some
  | .submitting, .outcomeUnknown => current.recordOutcomeUnknown.map some
  | .submitting, .taskRecorded submission | .outcomeUnknown, .taskRecorded submission =>
      if submission.operationId ≠ op then
        .error (.forOperation .operationConflict submission.operationId)
      else (current.recordStatus submission.taskId .pending).map some
  | .submitting, .explicitlyAbandoned => do
      let unknown ← current.recordOutcomeUnknown
      unknown.recordAbandonedUnknown.map some
  | .outcomeUnknown, .explicitlyAbandoned => current.recordAbandonedUnknown.map some
  | .outcomeUnknown, .outcomeUnknown => .ok none
  | _, _ => .error (.forOperation .operationConflict op)

/-- Bring an interrupted submission to a state that agrees with the submit ledger. -/
def repairInterruptedState : OrchestratorProc Unit := do
  match (← getState).ledger with
  | none => return ()
  | some current =>
      if current.phase ≠ .submitting ∧ current.phase ≠ .outcomeUnknown then return ()
      else do
        let observation ← onRunner (runner.observeSubmit current.operationId)
        match ← Proc.ofExcept (repairedLedger current observation) with
        | none => return ()
        | some repaired => do
            persist repaired
            setLedger (some repaired)

/-- Load the lifecycle ledger the way construction does. -/
def loadWithRunner : Proc Host CloudLifecycleError (Option CloudLifecycleLedger) := do
  acquireScope.mapError mapRunnerError
  loadLifecycleLedger

/-- Construction of an orchestrator on a host. -/
def fromRunner : OrchestratorProc Unit := do
  let ledger ← onHost loadWithRunner
  Proc.modify fun process => { process with state := ⟨ledger, none, 0⟩ }
  repairInterruptedState runner

end

end Codebox.Cloud
