import Codebox.Cloud.Machine
import Codebox.Session.Sections

/-! # The session runtime over the orchestrator

One process: the orchestrator, the runtime's state, the worker thread and any number of command
callers. A step is one section under one of the two locks, the unlocked submit, or the passing of
time; the steps of the worker and of the callers come in any order. A process that dies takes no
further step.
-/

namespace Codebox.Session

open Codebox.Support Codebox.Cloud

/-- A caller of `cancel_turn` after its first section. -/
inductive CancelStage where
  /-- About to take the orchestrator's lock: for the first time, after the admission poll, or
  woken while the submit was in flight. A condition variable may wake without a notification. -/
  | calling
  | answered (lifecycle : CloudLifecycle)
  | failed (error : CloudLifecycleError)
  /-- The clock is read: poll again, or give up. -/
  | polling
  | givingUp (error : CloudLifecycleError)
  deriving Repr, DecidableEq

/-- What a command returned. -/
inductive P0Reply where
  | snapshot (snapshot : P0SessionSnapshot)
  | candidates (candidates : P0RecoveryCandidates)
  | joined
  deriving Repr, DecidableEq

/-- A command caller. -/
inductive Caller where
  | idle
  | observing
  | canceling (turn : TurnId) (admissionMayBePending : Bool) (deadline : Nat) (stage : CancelStage)
  | reconciling (actor : P0Actor) (expected : CloudSubmitOperationId)
  | reconciled (actor : P0Actor) (expected : CloudSubmitOperationId)
      (result : Except CloudLifecycleError CloudReconciliation)
  | resolving (actor : P0Actor) (operationId : CloudSubmitOperationId) (decision : UnknownSubmitDecision)
  | resolved (actor : P0Actor) (operationId : CloudSubmitOperationId) (decision : UnknownSubmitDecision)
      (result : Except CloudLifecycleError CloudLifecycle)
  | shuttingDown
  | joining
  | returned (result : Except P0SessionError P0Reply)

/-- Where the worker thread stands. -/
inductive Worker where
  | idle
  | claimed (turn : TurnId) (prompt : CloudPrompt)
  | admitted (turn : TurnId) (prompt : CloudPrompt)
  | submitting (turn : TurnId) (ticket : StartTicket) (prompt : CloudPrompt)
  | submitted (turn : TurnId) (ticket : StartTicket) (result : Except CloudRunnerError CloudSubmission)
  | started (turn : TurnId) (result : Except CloudLifecycleError CloudLifecycle)
  | monitoring (turn : TurnId) (failures : Nat)
  | monitored (turn : TurnId) (failures : Nat) (result : Except CloudLifecycleError CloudLifecycle)
  /-- `afterStart` tells the cancellation that follows a start from the one the worker chose. -/
  | canceling (turn : TurnId) (afterStart : Bool)
  | canceled (turn : TurnId) (afterStart : Bool) (result : Except CloudLifecycleError CloudLifecycle)
  | failing (turn : TurnId)
  | exited

structure Sys where
  process : Process
  runtime : RuntimeState
  worker : Worker
  callers : Nat → Caller
  now : Nat
  /-- How many turn identifiers have been handed out. -/
  turns : Nat
  /-- Whether the worker's thread has not been joined yet. -/
  handle : Bool
  /-- Which turn's lower start created which operation; no step reads it. -/
  starts : List (TurnId × CloudSubmitOperationId)

inductive Label where
  | startTurn (prompt : CloudPrompt)
  | cancelTurn (caller : Nat) (actor : P0Actor)
  | reconcileUnknown (caller : Nat) (actor : P0Actor)
  | resolveUnknown (caller : Nat) (actor : P0Actor) (operationId : CloudSubmitOperationId)
      (decision : UnknownSubmitDecision)
  | shutdown (caller : Nat)
  | subscribe (session : SessionId) (afterSeq : Nat)
  | receive (subscriber : Nat)
  | dropReceiver (subscriber : Nat)
  /-- The next section of a command. -/
  | call (caller : Nat)
  /-- The next section of the worker. -/
  | worker
  | elapse (duration : Nat)

/-- One second, as every duration here in nanoseconds. -/
def cancelAdmissionLimit : Nat := 1000000000

namespace Sys

/-- The state after a call of the orchestrator; none if the process died in it. -/
def resume {α : Type} (ran : Outcome CloudLifecycleError α × Process)
    (next : Except CloudLifecycleError α → Process → Sys) : Option Sys :=
  match ran with
  | (.ok value, process) => some (next (.ok value) process)
  | (.error error, process) => some (next (.error error) process)
  | (.crashed, _) => none

def setCaller (sys : Sys) (caller : Nat) (next : Caller) : Sys :=
  { sys with callers := Function.update sys.callers caller next }

/-- A caller that takes part in the cancellation of a turn. -/
def cancelNext (sys : Sys) (caller : Nat) (turn : TurnId) (admissionMayBePending : Bool) (deadline : Nat)
    (stage : CancelStage) : Sys :=
  sys.setCaller caller (.canceling turn admissionMayBePending deadline stage)

/-- What a caller does after the first section of `cancel_turn`. -/
def afterEntry (now : Nat) : Except P0SessionError RuntimeState.CancelEntry → Caller
  | .error error => .returned (.error error)
  | .ok (.finished snapshot) => .returned (.ok (.snapshot snapshot))
  | .ok .joined => .observing
  | .ok (.proceed turn pending) => .canceling turn pending (now + cancelAdmissionLimit) .calling

def enterCancel (inner : Inner) (sys : Sys) (caller : Nat) (actor : P0Actor) : Sys :=
  let entered := sys.runtime.cancelTurn inner actor
  { sys with runtime := entered.2 }.setCaller caller (afterEntry sys.now entered.1)

/-- One section of a cancellation by an operator. -/
def stepCancel (inner : Inner) (sys : Sys) (caller : Nat) (turn : TurnId) (pending : Bool) (deadline : Nat) :
    CancelStage → Option Sys
  | .calling =>
      resume (Cloud.cancel sys.process) fun result process =>
        { sys with process := process }.cancelNext caller turn pending deadline (match result with
          | .ok (.waiting _) => .calling
          | .ok (.answered lifecycle) => .answered lifecycle
          | .error error => .failed error)
  | .answered lifecycle =>
      let committed := sys.runtime.commitCancelResult inner turn lifecycle
      some ({ sys with runtime := committed.2 }.setCaller caller (.returned (committed.1.map .snapshot)))
  | .failed error =>
      let polls := pending && error.category == CloudLifecycleErrorCategory.noCurrentOperation && decide (sys.now < deadline)
      some (sys.cancelNext caller turn pending deadline (if polls then .polling else .givingUp error))
  | .polling =>
      some (if sys.runtime.cancelIsCompleted turn then
          sys.setCaller caller (.returned (.ok (.snapshot (sys.runtime.snapshot inner))))
        else sys.cancelNext caller turn pending deadline .calling)
  | .givingUp error =>
      let runtime := sys.runtime.releaseCancel turn
      some ({ sys with runtime := runtime }.setCaller caller (.returned
        (if pending ∧ error.category = CloudLifecycleErrorCategory.noCurrentOperation then
            .ok (.snapshot (runtime.snapshot inner))
          else .error (mapLowerError error))))

/-- The second section of a reconciliation, once the orchestrator answered. -/
def finishReconcile (inner : Inner) (sys : Sys) (caller : Nat) (actor : P0Actor)
    (expected : CloudSubmitOperationId) : Except CloudLifecycleError CloudReconciliation → Sys
  | .error error => sys.setCaller caller (.returned (.error (mapLowerError error)))
  | .ok found =>
      let candidates : P0RecoveryCandidates :=
        ⟨found.operationId, found.tasks.map CloudTaskSummary.id, found.complete⟩
      if candidates.operationId ≠ expected then
        sys.setCaller caller (.returned (.error (.forOperation .lowerConflict candidates.operationId)))
      else
        let committed := sys.runtime.commitReconcile inner actor expected candidates
        { sys with runtime := committed.2 }.setCaller caller (.returned (committed.1.map .candidates))

def finishResolve (inner : Inner) (sys : Sys) (caller : Nat) (actor : P0Actor)
    (op : CloudSubmitOperationId) (decision : UnknownSubmitDecision) :
    Except CloudLifecycleError CloudLifecycle → Sys
  | .error error => sys.setCaller caller (.returned (.error (mapLowerError error)))
  | .ok projected =>
      if projected.operationId ≠ op then
        sys.setCaller caller (.returned (.error (.forOperation .lowerConflict projected.operationId)))
      else
        let committed := sys.runtime.commitResolve inner sys.now actor op decision projected
        { sys with runtime := committed.2 }.setCaller caller (.returned (committed.1.map .snapshot))

section

variable (inner : Inner) (runner : CloudTaskRunner)

def stepCaller (sys : Sys) (caller : Nat) : Caller → Option Sys
  | .idle | .returned _ => none
  | .observing =>
      some (sys.setCaller caller (.returned (.ok (.snapshot (sys.runtime.snapshot inner)))))
  | .canceling turn pending deadline stage => stepCancel inner sys caller turn pending deadline stage
  | .reconciling actor expected =>
      resume (Cloud.reconcileUnknown runner sys.process) fun result process =>
        { sys with process := process }.setCaller caller (.reconciled actor expected result)
  | .reconciled actor expected result => some (finishReconcile inner sys caller actor expected result)
  | .resolving actor op decision =>
      resume (Cloud.resolveUnknown runner op decision sys.process) fun result process =>
        { sys with process := process }.setCaller caller (.resolved actor op decision result)
  | .resolved actor op decision result => some (finishResolve inner sys caller actor op decision result)
  | .shuttingDown =>
      -- the first caller takes the handle and waits for the thread; the others find none
      if sys.handle then some ({ sys with handle := false }.setCaller caller .joining)
      else some (sys.setCaller caller (.returned (.ok .joined)))
  | .joining => match sys.worker with
      | .exited => some (sys.setCaller caller (.returned (.ok .joined)))
      | _ => none

/-- Where the worker goes from its choice. -/
def chosen : RuntimeState.WorkerAction → Worker
  | .start turn prompt => .claimed turn prompt
  | .monitor turn failures => .monitoring turn failures
  | .cancel turn => .canceling turn false
  | .stop => .exited

def stepWorker (sys : Sys) : Worker → Option Sys
  | .exited => none
  | .idle =>
      (sys.runtime.nextWorkerAction inner sys.now).map fun (action, runtime) =>
        { sys with runtime := runtime, worker := chosen action }
  | .claimed turn prompt =>
      let looked := sys.runtime.admitStart inner turn
      some { sys with runtime := looked.2, worker := if looked.1 then .admitted turn prompt else .idle }
  | .admitted turn prompt =>
      resume (Cloud.startBegin runner sys.process) fun result process => match result with
        | .ok ticket => { sys with
            process := process
            worker := .submitting turn ticket prompt
            starts := sys.starts ++ [(turn, ticket.operationId)] }
        | .error error => { sys with process := process, worker := .started turn (.error error) }
  | .submitting turn ticket prompt =>
      resume (Cloud.startSubmit runner ticket prompt sys.process) fun result process => match result with
        | .ok submitted => { sys with process := process, worker := .submitted turn ticket submitted }
        | .error error => { sys with process := process, worker := .started turn (.error error) }
  | .submitted turn ticket submitted =>
      resume (Cloud.startCommit ticket submitted sys.process) fun result process =>
        { sys with process := process, worker := .started turn result }
  | .started turn result =>
      let handled := sys.runtime.handleStartResult inner sys.now turn result
      some { sys with runtime := handled.2, worker := if handled.1 then .canceling turn true else .idle }
  | .monitoring turn failures =>
      resume (Cloud.inspect sys.process) fun result process =>
        { sys with process := process, worker := .monitored turn failures result }
  | .monitored turn failures result =>
      some { sys with
        runtime := sys.runtime.handleMonitorResult inner sys.now turn failures result
        worker := .idle }
  | .canceling turn afterStart =>
      resume (Cloud.cancel sys.process) fun result process =>
        { sys with process := process, worker := match result with
          | .ok (.waiting _) => .canceling turn afterStart
          | .ok (.answered lifecycle) => .canceled turn afterStart (.ok lifecycle)
          | .error error => .canceled turn afterStart (.error error) }
  | .canceled turn _ (.error _) =>
      some { sys with runtime := sys.runtime.stopAfterLowerFailure inner turn, worker := .idle }
  | .canceled turn afterStart (.ok lifecycle) =>
      match sys.runtime.commitWorkerCancel inner turn lifecycle with
      | .ok runtime => some { sys with runtime := runtime, worker := .idle }
      -- the cancellation after a start drops the error
      | .error _ => some { sys with worker := if afterStart then .idle else .failing turn }
  | .failing turn =>
      some { sys with runtime := sys.runtime.stopAfterLowerFailure inner turn, worker := .idle }

/-- What a caller does after the first section of `shutdown`. -/
def afterRequest : Except P0SessionError Unit → Caller
  | .error error => .returned (.error error)
  | .ok () => .shuttingDown

/-- A fresh command of a caller that has none yet. -/
def enter (sys : Sys) (caller : Nat) (next : Sys) : Option Sys :=
  match sys.callers caller with
  | .idle => some next
  | _ => none

def step (sys : Sys) : Label → Option Sys
  | .startTurn prompt =>
      some { sys with
        runtime := (sys.runtime.startTurn inner (sys.turns + 1) prompt).2
        turns := sys.turns + 1 }
  | .cancelTurn caller actor => sys.enter caller (sys.enterCancel inner caller actor)
  | .reconcileUnknown caller actor => sys.enter caller (sys.setCaller caller
      (match sys.runtime.enterReconcile with
        | .error error => .returned (.error error)
        | .ok expected => .reconciling actor expected))
  | .resolveUnknown caller actor op decision => sys.enter caller (sys.setCaller caller
      (match sys.runtime.enterResolve op with
        | .error error => .returned (.error error)
        | .ok () => .resolving actor op decision))
  | .shutdown caller =>
      let requested := sys.runtime.requestShutdown inner
      sys.enter caller ({ sys with runtime := requested.2 }.setCaller caller (afterRequest requested.1))
  | .subscribe session afterSeq =>
      some { sys with runtime := (sys.runtime.subscribe inner session afterSeq).2 }
  | .receive subscriber => some { sys with runtime := sys.runtime.receive subscriber }
  | .dropReceiver subscriber => some { sys with runtime := sys.runtime.dropReceiver subscriber }
  | .call caller => sys.stepCaller inner runner caller (sys.callers caller)
  | .worker => sys.stepWorker inner runner sys.worker
  | .elapse duration => some { sys with now := sys.now + duration }

/-! ## Construction -/

/-- The turn a runtime begins with: the operation its first inspection finds, if any. -/
def initialTurn (turn : TurnId) (lifecycle : CloudLifecycle) : TurnRecord where
  turnId := turn
  projection := .cloud lifecycle false

def initialState (now : Nat) (turn : TurnId) (result : Except CloudLifecycleError CloudLifecycle) :
    Except P0SessionError RuntimeState :=
  match result with
  | .ok (.submitting op) => .error (.forOperation .lowerConflict op)
  | .ok lifecycle => .ok {
      sessionState := stateForLifecycle lifecycle
      currentTurn := some (initialTurn turn lifecycle)
      work := if lifecycle.isPending then some (.monitor turn (now + inner.config.pollInterval) 0) else none }
  | .error error => match error.category, error.operationId with
      | .noCurrentOperation, _ => .ok { sessionState := .ready, currentTurn := none, work := none }
      | .outcomeUnknown, some op => .ok {
          sessionState := .recoveryRequired
          currentTurn := some (initialTurn turn (.outcomeUnknown op))
          work := none }
      | _, _ => .error (mapLowerError error)

def build (process : Process) (result : Except CloudLifecycleError CloudLifecycle) : Option Sys :=
  let turn := 1
  match initialState inner 0 turn result with
  | .error _ => none
  | .ok runtime => some {
      process := process
      runtime := runtime
      worker := .idle
      callers := fun _ => .idle
      now := 0
      turns := turn
      handle := true
      starts := runtime.currentOperation.toList.map fun op => (turn, op) }

/-- `P0SessionRuntime::new` over an orchestrator that nobody else uses. -/
def new (process : Process) : Option Sys :=
  match Cloud.inspect process with
  | (.ok lifecycle, process) => build inner process (.ok lifecycle)
  | (.error error, process) => build inner process (.error error)
  | (.crashed, _) => none

/-- Runs of a runtime built over an orchestrator after any run of that orchestrator alone. -/
def system (env : Nat → Answers) : System Sys Label where
  initial sys := ∃ process, (Machine.system runner env).Reachable (.up process none) ∧
    new inner process = some sys
  step := step inner runner

end

end Sys

end Codebox.Session
