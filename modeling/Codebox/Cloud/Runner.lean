import Codebox.Login.Runtime

/-! # The Cloud task runner

The trusted runner of the pinned command line tool: submit, status, reconciliation and
resolution of an unknown submit, all over one durable submit ledger. Each public function
takes the scope lease first and classifies whatever an earlier process left behind.
-/

namespace Codebox.Cloud

open Codebox.Support Codebox.Login Codebox.Host

/-- The administrator configuration a runner was built with. -/
structure CloudTaskRunner where
  environment : CloudEnvironmentId
  branch : CloudBranch
  deriving Repr, DecidableEq

/-- The one-way cancellation signal of a command, as it stands when the command returns. -/
structure CloudCancellation where
  requested : Bool := false
  deriving Repr, DecidableEq

structure CloudSubmitRequest where
  operationId : CloudSubmitOperationId
  prompt : CloudPrompt

inductive CloudCommandEnd where
  | exited | canceled | timedOut
  deriving Repr, DecidableEq

/-- A finished command: how it ended, and its output if the decoder accepts it. -/
structure CloudCommandCompletion (α : Type) where
  ending : CloudCommandEnd
  output : Option α

def maxReconciliationPages : Nat := 5
def maxReconciliationTasks : Nat := 100

def mapScopeError : CredentialScopeError → CloudRunnerError
  | .loginAlreadyRunning => ⟨.busy, none⟩
  | .rejected => ⟨.scope, none⟩

def mapLoginLedgerError : LoginBrokerError → CloudRunnerError
  | .ledgerInvalid | .outcomeUnknown => ⟨.loginOutcomeUnknown, none⟩
  | _ => ⟨.process, none⟩

def mapRuntimeError : LoginBrokerError → CloudRunnerError
  | .versionMismatch => ⟨.version, none⟩
  | .statusUnavailable => ⟨.notAuthenticated, none⟩
  | .providerOutputInvalid | .outputLimitExceeded => ⟨.providerOutput, none⟩
  | .credentialScope error => mapScopeError error
  | .loginAlreadyRunning => ⟨.busy, none⟩
  | .ledgerInvalid | .ledgerUnavailable | .outcomeUnknown => ⟨.loginOutcomeUnknown, none⟩
  | .alreadyLoggedIn | .loginFailed | .process => ⟨.process, none⟩

end Codebox.Cloud

namespace Codebox

open Codebox.Support Codebox.Login Codebox.Cloud Codebox.Host

def SpawnFailure.error : SpawnFailure → CloudRunnerError
  | invocation error => mapScopeError error
  | spawn error | identity error => mapRuntimeError error
  | pipe => ⟨.process, none⟩

def SpawnFailure.mayHaveStarted : SpawnFailure → Bool
  | invocation _ | spawn _ => false
  | identity _ | pipe => true

def WaitFailure.error : WaitFailure → CloudRunnerError
  | poll timedOut => ⟨if timedOut then .timeout else .process, none⟩
  | capture error => mapRuntimeError error

end Codebox

namespace Codebox.Cloud

open Codebox.Support Codebox.Login Codebox.Host

abbrev RunnerProc := Proc Host CloudRunnerError

/-! ## The ledger file -/

def acquireScope : RunnerProc Unit := do
  match (← ask).scope with
  | none => return ()
  | some error => Proc.fail (mapScopeError error)

def loadCloudLedger : RunnerProc (Option CloudSubmitLedger) := do
  match ← readFile submitFile CloudSubmitLedger.ledgerInvalid ⟨.ledgerUnavailable, none⟩ with
  | none => return none
  | some ledger => do
      Proc.ofExcept ledger.validate
      return some ledger

def persistCloudLedger (ledger : CloudSubmitLedger) : RunnerProc Unit := do
  Proc.ofExcept ledger.validate
  replaceFile (·.writeSubmit ledger) (storeSubmit ledger) CloudSubmitLedger.ledgerInvalid
    ⟨.ledgerUnavailable, none⟩

/-! ## The command line tool -/

def verifyVersion : RunnerProc Unit := do
  match (← ask).version with
  | none => return ()
  | some error => Proc.fail (mapRuntimeError error)

def loginStatus : RunnerProc PinnedStatus := do
  match (← ask).loginStatus with
  | .ok status => return status
  | .error error => Proc.fail (mapRuntimeError error)

def ensureDiagnosticSentinel : RunnerProc Unit := do
  if (← ask).sentinel then return () else Proc.fail ⟨.diagnosticBoundary, none⟩

def isCancelled (cancellation : CloudCancellation) : RunnerProc Bool := do
  return cancellation.requested && (← ask).cancellationVisible

/-- Start one child. `observe` is what an observer sees once the child exists. -/
def startCommand (observe : Host → Host) : Proc Host SpawnFailure ProcessIdentity := do
  match (← ask).spawn with
  | .ok process => do
      Proc.modify observe
      return process
  | .error failure => do
      if failure.mayHaveStarted then Proc.modify observe
      Proc.fail failure

/-- Poll the child until it is canceled, exits or runs out of time. -/
def wait {α : Type} (cancellation : CloudCancellation) (decode : Answers → Option α) :
    RunnerProc (CloudCommandCompletion α) := do
  let answers ← ask
  match answers.waitFailure with
  | some failure => Proc.fail failure.error
  | none =>
      if cancellation.requested && answers.cancellationVisible then return ⟨.canceled, none⟩
      else if answers.timedOut then return ⟨.timedOut, none⟩
      else return ⟨.exited, decode answers⟩

/-- A read-only command with a signal of its own that nobody requests. -/
def runRead {α : Type} (decode : Answers → Option α) : RunnerProc (Option α) := do
  let _ ← (startCommand id).mapError SpawnFailure.error
  let completion ← wait {} decode
  match completion.ending with
  | .exited => return completion.output
  | .timedOut => Proc.fail ⟨.timeout, none⟩
  | .canceled => Proc.fail ⟨.process, none⟩

namespace CloudTaskRunner

variable (runner : CloudTaskRunner)

/-! ## Classification of what is on disk -/

def requireMatchingConfig (ledger : CloudSubmitLedger) : RunnerProc Unit :=
  if ledger.matchesConfig runner.environment runner.branch then return ()
  else Proc.fail CloudSubmitLedger.ledgerInvalid

/-- Close what an interrupted submit left open: a bare intent never spawned, anything
later may have. -/
def closeInterrupted (ledger : CloudSubmitLedger) : RunnerProc CloudSubmitLedger :=
  match ledger.latest with
  | .intent => do
      let ledger ← Proc.ofExcept (ledger.append .failedBeforeSpawn)
      persistCloudLedger ledger
      return ledger
  | .authorized | .started => do
      let ledger ← Proc.ofExcept (ledger.append .outcomeUnknown)
      persistCloudLedger ledger
      return ledger
  | .taskRecorded | .failedBeforeSpawn | .outcomeUnknown | .reconciliationObserved
  | .taskAdopted | .explicitlyAbandoned => return ledger

def recoverCurrentLedger : RunnerProc (Option CloudSubmitLedger) := do
  match ← loadCloudLedger with
  | none => return none
  | some ledger => do
      runner.requireMatchingConfig ledger
      return some (← closeInterrupted ledger)

def recordedTaskOrInvalid (ledger : CloudSubmitLedger) : Except CloudRunnerError CloudTaskId :=
  match ledger.recordedTask with
  | some task => .ok task
  | none => .error CloudSubmitLedger.ledgerInvalid

/-- The answer an existing ledger gives to a submit; `none` lets the submit proceed. -/
def dispatchExisting (requested : CloudSubmitOperationId) :
    Option CloudSubmitLedger → Option (Except CloudRunnerError CloudSubmission)
  | none => none
  | some ledger =>
      if ledger.latest.isUnknown then
        some (.error (.forOperation .outcomeUnknown ledger.operationId))
      else if ledger.operationId ≠ requested then
        if ledger.latest.permitsNewOperation then none
        else some (.error (.forOperation .outcomeUnknown ledger.operationId))
      else match ledger.latest with
        | .taskRecorded | .taskAdopted =>
            some ((recordedTaskOrInvalid ledger).map fun task => ⟨requested, task⟩)
        | .failedBeforeSpawn => some (.error (.forOperation .priorFailedBeforeSpawn requested))
        | .explicitlyAbandoned => some (.error (.forOperation .priorExplicitlyAbandoned requested))
        | .intent | .authorized | .started | .outcomeUnknown | .reconciliationObserved =>
            some (.error (.forOperation .outcomeUnknown requested))

def classifyObservation (requested : CloudSubmitOperationId) :
    Option CloudSubmitLedger → Except CloudRunnerError CloudSubmitObservation
  | none => .ok .absent
  | some ledger =>
      if ledger.operationId ≠ requested then
        if ledger.latest.permitsNewOperation then .ok .absent
        else .error (.forOperation .operationConflict ledger.operationId)
      else match ledger.latest with
        | .failedBeforeSpawn => .ok .failedBeforeSpawn
        | .outcomeUnknown | .reconciliationObserved => .ok .outcomeUnknown
        | .taskRecorded | .taskAdopted =>
            (recordedTaskOrInvalid ledger).map fun task => .taskRecorded ⟨requested, task⟩
        | .explicitlyAbandoned => .ok .explicitlyAbandoned
        | .intent | .authorized | .started => .error CloudSubmitLedger.ledgerInvalid

/-! ## Submit -/

def authorizeLogin : RunnerProc Unit := do
  match ← loadLedger.mapError mapLoginLedgerError with
  | some ledger =>
      if ledger.latest.isUncertain then Proc.fail ⟨.loginOutcomeUnknown, none⟩ else checkStatus
  | none => checkStatus
where
  checkStatus : RunnerProc Unit := do
    match ← loginStatus with
    | .loggedIn => return ()
    | .loggedOut => Proc.fail ⟨.notAuthenticated, none⟩

/-- Close a submit whose outcome is uncertain; a failure to do so needs recovery. -/
def persistUnknown (ledger : CloudSubmitLedger) : RunnerProc Unit := do
  let ledger ←
    if ledger.latest.isUnknown then pure ledger
    else Proc.ofExcept (ledger.append .outcomeUnknown)
  (persistCloudLedger ledger).mapError fun _ =>
    .forOperation .recoveryRequired ledger.operationId

/-- Leave with `error` after recording that nothing was spawned. -/
def failBeforeSpawn {α : Type} (ledger : CloudSubmitLedger) (error : CloudRunnerError) :
    RunnerProc α := do
  let ledger ← Proc.ofExcept (ledger.append .failedBeforeSpawn)
  persistCloudLedger ledger
  Proc.fail error

/-- Leave with an unknown outcome after recording it. -/
def failUnknown {α : Type} (ledger : CloudSubmitLedger) : RunnerProc α := do
  persistUnknown ledger
  Proc.fail (.forOperation .outcomeUnknown ledger.operationId)

/-- The end of a submit whose child printed its task. The record of the task is a copy, so
that a failed write can still be followed by a record of the unknown outcome. -/
def recordSubmission (ledger : CloudSubmitLedger) (task : CloudTaskId) :
    RunnerProc CloudSubmission := do
  let recorded ← Proc.ofExcept (ledger.recordTask task)
  match ← (persistCloudLedger recorded).attempt with
  | .ok () => return ⟨ledger.operationId, task⟩
  | .error _ => do
      let _ ← (persistUnknown ledger).attempt
      Proc.fail (.forOperation .recoveryRequired ledger.operationId)

/-- The part of a submit after the child runs: record it, wait for it, record its task. -/
def superviseSubmit (ledger : CloudSubmitLedger) (process : ProcessIdentity)
    (cancellation : CloudCancellation) : RunnerProc CloudSubmission := do
  let ledger ← Proc.ofExcept (ledger.recordStarted process)
  match ← (persistCloudLedger ledger).attempt with
  | .error _ => Proc.fail (.forOperation .recoveryRequired ledger.operationId)
  | .ok () => do
      match ← (wait cancellation (·.execOutput)).attempt with
      | .error _ => failUnknown ledger
      | .ok completion =>
          match completion.ending, completion.output with
          | .exited, some task => recordSubmission ledger task
          -- the command did not exit, or the decoder refuses its output
          | .exited, none | .canceled, _ | .timedOut, _ => failUnknown ledger

/-- The part of a submit after authorization is durable. -/
def executeSubmit (ledger : CloudSubmitLedger) (cancellation : CloudCancellation) :
    RunnerProc CloudSubmission := do
  if ← isCancelled cancellation then failUnknown ledger
  else
    match ← (startCommand (recordExec ledger.operationId)).attempt with
    | .ok process => superviseSubmit ledger process cancellation
    | .error failure =>
        if failure.mayHaveStarted then failUnknown ledger
        else failBeforeSpawn ledger (failure.error.withOperation ledger.operationId)

/-- The part of a submit that owns the ledger slot: intent, authorization, execution. -/
def freshSubmit (request : CloudSubmitRequest) (cancellation : CloudCancellation) :
    RunnerProc CloudSubmission := do
  verifyVersion
  let ledger := CloudSubmitLedger.new request.operationId runner.environment runner.branch
  persistCloudLedger ledger
  if ← isCancelled cancellation then
    failBeforeSpawn ledger (.forOperation .canceledBeforeStart request.operationId)
  else
    match ← authorizeLogin.attempt with
    | .error error => failBeforeSpawn ledger (error.withOperation request.operationId)
    | .ok () => do
        match ← ensureDiagnosticSentinel.attempt with
        | .error error => failBeforeSpawn ledger (error.withOperation request.operationId)
        | .ok () => do
            let ledger ← Proc.ofExcept (ledger.append .authorized)
            persistCloudLedger ledger
            executeSubmit ledger cancellation

/-- Execute at most one fixed Cloud submit and return only a durably recorded task. -/
def submit (request : CloudSubmitRequest) (cancellation : CloudCancellation) :
    RunnerProc CloudSubmission := do
  acquireScope
  let existing ← runner.recoverCurrentLedger
  match dispatchExisting request.operationId existing with
  | some result => Proc.ofExcept result
  | none => runner.freshSubmit request cancellation

/-! ## Reads, reconciliation and resolution -/

def status (_task : CloudTaskId) : RunnerProc CloudTaskStatus := do
  acquireScope
  verifyVersion
  ensureDiagnosticSentinel
  match ← runRead (·.statusOutput) with
  | some status => return status
  | none => Proc.fail ⟨.providerOutput, none⟩

/-- Read pages until the cursor runs out, the limits are reached or the deadline passes.
The result is the tasks in page order and whether the listing is complete. -/
def listPages : Nat → List CloudTaskSummary → List CloudCursor →
    RunnerProc (List CloudTaskSummary × Bool)
  | 0, tasks, _ => return (tasks, false)
  | pages + 1, tasks, seenCursors => do
      if (← ask).deadlinePassed then return (tasks, false)
      else do
        ensureDiagnosticSentinel
        match ← runRead (·.listOutput) with
        | none => Proc.fail ⟨.providerOutput, none⟩
        | some page =>
            let tasks' := tasks ++ page.tasks
            if ¬ (tasks'.map CloudTaskSummary.id).Nodup then
              Proc.fail ⟨.reconciliationCycle, none⟩
            else match page.cursor with
              | none => return (tasks', true)
              | some cursor =>
                  if cursor ∈ seenCursors then Proc.fail ⟨.reconciliationCycle, none⟩
                  else if maxReconciliationTasks ≤ tasks'.length then return (tasks', false)
                  else listPages pages tasks' (cursor :: seenCursors)

/-- List bounded candidates for the current unknown submit and record them. -/
def reconcileUnknown : RunnerProc CloudReconciliation := do
  acquireScope
  match ← runner.recoverCurrentLedger with
  | none => Proc.fail ⟨.noUnknownOperation, none⟩
  | some ledger =>
      if ledger.latest.isUnknown = false then Proc.fail ⟨.noUnknownOperation, none⟩
      else do
        runner.requireMatchingConfig ledger
        verifyVersion
        let (tasks, complete) ← listPages maxReconciliationPages [] []
        let ledger ← Proc.ofExcept
          (ledger.recordReconciliation (tasks.map CloudTaskSummary.id) complete)
        persistCloudLedger ledger
        return ⟨ledger.operationId, tasks, complete⟩

def observeSubmit (op : CloudSubmitOperationId) : RunnerProc CloudSubmitObservation := do
  acquireScope
  let ledger ← runner.recoverCurrentLedger
  Proc.ofExcept (classifyObservation op ledger)

/-- Apply a resolution to a ledger that has reconciliation evidence. -/
def applyResolution (op : CloudSubmitOperationId) (ledger : CloudSubmitLedger)
    (resolution : CloudUnknownResolution) : RunnerProc CloudSubmitObservation := do
  let ledger ← Proc.ofExcept (match resolution with
    | .adoptListedTask task => ledger.recordAdoptedTask task
    | .explicitlyAbandon => ledger.recordExplicitlyAbandoned)
  persistCloudLedger ledger
  Proc.ofExcept (classifyObservation op (some ledger))

/-- Durably adopt a listed task or abandon the operation; repeating the decision is a replay. -/
def resolveUnknown (op : CloudSubmitOperationId) (resolution : CloudUnknownResolution) :
    RunnerProc CloudSubmitObservation := do
  acquireScope
  match ← runner.recoverCurrentLedger with
  | none => Proc.fail ⟨.resolutionUnavailable, none⟩
  | some ledger =>
      if ledger.operationId ≠ op then
        Proc.fail (.forOperation .operationConflict ledger.operationId)
      else match ledger.latest, resolution with
        | .taskAdopted, resolution => do
            let recorded ← Proc.ofExcept (recordedTaskOrInvalid ledger)
            if resolution = .adoptListedTask recorded then return .taskRecorded ⟨op, recorded⟩
            else Proc.fail (.forOperation .resolutionConflict op)
        | .explicitlyAbandoned, .explicitlyAbandon => return .explicitlyAbandoned
        | .explicitlyAbandoned, .adoptListedTask _ =>
            Proc.fail (.forOperation .resolutionConflict op)
        | .reconciliationObserved, resolution => applyResolution op ledger resolution
        | .intent, _ | .authorized, _ | .started, _ | .taskRecorded, _ | .failedBeforeSpawn, _
        | .outcomeUnknown, _ => Proc.fail (.forOperation .resolutionUnavailable op)

end CloudTaskRunner

end Codebox.Cloud
