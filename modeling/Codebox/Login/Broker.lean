import Codebox.Login.Runtime
import Codebox.Support.Transition

/-! # The device-login broker

One broker over one credential scope. A device login is started after a status preflight and
stays active, under the scope lease, until its supervisor reports an end or it is canceled; the
ledger says on disk how far it got. A broker that dies leaves its record behind, and the next
one holds no active login.
-/

namespace Codebox.Login

open Codebox.Support Codebox.Host

/-- A started login; holding one is holding the lease and the supervisor. -/
structure ActiveLogin where
  operationId : LoginOperationId
  ledger : LoginLedger
  deriving Repr, DecidableEq

inductive LoginStatus where
  | loggedOut
  | deviceLoginPending (operationId : LoginOperationId)
  | loggedIn
  | outcomeUnknown (operationId : LoginOperationId)
  deriving Repr, DecidableEq

structure LoginInteraction where
  operationId : LoginOperationId
  verificationCode : VerificationCode
  deriving Repr, DecidableEq

def markUnknown (ledger : LoginLedger) : LoginProc LoginLedger :=
  if ledger.latest ≠ .outcomeUnknown then do
    let ledger ← Proc.ofExcept (ledger.append .outcomeUnknown)
    persistLedger ledger
    return ledger
  else return ledger

/-- Append a phase and write the record. -/
def conclude (ledger : LoginLedger) (phase : LedgerPhase) : LoginProc Unit := do
  persistLedger (← Proc.ofExcept (ledger.append phase))

def projectStatus : PinnedStatus → LoginStatus
  | .loggedIn => .loggedIn
  | .loggedOut => .loggedOut

/-- The terminal phase that records a status. -/
def phaseFor : PinnedStatus → LedgerPhase
  | .loggedIn => .loggedIn
  | .loggedOut => .loggedOut

def reconcileLedger (ledger : LoginLedger) : LoginProc LoginStatus := do
  match ← CliRuntime.status.attempt with
  | .ok status => do
      conclude ledger (phaseFor status)
      return projectStatus status
  | .error error => do
      let _ ← markUnknown ledger
      Proc.fail error

/-- The completion of captured output. A panic unwinds out of the call and drops the active
login, so that only the file is left, as after a crash. -/
def completion (output : CapturedOutput) : LoginProc (Except LoginBrokerError Unit) :=
  match parseLoginCompletion output with
  | some parsed => return parsed
  | none => Proc.crash

/-- The end after a deadline or a cancellation. -/
def resolveInterrupted (ledger : LoginLedger) (output : CapturedOutput) : LoginProc LoginStatus := do
  let ledger ← markUnknown ledger
  match ← completion output with
  | .error .outputLimitExceeded => Proc.fail .outputLimitExceeded
  | _ => reconcileLedger ledger

def resolveTerminalEvent (active : ActiveLogin) : SupervisorEvent → LoginProc LoginStatus
  | .exited output => do
      match ← completion output with
      | .error .outputLimitExceeded => do
          let _ ← markUnknown active.ledger
          Proc.fail .outputLimitExceeded
      | .error .providerOutputInvalid => do
          let _ ← markUnknown active.ledger
          Proc.fail .providerOutputInvalid
      | _ => reconcileLedger active.ledger
  | .instructionDeadline output => resolveInterrupted active.ledger output
  | .overallDeadline output => resolveInterrupted active.ledger output
  | .canceled output => resolveInterrupted active.ledger output
  | .uncertain error => do
      let ledger ← markUnknown active.ledger
      let _ ← reconcileLedger ledger
      Proc.fail error
  | .failed error => do
      conclude active.ledger .failed
      Proc.fail error
  | .started _ | .instructions _ => do
      let _ ← markUnknown active.ledger
      Proc.fail .providerOutputInvalid

/-- Cancellation is no proof that the login did not happen: the record says so first. -/
def cancelActive (active : ActiveLogin) : LoginProc LoginStatus := do
  let ledger ← markUnknown active.ledger
  let event ← LoginSupervisor.cancel
  resolveTerminalEvent { active with ledger := ledger } event

/-! ## Starting -/

/-- The checks before anything is written: an uncertain record or a login that is already
there ends the call. -/
def preflight : LoginProc Unit := do
  acquireOwned
  CliRuntime.verifyVersion
  let existing ← loadLedger
  if existing.any (·.latest.isUncertain) then Proc.fail .outcomeUnknown
  else do
    match ← CliRuntime.status with
    | .loggedIn => Proc.fail .alreadyLoggedIn
    | .loggedOut => return ()

/-- The error of a start whose login ended before it showed its instructions. -/
def endedEarly : LoginStatus → LoginBrokerError
  | .loggedIn => .alreadyLoggedIn
  | .loggedOut | .deviceLoginPending _ | .outcomeUnknown _ => .loginFailed

/-- The child runs and its identity is on record; wait for the instructions. -/
def awaitInstructions (ledger : LoginLedger) : LoginProc (ActiveLogin × LoginInteraction) := do
  match ← LoginSupervisor.receive.attempt with
  | .ok (.instructions code) => do
      let ledger ← Proc.ofExcept (ledger.append .deviceInstructions)
      persistLedger ledger
      return (⟨ledger.operationId, ledger⟩, ⟨ledger.operationId, code⟩)
  | .ok event => do
      let ended ← resolveTerminalEvent ⟨ledger.operationId, ledger⟩ event
      Proc.fail (endedEarly ended)
  | .error _ => do
      let _ ← markUnknown ledger
      Proc.fail .outcomeUnknown

/-- The intent is on record and the supervisor runs; wait for the child. -/
def awaitStarted (ledger : LoginLedger) : LoginProc (ActiveLogin × LoginInteraction) := do
  match ← LoginSupervisor.receive.attempt with
  | .ok (.started process) => do
      let ledger ← Proc.ofExcept (ledger.recordStarted process)
      persistLedger ledger
      awaitInstructions ledger
  | .ok (.failed error) => do
      conclude ledger .failed
      Proc.fail error
  | .ok (.uncertain error) => do
      let _ ← resolveTerminalEvent ⟨ledger.operationId, ledger⟩ (.uncertain error)
      Proc.fail .outcomeUnknown
  | .ok _ | .error _ => do
      let _ ← markUnknown ledger
      Proc.fail .outcomeUnknown

def launch : LoginProc (ActiveLogin × LoginInteraction) := do
  let operationId ← newLoginOperationId
  persistLedger (.new operationId)
  CliRuntime.start
  awaitStarted (.new operationId)

/-! ## Without an active login -/

/-- The recorded child of an uncertain login still runs. Without one on record the source
sleeps, on request, until an unrecorded child is dead. -/
def childAlive (existing : LoginLedger) (waitIntentGrace : Bool) : LoginProc Bool :=
  match existing.process with
  | some process => processIsAlive process
  | none => do
      if waitIntentGrace then
        let _ ← ask
        return false
      else return false

def reconcileWithoutActive (waitIntentGrace : Bool) : LoginProc LoginStatus := do
  acquireOwned
  CliRuntime.verifyVersion
  match ← loadLedger with
  | some existing =>
      if existing.latest.isUncertain then do
        if ← childAlive existing waitIntentGrace then return .outcomeUnknown existing.operationId
        else reconcileLedger existing
      else return projectStatus (← CliRuntime.status)
  | none => return projectStatus (← CliRuntime.status)

/-! ## The broker -/

structure LoginBroker where
  host : Host
  active : Option ActiveLogin

namespace LoginBroker

abbrev BrokerProc (α : Type) := Proc LoginBroker LoginBrokerError α

def onHost {α : Type} (p : LoginProc α) : BrokerProc α :=
  p.on LoginBroker.host fun broker host => { broker with host := host }

def setActive (active : Option ActiveLogin) : BrokerProc Unit :=
  Proc.modify fun broker => { broker with active := active }

def startDeviceLogin : BrokerProc LoginInteraction := do
  match (← Proc.get).active with
  | some _ => Proc.fail .loginAlreadyRunning
  | none => do
      let (active, interaction) ← onHost (do preflight; launch)
      setActive (some active)
      return interaction

/-- What a look at the supervisor found: nothing new, or an event that ends the login. -/
def statusOf (active : ActiveLogin) : Option SupervisorEvent → BrokerProc LoginStatus
  | none | some (.instructions _) => return .deviceLoginPending active.operationId
  | some event => do
      setActive none
      onHost (resolveTerminalEvent active event)

def status : BrokerProc LoginStatus := do
  match (← Proc.get).active with
  | some active => do
      statusOf active (← onHost LoginSupervisor.tryReceive)
  | none => onHost (reconcileWithoutActive false)

def reconcile : BrokerProc LoginStatus := do
  match (← Proc.get).active with
  | some _ => status
  | none => onHost (reconcileWithoutActive true)

def cancel : BrokerProc LoginStatus := do
  match (← Proc.get).active with
  | none => onHost (reconcileWithoutActive true)
  | some active => do
      setActive none
      onHost (cancelActive active)

/-- The destructor: its error is dropped. -/
def drop : BrokerProc Unit := do
  match (← Proc.get).active with
  | none => return ()
  | some active => do
      setActive none
      let _ ← (onHost (markUnknown active.ledger)).attempt

inductive Call where
  | startDeviceLogin | status | reconcile | cancel | drop | crash
  deriving Repr, DecidableEq

/-- What a call leaves. A dead process leaves its files, and the next broker begins with no
active login. -/
def after {α : Type} : Outcome LoginBrokerError α × LoginBroker → LoginBroker
  | (.crashed, broker) => { broker with active := none }
  | (_, broker) => broker

def step (broker : LoginBroker) : Call → LoginBroker
  | .startDeviceLogin => after (LoginBroker.startDeviceLogin broker)
  | .status => after (LoginBroker.status broker)
  | .reconcile => after (LoginBroker.reconcile broker)
  | .cancel => after (LoginBroker.cancel broker)
  | .drop => after (LoginBroker.drop broker)
  | .crash => { broker with active := none }

/-- Runs that begin with an empty state directory. -/
def system (env : Nat → Answers) : System LoginBroker Call where
  initial broker := broker = ⟨Host.fresh env, none⟩
  step broker call := some (broker.step call)

end LoginBroker

end Codebox.Login
