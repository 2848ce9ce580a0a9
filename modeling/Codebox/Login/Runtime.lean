import Codebox.Host

/-! # The effects of the login layer

The login ledger's file, the pinned command and the supervisor of a running login. Each call of
the supervisor is one effect: its thread runs beside the broker, so any event may be next, and
it may be gone.
-/

namespace Codebox.Login

open Codebox.Support Codebox.Host

abbrev LoginProc (α : Type) := Proc Host LoginBrokerError α

def acquireOwned : LoginProc Unit := do
  match (← ask).scope with
  | none => return ()
  | some error => Proc.fail (.ofScope error)

def loadLedger : LoginProc (Option LoginLedger) := do
  match ← readFile loginFile .ledgerInvalid .ledgerUnavailable with
  | none => return none
  | some ledger => do
      Proc.ofExcept ledger.validate
      return some ledger

def persistLedger (ledger : LoginLedger) : LoginProc Unit := do
  Proc.ofExcept ledger.validate
  replaceFile (·.writeLogin ledger) (storeLogin ledger) .ledgerInvalid .ledgerUnavailable

def newLoginOperationId : LoginProc LoginOperationId := fun h =>
  (.ok ⟨h.issued + 1, Nat.succ_pos _⟩, { h with issued := h.issued + 1 })

/-- The answer of one call as a result. -/
def answered {α : Type} (answer : Answers → Except LoginBrokerError α) : LoginProc α := do
  Proc.ofExcept (answer (← ask))

/-- A call that returns nothing. -/
def completed (answer : Answers → Option LoginBrokerError) : LoginProc Unit := do
  match answer (← ask) with
  | none => return ()
  | some error => Proc.fail error

def processIsAlive (_ : ProcessIdentity) : LoginProc Bool := answered (·.loginChild)

namespace CliRuntime

def verifyVersion : LoginProc Unit := completed (·.version)

def status : LoginProc PinnedStatus := answered (·.loginStatus)

def start : LoginProc Unit := completed (·.loginStart)

end CliRuntime

namespace LoginSupervisor

def receive : LoginProc SupervisorEvent := answered (·.loginReceive)

def tryReceive : LoginProc (Option SupervisorEvent) := answered (·.loginTryReceive)

def cancel : LoginProc SupervisorEvent := answered (·.loginCancel)

end LoginSupervisor

end Codebox.Login
