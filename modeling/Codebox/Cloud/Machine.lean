import Codebox.Cloud.Orchestrator
import Codebox.Support.Transition

/-! # Runs of the orchestrator

One process at a time on one state directory. Callers enter the locked sections of the
orchestrator in any order; a start has given the lock up between its two sections, so other
callers come in between. The process may die inside any section or between two of them, and
a new one is constructed on what it left behind.
-/

namespace Codebox.Cloud

open Codebox.Support Codebox.Host

/-- A start that is not inside a locked section: before its submit, or before its commit. -/
inductive Flight where
  | submitting (ticket : StartTicket) (prompt : CloudPrompt)
  | submitted (ticket : StartTicket) (result : Except CloudRunnerError CloudSubmission)

inductive Machine where
  | down (host : Host)
  | up (process : Process) (flight : Option Flight)

/-- What happens next: a section of some caller, a crash, or a new process. -/
inductive Call where
  | restart
  | crash
  | startBegin (prompt : CloudPrompt)
  | startSubmit
  | startCommit
  | inspect
  | reconcileUnknown
  | resolveUnknown (operationId : CloudSubmitOperationId) (decision : UnknownSubmitDecision)
  | cancel

namespace Machine

def host : Machine → Host
  | down host => host
  | up process _ => process.host

/-- The ledger in memory. -/
def ledger : Machine → Option CloudLifecycleLedger
  | down _ => none
  | up process _ => process.state.ledger

/-- The state a section leaves; `flight` says what becomes of the start in flight. -/
def after {α : Type} (ran : Outcome CloudLifecycleError α × Process)
    (flight : Except CloudLifecycleError α → Option Flight) : Machine :=
  match ran with
  | (.ok value, process) => .up process (flight (.ok value))
  | (.error error, process) => .up process (flight (.error error))
  | (.crashed, process) => .down process.host

def step (runner : CloudTaskRunner) : Machine → Call → Option Machine
  | down host, .restart =>
      match fromRunner runner ⟨host, ⟨none, none, 0⟩⟩ with
      | (.ok (), process) => some (up process none)
      | (_, process) => some (down process.host)
  | up process _, .crash => some (down process.host)
  | up process flight, .startBegin prompt =>
      some (after (Cloud.startBegin runner process) fun
        | .ok ticket => some (.submitting ticket prompt)
        | .error _ => flight)
  | up process (some (.submitting ticket prompt)), .startSubmit =>
      some (after (Cloud.startSubmit runner ticket prompt process) fun
        | .ok result => some (.submitted ticket result)
        | .error _ => none)
  | up process (some (.submitted ticket result)), .startCommit =>
      some (after (Cloud.startCommit ticket result process) fun _ => none)
  | up process flight, .inspect => some (after (Cloud.inspect process) fun _ => flight)
  | up process flight, .reconcileUnknown =>
      some (after (Cloud.reconcileUnknown runner process) fun _ => flight)
  | up process flight, .resolveUnknown op decision =>
      some (after (Cloud.resolveUnknown runner op decision process) fun _ => flight)
  | up process flight, .cancel => some (after (Cloud.cancel process) fun _ => flight)
  | _, _ => none

variable {inv : Machine → Prop}

/-- What holds however a section ends holds of the state it leaves. -/
theorem after_spec {α : Type} {p : Process} {proc : OrchestratorProc α}
    {flight : Except CloudLifecycleError α → Option Flight}
    (spec : proc.wp (fun value p' => inv (.up p' (flight (.ok value))))
      (fun error p' => inv (.up p' (flight (.error error)))) (fun p' => inv (.down p'.host)) p) :
    inv (after (proc p) flight) := by
  revert spec
  simp only [Proc.wp, after]
  rcases proc p with ⟨_ | _ | _, p'⟩ <;> exact id

/-- What holds however the construction of a process ends holds after a restart. -/
theorem restart_spec {runner : CloudTaskRunner} {host : Host} {machine : Machine}
    (spec : (fromRunner runner).wp (fun _ p => inv (.up p none)) (fun _ p => inv (.down p.host))
      (fun p => inv (.down p.host)) ⟨host, ⟨none, none, 0⟩⟩)
    (stepped : step runner (.down host) .restart = some machine) : inv machine := by
  revert spec
  simp only [step, Proc.wp] at stepped ⊢
  split at stepped <;> cases stepped
  · rename_i ran
    rw [ran]
    exact id
  · rename_i outcome process finished ran
    rw [ran]
    rcases outcome with _ | _ | _
    · exact (finished rfl).elim
    · exact id
    · exact id

/-- Runs that begin with an empty state directory and no process. -/
def system (runner : CloudTaskRunner) (env : Nat → Answers) : System Machine Call where
  initial machine := machine = down (Host.fresh env)
  step := step runner

end Machine

end Codebox.Cloud
