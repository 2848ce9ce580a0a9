import Codebox.Cloud.CoherentRuns
import Codebox.Support.Update

/-! # The ledgers as their methods change them

The ledgers of the runner, the orchestrator and the login broker are changed in place. Every run of
calls that succeed, or fail and leave the record alone, leads to a record that passes its own check,
so none that the program writes is refused when it is loaded. Some calls that fail have set a field
before the history refused the phase; the callers drop the record then, and going on with it is what
the check would catch.
-/

namespace Codebox.Cloud

open Codebox.Support Codebox.Login

/-! ## The submit ledger -/

variable {call : Mutator}

namespace CloudSubmitLedger

/-- The calls made on a submit ledger; the first three are `append` with the phases it is given. -/
inductive Mutator where
  | authorized | failedBeforeSpawn | outcomeUnknown
  | recordStarted (process : ProcessIdentity)
  | recordTask (task : CloudTaskId)
  | recordReconciliation (tasks : List CloudTaskId) (complete : Bool)
  | recordAdoptedTask (task : CloudTaskId)
  | recordExplicitlyAbandoned

/-- A call in place. A started child, a task and the evidence are set before the phase is
appended. -/
def Mutator.update : Mutator → Update CloudRunnerError CloudSubmitLedger
  | authorized => Update.commit (·.append .authorized)
  | failedBeforeSpawn => Update.commit (·.append .failedBeforeSpawn)
  | outcomeUnknown => Update.commit (·.append .outcomeUnknown)
  | recordStarted process => fun ledger =>
      if ledger.process.isSome then (.error ledgerInvalid, ledger)
      else Update.commit (·.append .started) { ledger with process := some process }
  | recordTask task => fun ledger =>
      if ledger.taskId.isSome then (.error ledgerInvalid, ledger)
      else Update.commit (·.append .taskRecorded) { ledger with taskId := some task }
  | recordReconciliation tasks complete => fun ledger =>
      if maxReconciliationCandidates < tasks.length then (.error ledgerInvalid, ledger)
      else if ¬ tasks.Nodup then (.error ledgerInvalid, ledger)
      else Update.commit (·.append .reconciliationObserved)
        { ledger with candidateTaskIds := tasks, reconciliationComplete := some complete }
  | recordAdoptedTask task => Update.commit (·.recordAdoptedTask task)
  | recordExplicitlyAbandoned => Update.commit (·.recordExplicitlyAbandoned)

/-- What a call makes of the record when it succeeds. -/
def Mutator.result : Mutator → CloudSubmitLedger → Except CloudRunnerError CloudSubmitLedger
  | authorized, ledger => ledger.append .authorized
  | failedBeforeSpawn, ledger => ledger.append .failedBeforeSpawn
  | outcomeUnknown, ledger => ledger.append .outcomeUnknown
  | recordStarted process, ledger => ledger.recordStarted process
  | recordTask task, ledger => ledger.recordTask task
  | recordReconciliation tasks complete, ledger => ledger.recordReconciliation tasks complete
  | recordAdoptedTask task, ledger => ledger.recordAdoptedTask task
  | recordExplicitlyAbandoned, ledger => ledger.recordExplicitlyAbandoned

theorem Mutator.result_of_update {ledger ledger' : CloudSubmitLedger}
    (updated : call.update ledger = (.ok (), ledger')) : call.result ledger = .ok ledger' := by
  cases call with
  | authorized | failedBeforeSpawn | outcomeUnknown | recordAdoptedTask | recordExplicitlyAbandoned =>
      exact Update.commit_eq_ok.mp updated
  | recordStarted process =>
      simp only [update] at updated
      simp only [result, CloudSubmitLedger.recordStarted]
      split at updated
      · cases updated
      · rename_i fresh
        rw [if_neg fresh]
        exact Update.commit_eq_ok.mp updated
  | recordTask task =>
      simp only [update] at updated
      simp only [result, CloudSubmitLedger.recordTask]
      split at updated
      · cases updated
      · rename_i fresh
        rw [if_neg fresh]
        exact Update.commit_eq_ok.mp updated
  | recordReconciliation tasks complete =>
      simp only [update] at updated
      simp only [result, CloudSubmitLedger.recordReconciliation]
      split at updated
      · cases updated
      · rename_i short
        rw [if_neg short]
        split at updated
        · cases updated
        · rename_i distinct
          rw [if_neg distinct]
          exact Update.commit_eq_ok.mp updated

theorem Valid.mutated {ledger ledger' : CloudSubmitLedger} (valid : ledger.Valid)
    (updated : call.update ledger = (.ok (), ledger')) : ledger'.Valid := by
  have recorded := Mutator.result_of_update updated
  cases call with
  | authorized | failedBeforeSpawn | outcomeUnknown => exact valid.append (by decide) recorded
  | recordStarted process => exact valid.recordStarted recorded
  | recordTask task => exact valid.recordTask recorded
  | recordReconciliation tasks complete => exact valid.recordReconciliation recorded
  | recordAdoptedTask task => exact valid.recordAdoptedTask recorded
  | recordExplicitlyAbandoned => exact valid.recordExplicitlyAbandoned recorded

end CloudSubmitLedger

/-! ## The lifecycle ledger -/

variable {ledger : CloudLifecycleLedger}

namespace CloudLifecycleLedger

/-- The calls made on a lifecycle ledger; its `append` is private to them. -/
inductive Mutator where
  | recordFailedBeforeSubmit | recordOutcomeUnknown
  | recordStatus (task : CloudTaskId) (status : CloudTaskStatus)
  | recordCanceledWithoutTask | recordCanceledWithTask | recordAbandonedUnknown
  | recordReconciliation (tasks : List CloudTaskId) (complete : Bool)

def Mutator.result : Mutator → CloudLifecycleLedger → Except CloudLifecycleError CloudLifecycleLedger
  | recordFailedBeforeSubmit, ledger => ledger.recordFailedBeforeSubmit
  | recordOutcomeUnknown, ledger => ledger.recordOutcomeUnknown
  | recordStatus task status, ledger => ledger.recordStatus task status
  | recordCanceledWithoutTask, ledger => ledger.recordCanceledWithoutTask
  | recordCanceledWithTask, ledger => ledger.recordCanceledWithTask
  | recordAbandonedUnknown, ledger => ledger.recordAbandonedUnknown
  | recordReconciliation tasks complete, ledger => ledger.recordReconciliation tasks complete

/-- These calls set nothing before they succeed. -/
def Mutator.update (call : Mutator) : Update CloudLifecycleError CloudLifecycleLedger :=
  Update.commit call.result

/-- A phase that asks for no task is only entered from one that has none. -/
theorem Valid.append_bare {ledger' : CloudLifecycleLedger} {phase : CloudLifecyclePhase} (valid : ledger.Valid)
    (bare : phase.requiresTask = false)
    (from_bare : ledger.phase.validTransition phase = true → ledger.phase.requiresTask = false)
    (appended : ledger.append phase = .ok ledger') : ledger'.Valid := by
  obtain ⟨-, step, -⟩ := append_eq_ok.mp appended
  apply valid.append _ appended
  rw [bare, ← valid.task]
  exact (from_bare step).symm

theorem Valid.mutated {ledger' : CloudLifecycleLedger} (valid : ledger.Valid)
    (updated : call.update ledger = (.ok (), ledger')) : ledger'.Valid := by
  have recorded : call.result ledger = .ok ledger' := Update.commit_eq_ok.mp updated
  cases call with
  | recordFailedBeforeSubmit | recordOutcomeUnknown | recordAbandonedUnknown =>
      apply valid.append_bare rfl _ recorded
      cases ledger.phase <;> simp [CloudLifecyclePhase.validTransition]
  | recordStatus task status => exact valid.recordStatus recorded
  | recordCanceledWithoutTask =>
      simp only [Mutator.result, CloudLifecycleLedger.recordCanceledWithoutTask] at recorded
      split at recorded
      · cases recorded
      · rename_i unnamed
        apply valid.append _ recorded
        exact (eq_false_of_ne_true unnamed).symm
  | recordCanceledWithTask =>
      simp only [Mutator.result, CloudLifecycleLedger.recordCanceledWithTask] at recorded
      split at recorded
      · cases recorded
      · rename_i named
        apply valid.append _ recorded
        rw [Option.isNone_iff_eq_none, ← ne_eq, Option.ne_none_iff_isSome] at named
        exact named.symm
  | recordReconciliation tasks complete => exact valid.recordReconciliation recorded

/-- No phase comes later than the fourth stage. -/
theorem Short.length_le (short : ledger.Short) : ledger.history.length ≤ 4 := by
  apply Nat.le_trans short
  cases ledger.phase <;> simp [CloudLifecyclePhase.stage]

end CloudLifecycleLedger

/-! ## The login ledger -/

/-- The calls made on a login ledger; the first five are `append` with the phases it is given. -/
inductive LoginMutator where
  | failed | deviceInstructions | outcomeUnknown | loggedIn | loggedOut
  | recordStarted (process : ProcessIdentity)

/-- The child is set before its phase is appended. -/
def LoginMutator.update : LoginMutator → Update LoginBrokerError LoginLedger
  | failed => Update.commit (·.append .failed)
  | deviceInstructions => Update.commit (·.append .deviceInstructions)
  | outcomeUnknown => Update.commit (·.append .outcomeUnknown)
  | loggedIn => Update.commit (·.append .loggedIn)
  | loggedOut => Update.commit (·.append .loggedOut)
  | recordStarted process => fun ledger =>
      if ledger.process.isSome then (.error .ledgerInvalid, ledger)
      else Update.commit (·.append .started) { ledger with process := some process }

theorem login_mutated {call : LoginMutator} {ledger ledger' : LoginLedger} (valid : ledger.Valid)
    (updated : call.update ledger = (.ok (), ledger')) : ledger'.Valid := by
  have appended : ∀ phase, phase ≠ .started →
      Update.commit (·.append phase) ledger = (.ok (), ledger') → ledger'.Valid := by
    intro phase other committed
    exact valid.append other (Update.commit_eq_ok.mp committed)
  cases call with
  | failed => exact appended .failed (by decide) updated
  | deviceInstructions => exact appended .deviceInstructions (by decide) updated
  | outcomeUnknown => exact appended .outcomeUnknown (by decide) updated
  | loggedIn => exact appended .loggedIn (by decide) updated
  | loggedOut => exact appended .loggedOut (by decide) updated
  | recordStarted process =>
      simp only [LoginMutator.update] at updated
      split at updated
      · cases updated
      · rename_i fresh
        have recorded : ledger.recordStarted process = .ok ledger' := by
          rw [LoginLedger.recordStarted, if_neg fresh]
          exact Update.commit_eq_ok.mp updated
        exact valid.recordStarted recorded

/-! ## Runs -/

theorem MachineInv.short {runner : CloudTaskRunner} {machine : Machine} (inv : MachineInv False runner machine)
    (held : machine.host.lifecycleFile = some ledger ∨ machine.ledger = some ledger) : ledger.Short := by
  have accounted : Accounts False machine.host (some ledger) := by
    cases machine with
    | down host =>
        rcases held with found | found
        · exact found ▸ HostInv.file inv
        · cases found
    | up p flight =>
        rcases held with found | found
        · exact found ▸ inv.1.host.file
        · exact found ▸ inv.1.memory
  exact Accounted.short accounted

/-- Every run of calls that spare a ledger when they fail leaves one that its loader accepts; those of
the lifecycle ledger always do. The history of a lifecycle ledger has at most four entries in every
run of the orchestrator. -/
theorem ledgers_stay_valid :
    (∀ op environment branch ledger,
      (Update.runs (CloudSubmitLedger.new op environment branch)
        CloudSubmitLedger.Mutator.update).Reach (Update.Spares CloudSubmitLedger.Mutator.update) ledger →
        ledger.validate = .ok ()) ∧
    (∀ op ledger,
      (Update.runs (CloudLifecycleLedger.submitting op)
        CloudLifecycleLedger.Mutator.update).Reachable ledger → ledger.validate = .ok ()) ∧
    (∀ op ledger,
      (Update.runs (LoginLedger.new op) LoginMutator.update).Reach (Update.Spares LoginMutator.update) ledger →
        ledger.validate = .ok ()) ∧
    (∀ runner env machine ledger, (Machine.system runner env).Reachable machine →
      machine.host.lifecycleFile = some ledger ∨ machine.ledger = some ledger →
      ledger.history.length ≤ 4) := by
  refine ⟨?_, ?_, ?_, ?_⟩
  · intro op environment branch ledger reach
    rw [CloudSubmitLedger.validate_eq_ok]
    exact Update.runs_invariant reach (CloudSubmitLedger.new_valid op environment branch)
      fun _ _ _ => CloudSubmitLedger.Valid.mutated
  · intro op ledger reachable
    rw [CloudLifecycleLedger.validate_eq_ok]
    exact Update.runs_invariant (reachable.mono fun ledger call _ => Update.commit_spares ledger call)
      (CloudLifecycleLedger.submitting_valid op) fun _ _ _ => CloudLifecycleLedger.Valid.mutated
  · intro op ledger reach
    rw [LoginLedger.validate_eq_ok]
    exact Update.runs_invariant reach (LoginLedger.new_sound op).valid fun _ _ _ => login_mutated
  · intro runner env machine ledger reachable held
    exact (MachineInv.short (machineInv_reachable False.elim reachable) held).length_le

/-- A task recorded on a bare intent is refused, but stays in the record: the next call that
succeeds leaves a ledger that the loader refuses. -/
theorem failed_recordTask_stays :
    let ledger := CloudSubmitLedger.new ⟨1, Nat.one_ne_zero⟩ ⟨[]⟩ ⟨[]⟩
    let failed := (CloudSubmitLedger.Mutator.recordTask ⟨"task_1".toList, rfl⟩).update ledger
    failed.1 = .error CloudSubmitLedger.ledgerInvalid ∧
      (CloudSubmitLedger.Mutator.authorized.update failed.2).1 = .ok () ∧
      (CloudSubmitLedger.Mutator.authorized.update failed.2).2.validate =
        .error CloudSubmitLedger.ledgerInvalid := by
  decide +kernel

end Codebox.Cloud
