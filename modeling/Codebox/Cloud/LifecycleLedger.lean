import Codebox.Cloud.Identity
import Codebox.Cloud.SubmitLedger
import Codebox.Support.History

/-! # The lifecycle ledger

The orchestrator's durable record of the current operation. It names one phase, the task
once it is known, and the evidence of the latest reconciliation; `lifecycle` projects it to
the value callers see.
-/

namespace Codebox.Cloud

open Codebox.Support

inductive CloudLifecyclePhase where
  | submitting | failedBeforeSubmit | outcomeUnknown | pending | ready | applied | providerError
  | canceledLocally (providerMayContinue : Bool)
  | abandonedUnknown
  deriving Repr, DecidableEq

namespace CloudLifecyclePhase

def isTerminal : CloudLifecyclePhase → Bool
  | failedBeforeSubmit | ready | applied | providerError | canceledLocally _
  | abandonedUnknown => true
  | submitting | outcomeUnknown | pending => false

def validTransition : CloudLifecyclePhase → CloudLifecyclePhase → Bool
  | submitting, next =>
      next == failedBeforeSubmit || next == pending || next == outcomeUnknown ||
        next == canceledLocally false
  | pending, next =>
      next == pending || next == ready || next == applied || next == providerError ||
        next == canceledLocally true
  | outcomeUnknown, next =>
      next == outcomeUnknown || next == pending || next == ready || next == applied ||
        next == providerError || next == abandonedUnknown
  | failedBeforeSubmit, _ | ready, _ | applied, _ | providerError, _ | canceledLocally _, _
  | abandonedUnknown, _ => false

/-- The phases whose record names a task. -/
def requiresTask : CloudLifecyclePhase → Bool
  | pending | ready | applied | providerError => true
  | canceledLocally mayContinue => mayContinue
  | submitting | failedBeforeSubmit | outcomeUnknown | abandonedUnknown => false

/-- How many phases a record can have gone through when it reaches this one. -/
def stage : CloudLifecyclePhase → Nat
  | submitting => 1
  | failedBeforeSubmit | outcomeUnknown => 2
  | pending => 3
  | ready | applied | providerError | canceledLocally _ | abandonedUnknown => 4

theorem stage_lt {phase next : CloudLifecyclePhase} (step : phase.validTransition next = true)
    (moved : phase ≠ next) : phase.stage < next.stage := by
  cases phase <;> cases next <;> simp_all [validTransition, stage]

attribute [simp] isTerminal.eq_1 isTerminal.eq_2 isTerminal.eq_3 isTerminal.eq_4 isTerminal.eq_5
  isTerminal.eq_6 isTerminal.eq_7 isTerminal.eq_8 isTerminal.eq_9 requiresTask.eq_1
  requiresTask.eq_2 requiresTask.eq_3 requiresTask.eq_4 requiresTask.eq_5 requiresTask.eq_6
  requiresTask.eq_7 requiresTask.eq_8 requiresTask.eq_9

end CloudLifecyclePhase

def phaseForStatus : CloudTaskStatus → CloudLifecyclePhase
  | .pending => .pending
  | .ready => .ready
  | .applied => .applied
  | .error => .providerError

attribute [simp] phaseForStatus.eq_1 phaseForStatus.eq_2 phaseForStatus.eq_3 phaseForStatus.eq_4

def cloudLifecycleSchemaVersion : Nat := 1
def maxLifecycleHistory : Nat := 32
/-- The largest 64-bit counter. -/
def maxGeneration : Nat := 18446744073709551615

def cloudLifecycleRules : HistoryRules CloudLifecyclePhase where
  first := .submitting
  next := CloudLifecyclePhase.validTransition
  limit := maxLifecycleHistory

structure CloudLifecycleLedger where
  schemaVersion : Nat
  operationId : CloudSubmitOperationId
  phase : CloudLifecyclePhase
  taskId : Option CloudTaskId
  reconciliationGeneration : Nat
  candidateTaskIds : List CloudTaskId
  reconciliationComplete : Option Bool
  history : List CloudLifecyclePhase
  deriving Repr, DecidableEq

namespace CloudLifecycleLedger

def invalidLedger : CloudLifecycleError := ⟨.ledgerInvalid, none⟩
def unavailableLedger : CloudLifecycleError := ⟨.ledgerUnavailable, none⟩

def submitting (op : CloudSubmitOperationId) : CloudLifecycleLedger where
  schemaVersion := cloudLifecycleSchemaVersion
  operationId := op
  phase := .submitting
  taskId := none
  reconciliationGeneration := 0
  candidateTaskIds := []
  reconciliationComplete := none
  history := [.submitting]

/-- The value callers see. A phase that requires a task and has none is a damaged record. -/
def lifecycle (ledger : CloudLifecycleLedger) : Except CloudLifecycleError CloudLifecycle :=
  match ledger.phase, ledger.taskId with
  | .submitting, _ => .ok (.submitting ledger.operationId)
  | .failedBeforeSubmit, _ => .ok (.failedBeforeSubmit ledger.operationId)
  | .outcomeUnknown, _ => .ok (.outcomeUnknown ledger.operationId)
  | .pending, some task => .ok (.pending ledger.operationId task)
  | .ready, some task => .ok (.ready ledger.operationId task)
  | .applied, some task => .ok (.applied ledger.operationId task)
  | .providerError, some task => .ok (.providerError ledger.operationId task)
  | .pending, none | .ready, none | .applied, none | .providerError, none => .error invalidLedger
  | .canceledLocally mayContinue, task => .ok (.canceledLocally ledger.operationId task mayContinue)
  | .abandonedUnknown, _ => .ok (.abandonedUnknown ledger.operationId)

def append (ledger : CloudLifecycleLedger) (phase : CloudLifecyclePhase) :
    Except CloudLifecycleError CloudLifecycleLedger :=
  if maxLifecycleHistory ≤ ledger.history.length ∨ ledger.phase.validTransition phase = false
  then .error invalidLedger
  else .ok { ledger with history := ledger.history ++ [phase], phase := phase }

def recordFailedBeforeSubmit (ledger : CloudLifecycleLedger) := ledger.append .failedBeforeSubmit

def recordOutcomeUnknown (ledger : CloudLifecycleLedger) := ledger.append .outcomeUnknown

def recordStatus (ledger : CloudLifecycleLedger) (task : CloudTaskId) (status : CloudTaskStatus) :
    Except CloudLifecycleError CloudLifecycleLedger :=
  if ledger.taskId.any (· != task) then .error invalidLedger
  else if ledger.phase = .pending ∧ phaseForStatus status = .pending ∧ ledger.taskId = some task
  then .ok ledger
  else (ledger.append (phaseForStatus status)).map fun ledger => { ledger with taskId := some task }

def recordCanceledWithoutTask (ledger : CloudLifecycleLedger) :
    Except CloudLifecycleError CloudLifecycleLedger :=
  if ledger.taskId.isSome then .error invalidLedger else ledger.append (.canceledLocally false)

def recordCanceledWithTask (ledger : CloudLifecycleLedger) :
    Except CloudLifecycleError CloudLifecycleLedger :=
  if ledger.taskId.isNone then .error invalidLedger else ledger.append (.canceledLocally true)

def recordAbandonedUnknown (ledger : CloudLifecycleLedger) := ledger.append .abandonedUnknown

def recordReconciliation (ledger : CloudLifecycleLedger) (tasks : List CloudTaskId)
    (complete : Bool) : Except CloudLifecycleError CloudLifecycleLedger :=
  if ledger.phase ≠ .outcomeUnknown ∨ maxReconciliationCandidates < tasks.length then
    .error invalidLedger
  else if ¬ tasks.Nodup then .error invalidLedger
  -- `checked_add` on a 64-bit counter
  else if maxGeneration < ledger.reconciliationGeneration + 1 then .error invalidLedger
  else .ok { ledger with
    reconciliationGeneration := ledger.reconciliationGeneration + 1
    candidateTaskIds := tasks
    reconciliationComplete := some complete }

def hasCandidate (ledger : CloudLifecycleLedger) (task : CloudTaskId) : Bool :=
  decide (task ∈ ledger.candidateTaskIds)

/-- What the loader and the writer check. The source's extra test that a cancellation
without a task names none is the `task` field at that phase. -/
structure Valid (ledger : CloudLifecycleLedger) : Prop where
  schema : ledger.schemaVersion = cloudLifecycleSchemaVersion
  history : cloudLifecycleRules.accepts ledger.history = true
  last : ledger.history.getLast? = some ledger.phase
  task : ledger.phase.requiresTask = ledger.taskId.isSome
  bounded : ledger.candidateTaskIds.length ≤ maxReconciliationCandidates
  distinct : ledger.candidateTaskIds.Nodup
  unreconciled : ledger.reconciliationGeneration = 0 →
    ledger.reconciliationComplete = none ∧ ledger.candidateTaskIds = []
  reconciled : ledger.reconciliationGeneration ≠ 0 →
    ledger.reconciliationComplete.isSome = true ∧ .outcomeUnknown ∈ ledger.history

theorem valid_iff (ledger : CloudLifecycleLedger) :
    ledger.Valid ↔
      ledger.schemaVersion = cloudLifecycleSchemaVersion ∧
      cloudLifecycleRules.accepts ledger.history = true ∧
      ledger.history.getLast? = some ledger.phase ∧
      ledger.phase.requiresTask = ledger.taskId.isSome ∧
      ledger.candidateTaskIds.length ≤ maxReconciliationCandidates ∧
      ledger.candidateTaskIds.Nodup ∧
      (ledger.reconciliationGeneration = 0 →
        ledger.reconciliationComplete = none ∧ ledger.candidateTaskIds = []) ∧
      (ledger.reconciliationGeneration ≠ 0 →
        ledger.reconciliationComplete.isSome = true ∧ .outcomeUnknown ∈ ledger.history) :=
  ⟨fun ⟨a, b, c, d, e, f, g, h⟩ => ⟨a, b, c, d, e, f, g, h⟩,
    fun ⟨a, b, c, d, e, f, g, h⟩ => ⟨a, b, c, d, e, f, g, h⟩⟩

instance (ledger : CloudLifecycleLedger) : Decidable ledger.Valid :=
  decidable_of_iff' _ (valid_iff ledger)

def validate (ledger : CloudLifecycleLedger) : Except CloudLifecycleError Unit :=
  if ledger.Valid then .ok () else .error invalidLedger

end CloudLifecycleLedger

/-- The ledger phase behind a projected lifecycle. -/
def CloudLifecycle.phase : CloudLifecycle → CloudLifecyclePhase
  | submitting _ => .submitting
  | failedBeforeSubmit _ => .failedBeforeSubmit
  | outcomeUnknown _ => .outcomeUnknown
  | pending _ _ => .pending
  | ready _ _ => .ready
  | applied _ _ => .applied
  | providerError _ _ => .providerError
  | canceledLocally _ _ mayContinue => .canceledLocally mayContinue
  | abandonedUnknown _ => .abandonedUnknown

attribute [simp] CloudLifecycle.phase.eq_1 CloudLifecycle.phase.eq_2 CloudLifecycle.phase.eq_3
  CloudLifecycle.phase.eq_4 CloudLifecycle.phase.eq_5 CloudLifecycle.phase.eq_6
  CloudLifecycle.phase.eq_7 CloudLifecycle.phase.eq_8 CloudLifecycle.phase.eq_9

namespace CloudLifecycleLedger

variable {ledger ledger' : CloudLifecycleLedger} {status : CloudTaskStatus} {task : CloudTaskId}
  {tasks : List CloudTaskId} {complete : Bool}

@[simp] theorem validate_eq_ok : ledger.validate = .ok () ↔ ledger.Valid := by
  unfold validate
  split <;> simp_all

theorem lifecycle_eq_ok {projected : CloudLifecycle} (shown : ledger.lifecycle = .ok projected) :
    projected.operationId = ledger.operationId ∧ projected.phase = ledger.phase := by
  unfold lifecycle at shown
  split at shown <;> cases shown <;> simp_all

/-- A valid record is always projected, and the projection keeps operation, phase and task. -/
theorem Valid.lifecycle (valid : ledger.Valid) :
    ∃ projected, ledger.lifecycle = .ok projected ∧ projected.operationId = ledger.operationId ∧
      projected.phase = ledger.phase ∧ projected.taskId = ledger.taskId := by
  have task := valid.task
  unfold CloudLifecycleLedger.lifecycle
  split <;> simp_all

theorem append_eq_ok {phase : CloudLifecyclePhase} :
    ledger.append phase = .ok ledger' ↔
      ledger.history.length < maxLifecycleHistory ∧
        ledger.phase.validTransition phase = true ∧
        ledger' = { ledger with history := ledger.history ++ [phase], phase := phase } := by
  rw [append, ite_error_eq_ok, not_or, Nat.not_le, Bool.not_eq_false, and_assoc, Except.ok.injEq, eq_comm (b := ledger')]

/-- Records whose history has no repeated phase; the source writes no others, so the bound on
the history of a lifecycle record is never met. -/
def Short (ledger : CloudLifecycleLedger) : Prop := ledger.history.length ≤ ledger.phase.stage

theorem Short.room (short : ledger.Short) : ledger.history.length < maxLifecycleHistory := by
  have bound : ledger.phase.stage ≤ 4 := by
    cases ledger.phase <;> simp [CloudLifecyclePhase.stage]
  unfold Short at short
  simp only [maxLifecycleHistory]
  omega

theorem Short.grow {phase : CloudLifecyclePhase} {task : Option CloudTaskId} (short : ledger.Short)
    (step : ledger.phase.validTransition phase = true) (moved : ledger.phase ≠ phase) :
    Short { ledger with history := ledger.history ++ [phase], phase := phase, taskId := task } := by
  have later := CloudLifecyclePhase.stage_lt step moved
  unfold Short at short ⊢
  simp only [List.length_append, List.length_singleton]
  omega

/-- A short submitting record has not been reconciled. -/
theorem Valid.unreconciled_submitting (valid : ledger.Valid) (short : ledger.Short)
    (phase : ledger.phase = .submitting) : ledger.reconciliationGeneration = 0 := by
  by_contra reconciled
  have member := (valid.reconciled reconciled).2
  have last := valid.last
  unfold Short at short
  rw [phase] at short last
  cases history : ledger.history with
  | nil => simp [history] at last
  | cons first rest =>
      have none : rest = [] := by
        simpa [history, CloudLifecyclePhase.stage] using short
      subst none
      simp_all

theorem submitting_valid (op : CloudSubmitOperationId) : (submitting op).Valid where
  schema := rfl
  history := by simp only [submitting]; decide
  last := rfl
  task := rfl
  bounded := by simp [submitting]
  distinct := by simp [submitting]
  unreconciled := by simp [submitting]
  reconciled := by simp [submitting]

/-- Growing a valid record by a permitted phase, with the task that phase asks for. -/
theorem Valid.grow {phase : CloudLifecyclePhase} {task : Option CloudTaskId} (valid : ledger.Valid)
    (room : ledger.history.length < maxLifecycleHistory)
    (step : ledger.phase.validTransition phase = true)
    (named : phase.requiresTask = task.isSome) :
    Valid { ledger with history := ledger.history ++ [phase], phase := phase, taskId := task } where
  schema := valid.schema
  history := (HistoryRules.accepts_concat_iff valid.last).mpr ⟨valid.history, room, step⟩
  last := by simp
  task := named
  bounded := valid.bounded
  distinct := valid.distinct
  unreconciled := valid.unreconciled
  reconciled := fun some => ⟨(valid.reconciled some).1,
    List.mem_append.mpr (.inl (valid.reconciled some).2)⟩

theorem Valid.append {phase : CloudLifecyclePhase} (valid : ledger.Valid)
    (named : phase.requiresTask = ledger.taskId.isSome)
    (appended : ledger.append phase = .ok ledger') : ledger'.Valid := by
  obtain ⟨room, step, rfl⟩ := append_eq_ok.mp appended
  exact valid.grow room step named

/-- An unknown operation names no task, as one that is abandoned does not. -/
theorem Valid.taskless (valid : ledger.Valid) (unknown : ledger.phase = .outcomeUnknown) :
    CloudLifecyclePhase.abandonedUnknown.requiresTask = ledger.taskId.isSome := by
  rw [← valid.task, unknown]
  rfl

theorem recordStatus_error {error : CloudLifecycleError} (failed : ledger.recordStatus task status = .error error) :
    error = invalidLedger := by
  unfold recordStatus append at failed
  split at failed
  · cases failed
    rfl
  · split at failed
    · cases failed
    · split at failed <;> cases failed
      rfl

/-- What `recordStatus` does when it succeeds: nothing for an unchanged pending task, and one
phase forward, with that task, otherwise. -/
theorem recordStatus_eq_ok (recorded : ledger.recordStatus task status = .ok ledger') :
    (ledger.phase = .pending ∧ ledger.taskId = some task ∧ status = .pending ∧ ledger' = ledger) ∨
    (ledger.history.length < maxLifecycleHistory ∧
      ledger.phase.validTransition (phaseForStatus status) = true ∧
      (∀ current, ledger.taskId = some current → current = task) ∧
      ¬ (ledger.phase = .pending ∧ phaseForStatus status = .pending ∧ ledger.taskId = some task) ∧
      ledger' = { ledger with
        history := ledger.history ++ [phaseForStatus status]
        phase := phaseForStatus status
        taskId := some task }) := by
  unfold recordStatus at recorded
  split at recorded
  · cases recorded
  · rename_i agrees
    split at recorded
    · rename_i unchanged
      cases recorded
      exact .inl ⟨unchanged.1, unchanged.2.2, by cases status <;> simp_all, rfl⟩
    · rename_i changed
      cases appended : ledger.append (phaseForStatus status) with
      | error reason => simp [appended, Except.map] at recorded
      | ok grown =>
          obtain ⟨room, step, rfl⟩ := append_eq_ok.mp appended
          simp only [appended, Except.map, Except.ok.injEq] at recorded
          refine .inr ⟨room, step, ?_, changed, recorded.symm⟩
          intro current named
          simpa [named] using agrees

theorem Valid.recordStatus (valid : ledger.Valid) (recorded : ledger.recordStatus task status = .ok ledger') :
    ledger'.Valid := by
  rcases recordStatus_eq_ok recorded with ⟨-, -, -, rfl⟩ | ⟨room, step, -, -, rfl⟩
  · exact valid
  · exact valid.grow room step (by cases status <;> rfl)

theorem Short.recordStatus (short : ledger.Short) (valid : ledger.Valid)
    (recorded : ledger.recordStatus task status = .ok ledger') : ledger'.Short := by
  rcases recordStatus_eq_ok recorded with ⟨-, -, -, rfl⟩ | ⟨-, step, same, changed, rfl⟩
  · exact short
  · refine short.grow step fun unmoved => changed ?_
    -- the only phase that may follow itself here is pending, and its record names a task
    have pending : ledger.phase = .pending := by
      rw [← unmoved] at step
      cases status <;> simp_all [CloudLifecyclePhase.validTransition]
    obtain ⟨current, named⟩ := Option.isSome_iff_exists.mp (valid.task.symm.trans (by rw [pending]; rfl))
    exact ⟨pending, unmoved.symm.trans pending, by rw [named, same current named]⟩

theorem recordReconciliation_eq_ok :
    ledger.recordReconciliation tasks complete = .ok ledger' ↔
      ledger.phase = .outcomeUnknown ∧ tasks.length ≤ maxReconciliationCandidates ∧
        tasks.Nodup ∧ ledger.reconciliationGeneration + 1 ≤ maxGeneration ∧
        ledger' = { ledger with
          reconciliationGeneration := ledger.reconciliationGeneration + 1
          candidateTaskIds := tasks
          reconciliationComplete := some complete } := by
  simp only [recordReconciliation, ite_error_eq_ok, not_or, ne_eq, not_not, Nat.not_lt, and_assoc, Except.ok.injEq,
    eq_comm (b := ledger')]

theorem Valid.recordReconciliation (valid : ledger.Valid)
    (recorded : ledger.recordReconciliation tasks complete = .ok ledger') : ledger'.Valid := by
  obtain ⟨unknown, short, distinct, -, rfl⟩ := recordReconciliation_eq_ok.mp recorded
  exact {
    schema := valid.schema
    history := valid.history
    last := valid.last
    task := valid.task
    bounded := short
    distinct := distinct
    unreconciled := by simp
    reconciled := fun _ => ⟨rfl, unknown ▸ List.mem_of_getLast? valid.last⟩ }

end CloudLifecycleLedger

end Codebox.Cloud
