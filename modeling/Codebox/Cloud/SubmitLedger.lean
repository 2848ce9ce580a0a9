import Codebox.Cloud.Identity
import Codebox.Login.Ledger
import Codebox.Support.History

/-! # The submit ledger

The runner's durable record of one Cloud submit: which operation it is for, how far it
got, the child it spawned, the task it recorded or adopted, and the candidates of the
latest reconciliation. The history of phases is bounded and only grows by permitted steps.
-/

namespace Codebox.Cloud

open Codebox.Support Codebox.Login

inductive CloudLedgerPhase where
  | intent | authorized | started | taskRecorded | failedBeforeSpawn | outcomeUnknown
  | reconciliationObserved | taskAdopted | explicitlyAbandoned
  deriving Repr, DecidableEq

namespace CloudLedgerPhase

def isUnknown : CloudLedgerPhase → Bool
  | outcomeUnknown | reconciliationObserved => true
  | intent | authorized | started | taskRecorded | failedBeforeSpawn | taskAdopted
  | explicitlyAbandoned => false

def permitsNewOperation : CloudLedgerPhase → Bool
  | taskRecorded | failedBeforeSpawn | taskAdopted | explicitlyAbandoned => true
  | intent | authorized | started | outcomeUnknown | reconciliationObserved => false

def validTransition : CloudLedgerPhase → CloudLedgerPhase → Bool
  | intent, next => next == authorized || next == failedBeforeSpawn
  | authorized, next => next == started || next == failedBeforeSpawn || next == outcomeUnknown
  | started, next => next == taskRecorded || next == outcomeUnknown
  | outcomeUnknown, next => next == reconciliationObserved
  | reconciliationObserved, next =>
      next == reconciliationObserved || next == taskAdopted || next == explicitlyAbandoned
  | taskRecorded, _ | failedBeforeSpawn, _ | taskAdopted, _ | explicitlyAbandoned, _ => false

/-- A submit that an earlier process left without a conclusion. -/
def isOpen : CloudLedgerPhase → Bool
  | intent | authorized | started => true
  | taskRecorded | failedBeforeSpawn | outcomeUnknown | reconciliationObserved | taskAdopted
  | explicitlyAbandoned => false

/-- The phase crash classification gives: a bare intent never spawned, a later open phase
may have. -/
def classified : CloudLedgerPhase → CloudLedgerPhase
  | intent => failedBeforeSpawn
  | authorized | started => outcomeUnknown
  | phase => phase

attribute [simp] isUnknown.eq_1 isUnknown.eq_2 isUnknown.eq_3 isUnknown.eq_4 isUnknown.eq_5
  isUnknown.eq_6 isUnknown.eq_7 isUnknown.eq_8 isUnknown.eq_9 permitsNewOperation.eq_1
  permitsNewOperation.eq_2 permitsNewOperation.eq_3 permitsNewOperation.eq_4
  permitsNewOperation.eq_5 permitsNewOperation.eq_6 permitsNewOperation.eq_7
  permitsNewOperation.eq_8 permitsNewOperation.eq_9 isOpen.eq_1 isOpen.eq_2 isOpen.eq_3 isOpen.eq_4
  isOpen.eq_5 isOpen.eq_6 isOpen.eq_7 isOpen.eq_8 isOpen.eq_9

end CloudLedgerPhase

def cloudLedgerSchemaVersion : Nat := 1
def maxCloudHistoryEntries : Nat := 32
def maxReconciliationCandidates : Nat := 100

def cloudLedgerRules : HistoryRules CloudLedgerPhase where
  first := .intent
  next := CloudLedgerPhase.validTransition
  limit := maxCloudHistoryEntries

/-- What a submit is for: its replay key and the configuration it was made under. -/
structure SubmitIdentity where
  operationId : CloudSubmitOperationId
  environment : CloudEnvironmentId
  branch : CloudBranch
  deriving Repr, DecidableEq

structure CloudSubmitLedger where
  schemaVersion : Nat
  operationId : CloudSubmitOperationId
  environment : CloudEnvironmentId
  branch : CloudBranch
  process : Option ProcessIdentity
  taskId : Option CloudTaskId
  candidateTaskIds : List CloudTaskId
  reconciliationComplete : Option Bool
  history : List CloudLedgerPhase
  deriving Repr, DecidableEq

namespace CloudSubmitLedger

def ledgerInvalid : CloudRunnerError := ⟨.ledgerInvalid, none⟩

def new (op : CloudSubmitOperationId) (environment : CloudEnvironmentId) (branch : CloudBranch) :
    CloudSubmitLedger where
  schemaVersion := cloudLedgerSchemaVersion
  operationId := op
  environment := environment
  branch := branch
  process := none
  taskId := none
  candidateTaskIds := []
  reconciliationComplete := none
  history := [.intent]

/-- The part of a record that no update changes. -/
def identity (ledger : CloudSubmitLedger) : SubmitIdentity :=
  ⟨ledger.operationId, ledger.environment, ledger.branch⟩

def matchesConfig (ledger : CloudSubmitLedger) (environment : CloudEnvironmentId)
    (branch : CloudBranch) : Bool :=
  ledger.environment == environment && ledger.branch == branch

def latest (ledger : CloudSubmitLedger) : CloudLedgerPhase :=
  ledger.history.getLast?.getD .outcomeUnknown

def recordedTask (ledger : CloudSubmitLedger) : Option CloudTaskId := ledger.taskId

def append (ledger : CloudSubmitLedger) (phase : CloudLedgerPhase) :
    Except CloudRunnerError CloudSubmitLedger :=
  if maxCloudHistoryEntries ≤ ledger.history.length ∨ ledger.latest.validTransition phase = false
  then .error ledgerInvalid
  else .ok { ledger with history := ledger.history ++ [phase] }

def recordStarted (ledger : CloudSubmitLedger) (process : ProcessIdentity) :
    Except CloudRunnerError CloudSubmitLedger :=
  if ledger.process.isSome then .error ledgerInvalid
  else append { ledger with process := some process } .started

def recordTask (ledger : CloudSubmitLedger) (task : CloudTaskId) :
    Except CloudRunnerError CloudSubmitLedger :=
  if ledger.taskId.isSome then .error ledgerInvalid
  else append { ledger with taskId := some task } .taskRecorded

def recordReconciliation (ledger : CloudSubmitLedger) (tasks : List CloudTaskId)
    (complete : Bool) : Except CloudRunnerError CloudSubmitLedger :=
  if maxReconciliationCandidates < tasks.length then .error ledgerInvalid
  else if ¬ tasks.Nodup then .error ledgerInvalid
  else append { ledger with candidateTaskIds := tasks, reconciliationComplete := some complete }
    .reconciliationObserved

def recordAdoptedTask (ledger : CloudSubmitLedger) (task : CloudTaskId) :
    Except CloudRunnerError CloudSubmitLedger :=
  if ledger.latest ≠ .reconciliationObserved then .error ⟨.resolutionUnavailable, none⟩
  else if ledger.taskId.isSome then .error ledgerInvalid
  else if ¬ task ∈ ledger.candidateTaskIds then .error ⟨.candidateNotRecorded, none⟩
  else (ledger.append .taskAdopted).map fun ledger => { ledger with taskId := some task }

def recordExplicitlyAbandoned (ledger : CloudSubmitLedger) :
    Except CloudRunnerError CloudSubmitLedger :=
  if ledger.latest ≠ .reconciliationObserved ∨ ledger.taskId.isSome then
    .error ⟨.resolutionUnavailable, none⟩
  else ledger.append .explicitlyAbandoned

/-- What the loader and the writer check. All failures of the source's `validate` carry
the same error, so its checks form one conjunction. -/
structure Valid (ledger : CloudSubmitLedger) : Prop where
  schema : ledger.schemaVersion = cloudLedgerSchemaVersion
  history : cloudLedgerRules.accepts ledger.history = true
  started : .started ∈ ledger.history ↔ ledger.process.isSome = true
  task : .taskRecorded ∈ ledger.history ∨ .taskAdopted ∈ ledger.history ↔
    ledger.taskId.isSome = true
  reconciled : .reconciliationObserved ∈ ledger.history ↔
    ledger.reconciliationComplete.isSome = true
  bounded : ledger.candidateTaskIds.length ≤ maxReconciliationCandidates
  distinct : ledger.candidateTaskIds.Nodup
  adopted : .taskAdopted ∈ ledger.history →
    ∃ task ∈ ledger.candidateTaskIds, ledger.taskId = some task

theorem valid_iff (ledger : CloudSubmitLedger) :
    ledger.Valid ↔
      ledger.schemaVersion = cloudLedgerSchemaVersion ∧
      cloudLedgerRules.accepts ledger.history = true ∧
      (.started ∈ ledger.history ↔ ledger.process.isSome = true) ∧
      (.taskRecorded ∈ ledger.history ∨ .taskAdopted ∈ ledger.history ↔
        ledger.taskId.isSome = true) ∧
      (.reconciliationObserved ∈ ledger.history ↔
        ledger.reconciliationComplete.isSome = true) ∧
      ledger.candidateTaskIds.length ≤ maxReconciliationCandidates ∧
      ledger.candidateTaskIds.Nodup ∧
      (.taskAdopted ∈ ledger.history →
        ∃ task ∈ ledger.candidateTaskIds, ledger.taskId = some task) :=
  ⟨fun ⟨a, b, c, d, e, f, g, h⟩ => ⟨a, b, c, d, e, f, g, h⟩,
    fun ⟨a, b, c, d, e, f, g, h⟩ => ⟨a, b, c, d, e, f, g, h⟩⟩

instance (ledger : CloudSubmitLedger) : Decidable ledger.Valid :=
  decidable_of_iff' _ (valid_iff ledger)

def validate (ledger : CloudSubmitLedger) : Except CloudRunnerError Unit :=
  if ledger.Valid then .ok () else .error ledgerInvalid

variable {ledger ledger' : CloudSubmitLedger} {phase : CloudLedgerPhase} {task : CloudTaskId}
  {tasks : List CloudTaskId} {complete : Bool}

@[simp] theorem validate_eq_ok : ledger.validate = .ok () ↔ ledger.Valid := by
  unfold validate
  split <;> simp_all

/-- The latest phase is an entry of the history; only the default is not. -/
theorem latest_mem (entered : ledger.latest ≠ .outcomeUnknown) : ledger.latest ∈ ledger.history := by
  unfold latest at entered ⊢
  cases last : ledger.history.getLast? with
  | none => simp [last] at entered
  | some phase => exact List.mem_of_getLast? last

/-- A record that ends with a task names it, and an adopted one was a candidate. -/
theorem Valid.named (valid : ledger.Valid)
    (closed : ledger.latest = .taskRecorded ∨ ledger.latest = .taskAdopted) :
    ∃ task, ledger.taskId = some task ∧
      (ledger.latest = .taskAdopted → task ∈ ledger.candidateTaskIds) := by
  have entered := ledger.latest_mem (by rcases closed with phase | phase <;> simp [phase])
  have isSome : ledger.taskId.isSome = true := by
    apply valid.task.mp
    cases closed with
    | inl phase => exact .inl (phase ▸ entered)
    | inr phase => exact .inr (phase ▸ entered)
  obtain ⟨task, holds⟩ := Option.isSome_iff_exists.mp isSome
  refine ⟨task, holds, fun adopted => ?_⟩
  obtain ⟨listed, member, same⟩ := valid.adopted (adopted ▸ entered)
  cases holds.symm.trans same
  exact member

theorem append_eq_ok :
    ledger.append phase = .ok ledger' ↔
      ledger.history.length < maxCloudHistoryEntries ∧
        ledger.latest.validTransition phase = true ∧
        ledger' = { ledger with history := ledger.history ++ [phase] } := by
  rw [append, ite_error_eq_ok, not_or, Nat.not_le, Bool.not_eq_false, and_assoc, Except.ok.injEq, eq_comm (b := ledger')]

theorem latest_concat (phase : CloudLedgerPhase) :
    latest { ledger with history := ledger.history ++ [phase] } = phase := by
  simp [latest]

theorem Valid.getLast? (valid : ledger.Valid) : ledger.history.getLast? = some ledger.latest := by
  obtain ⟨last, tail⟩ := HistoryRules.accepts_getLast? valid.history
  simp [latest, tail]

/-- A phase without successors stands in a valid history only as its latest phase. -/
theorem Valid.latest_of_mem (valid : ledger.Valid) (final : ∀ next, phase.validTransition next = false)
    (member : phase ∈ ledger.history) : ledger.latest = phase :=
  Option.some.inj (valid.getLast?.symm.trans (HistoryRules.accepts_final valid.history final member))

/-- The histories that end before any reconciliation, spelled out. -/
theorem Valid.early_history (valid : ledger.Valid) :
    (ledger.latest = .intent → ledger.history = [.intent]) ∧
    (ledger.latest = .authorized → ledger.history = [.intent, .authorized]) ∧
    (ledger.latest = .started → ledger.history = [.intent, .authorized, .started]) := by
  have shape : ∀ phase, ledger.history.getLast? = some phase →
      (phase = .intent → ledger.history = [.intent]) ∧
      (phase = .authorized → ledger.history = [.intent, .authorized]) ∧
      (phase = .started → ledger.history = [.intent, .authorized, .started]) := by
    refine HistoryRules.accepts_induction (P := fun history => ∀ phase,
      history.getLast? = some phase → (phase = .intent → history = [.intent]) ∧
      (phase = .authorized → history = [.intent, .authorized]) ∧
      (phase = .started → history = [.intent, .authorized, .started])) ?_ ?_ valid.history
    · intro phase tail
      obtain rfl : CloudLedgerPhase.intent = phase := by simpa [cloudLedgerRules] using tail
      simp [cloudLedgerRules]
    · intro history last phase _ ih tail step reached ends
      obtain rfl : phase = reached := by simpa using ends
      have before := ih last tail
      cases last <;> cases phase <;>
        simp_all [cloudLedgerRules, CloudLedgerPhase.validTransition]
  exact shape _ valid.getLast?

theorem new_valid (op : CloudSubmitOperationId) (environment : CloudEnvironmentId)
    (branch : CloudBranch) : (new op environment branch).Valid where
  schema := rfl
  history := by simp only [new]; decide
  started := by simp [new]
  task := by simp [new]
  reconciled := by simp [new]
  bounded := by simp [new]
  distinct := by simp [new]
  adopted := by simp [new]

/-- A permitted phase can be appended while the history is short. -/
theorem append_ok (room : ledger.history.length < maxCloudHistoryEntries)
    (step : ledger.latest.validTransition phase = true) :
    ledger.append phase = .ok { ledger with history := ledger.history ++ [phase] } :=
  append_eq_ok.mpr ⟨room, step, rfl⟩

/-- The record crash classification leaves for an open submit. -/
def classify (ledger : CloudSubmitLedger) : CloudSubmitLedger :=
  { ledger with history := ledger.history ++ [ledger.latest.classified] }

theorem latest_classify (ledger : CloudSubmitLedger) :
    ledger.classify.latest = ledger.latest.classified := latest_concat _

section

variable (valid : ledger.Valid)

include valid

theorem Valid.open_room (unfinished : ledger.latest.isOpen = true) :
    ledger.history.length < maxCloudHistoryEntries := by
  obtain ⟨intent, authorized, started⟩ := valid.early_history
  cases phase : ledger.latest <;> simp_all [maxCloudHistoryEntries]

/-- Classification of an open submit is always possible. -/
theorem Valid.append_classified (unfinished : ledger.latest.isOpen = true) :
    ledger.append ledger.latest.classified = .ok ledger.classify := by
  refine append_ok (valid.open_room unfinished) ?_
  cases phase : ledger.latest <;> simp_all [CloudLedgerPhase.classified,
    CloudLedgerPhase.validTransition]

theorem Valid.history_concat (room : ledger.history.length < maxCloudHistoryEntries)
    (step : ledger.latest.validTransition phase = true) :
    cloudLedgerRules.accepts (ledger.history ++ [phase]) = true :=
  (HistoryRules.accepts_concat_iff valid.getLast?).mpr ⟨valid.history, room, step⟩

/-- The phases that come with no field of their own. -/
theorem Valid.append (plain : phase ∉ [.started, .taskRecorded, .reconciliationObserved, .taskAdopted])
    (appended : ledger.append phase = .ok ledger') : ledger'.Valid := by
  obtain ⟨room, step, rfl⟩ := append_eq_ok.mp appended
  simp only [List.mem_cons, List.not_mem_nil, or_false, not_or] at plain
  obtain ⟨a, b, c, d⟩ := plain
  exact {
    schema := valid.schema
    history := valid.history_concat room step
    started := by simp [valid.started.symm, Ne.symm a]
    task := by simp [valid.task.symm, Ne.symm b, Ne.symm d]
    reconciled := by simp [valid.reconciled.symm, Ne.symm c]
    bounded := valid.bounded
    distinct := valid.distinct
    adopted := by simpa [Ne.symm d] using valid.adopted }

theorem Valid.classify (unfinished : ledger.latest.isOpen = true) : ledger.classify.Valid :=
  valid.append (by cases phase : ledger.latest <;> simp_all [CloudLedgerPhase.classified])
    (valid.append_classified unfinished)

theorem Valid.recordStarted {process : ProcessIdentity} (recorded : ledger.recordStarted process = .ok ledger') :
    ledger'.Valid := by
  unfold CloudSubmitLedger.recordStarted at recorded
  split at recorded
  · cases recorded
  · obtain ⟨room, step, rfl⟩ := append_eq_ok.mp recorded
    exact {
      schema := valid.schema
      history := valid.history_concat room step
      started := by simp
      task := by simpa using valid.task
      reconciled := by simpa using valid.reconciled
      bounded := valid.bounded
      distinct := valid.distinct
      adopted := by simpa using valid.adopted }

theorem Valid.recordTask (recorded : ledger.recordTask task = .ok ledger') : ledger'.Valid := by
  unfold CloudSubmitLedger.recordTask at recorded
  split at recorded
  · cases recorded
  · rename_i noTask
    obtain ⟨room, step, rfl⟩ := append_eq_ok.mp recorded
    have unadopted : CloudLedgerPhase.taskAdopted ∉ ledger.history := fun member =>
      noTask (valid.task.mp (.inr member))
    exact {
      schema := valid.schema
      history := valid.history_concat room step
      started := by simpa using valid.started
      task := by simp
      reconciled := by simpa using valid.reconciled
      bounded := valid.bounded
      distinct := valid.distinct
      adopted := by simp [unadopted] }

end

theorem recordReconciliation_eq_ok :
    ledger.recordReconciliation tasks complete = .ok ledger' ↔
      tasks.length ≤ maxReconciliationCandidates ∧ tasks.Nodup ∧
        ledger.history.length < maxCloudHistoryEntries ∧
        ledger.latest.validTransition .reconciliationObserved = true ∧
        ledger' = { ledger with
          candidateTaskIds := tasks
          reconciliationComplete := some complete
          history := ledger.history ++ [.reconciliationObserved] } := by
  rw [recordReconciliation, ite_error_eq_ok, ite_error_eq_ok, Nat.not_lt, not_not, append_eq_ok]
  rfl

theorem recordAdoptedTask_eq_ok :
    ledger.recordAdoptedTask task = .ok ledger' ↔
      ledger.latest = .reconciliationObserved ∧ ledger.taskId = none ∧
        task ∈ ledger.candidateTaskIds ∧ ledger.history.length < maxCloudHistoryEntries ∧
        ledger' = { ledger with
          history := ledger.history ++ [.taskAdopted]
          taskId := some task } := by
  rw [recordAdoptedTask, ite_error_eq_ok, ite_error_eq_ok, ite_error_eq_ok, ne_eq, not_not, not_not,
    Option.not_isSome_iff_eq_none]
  refine and_congr_right fun observed => and_congr_right fun _ => and_congr_right fun _ => ⟨fun recorded => ?_, ?_⟩
  · cases appended : ledger.append .taskAdopted with
    | error reason => simp [appended, Except.map] at recorded
    | ok grown =>
        obtain ⟨room, -, rfl⟩ := append_eq_ok.mp appended
        simp only [appended, Except.map, Except.ok.injEq] at recorded
        exact ⟨room, recorded.symm⟩
  · rintro ⟨room, rfl⟩
    rw [append_ok room (by rw [observed]; rfl)]
    rfl

theorem recordExplicitlyAbandoned_eq_ok :
    ledger.recordExplicitlyAbandoned = .ok ledger' ↔
      ledger.latest = .reconciliationObserved ∧ ledger.taskId = none ∧
        ledger.history.length < maxCloudHistoryEntries ∧
        ledger' = { ledger with history := ledger.history ++ [.explicitlyAbandoned] } := by
  rw [recordExplicitlyAbandoned, ite_error_eq_ok, not_or, ne_eq, not_not, Option.not_isSome_iff_eq_none, append_eq_ok,
    and_assoc]
  refine and_congr_right fun observed => and_congr_right fun _ => and_congr_right fun _ => ?_
  rw [observed]
  exact and_iff_right rfl

theorem Valid.recordReconciliation (valid : ledger.Valid)
    (recorded : ledger.recordReconciliation tasks complete = .ok ledger') : ledger'.Valid := by
  obtain ⟨short, distinct, room, step, rfl⟩ := recordReconciliation_eq_ok.mp recorded
  have unadopted : CloudLedgerPhase.taskAdopted ∉ ledger.history := fun member => by
    have final := valid.latest_of_mem (fun _ => rfl) member
    simp [final, CloudLedgerPhase.validTransition] at step
  exact {
    schema := valid.schema
    history := valid.history_concat room step
    started := by simpa using valid.started
    task := by simpa using valid.task
    reconciled := by simp
    bounded := short
    distinct := distinct
    adopted := by simp [unadopted] }

theorem Valid.recordAdoptedTask (valid : ledger.Valid) (recorded : ledger.recordAdoptedTask task = .ok ledger') :
    ledger'.Valid := by
  obtain ⟨observed, -, listed, room, rfl⟩ := recordAdoptedTask_eq_ok.mp recorded
  exact {
    schema := valid.schema
    history := valid.history_concat room (by rw [observed]; rfl)
    started := by simpa using valid.started
    task := by simp
    reconciled := by simpa using valid.reconciled
    bounded := valid.bounded
    distinct := valid.distinct
    adopted := fun _ => ⟨task, listed, rfl⟩ }

theorem Valid.recordExplicitlyAbandoned (valid : ledger.Valid)
    (recorded : ledger.recordExplicitlyAbandoned = .ok ledger') : ledger'.Valid := by
  obtain ⟨observed, -, room, rfl⟩ := recordExplicitlyAbandoned_eq_ok.mp recorded
  exact valid.append (by simp) (append_ok room (by rw [observed]; rfl))

end CloudSubmitLedger

end Codebox.Cloud
