import Codebox.Cloud.SubmitOutcome
import Codebox.Cloud.Machine

/-! # The two ledgers agree

The lifecycle ledger and the submit ledger are two files written by two modules. `Coherent`
says what a lifecycle record, in memory or on disk, implies about the submit file; each
section of the orchestrator keeps it for both copies of the record, so that a finished
operation never leaves a submit file behind that refuses the next one.
-/

namespace Codebox.Cloud

open Codebox.Support Codebox.Host

/-- What a lifecycle record implies about the submit file. That a terminal record leaves the
file open needs the assumption `decisive`, see `FailureAgrees`. -/
structure Coherent (decisive : Prop) (ledger : CloudLifecycleLedger)
    (file : Option CloudSubmitLedger) : Prop where
  submitting : ledger.phase = .submitting → Idle file ∨ Owned ledger.operationId file
  unknown : ledger.phase = .outcomeUnknown → MaySubmit ledger.operationId file
  /-- Each reconciliation has left its entry in the submit file. -/
  counted : ledger.phase = .outcomeUnknown → ∀ record, file = some record →
    ledger.reconciliationGeneration ≤ record.history.length
  task : ledger.phase.requiresTask = true →
    ∃ task, ledger.taskId = some task ∧ Submitted ledger.operationId task file
  terminal : ledger.phase.isTerminal = true → decisive → Idle file

variable {file : Option CloudSubmitLedger} {op : CloudSubmitOperationId} {ledger ledger' : CloudSubmitLedger}
  {h : Host} {task : CloudTaskId}

theorem MaySubmit.owned : MaySubmit op file → Owned op file
  | ⟨ledger, found, own, _⟩ => ⟨ledger, found, own⟩

theorem Submitted.owned : Submitted op task file → Owned op file
  | ⟨ledger, found, own, _⟩ => ⟨ledger, found, own⟩

theorem Submitted.idle (submitted : Submitted op task file) : Idle file := by
  obtain ⟨ledger, rfl, -, -, recorded⟩ := submitted
  rintro _ ⟨⟩
  rcases recorded with phase | phase <;> rw [phase] <;> rfl

/-- A change of the submit file that no lifecycle record can notice. -/
structure Progress (before after : Option CloudSubmitLedger) : Prop where
  coherent : ∀ decisive ledger, Coherent decisive ledger before → Coherent decisive ledger after
  idle : Idle before → Idle after

theorem Progress.refl (file : Option CloudSubmitLedger) : Progress file file :=
  ⟨fun _ _ => id, id⟩

theorem Progress.trans {a b c : Option CloudSubmitLedger} (first : Progress a b)
    (second : Progress b c) : Progress a c :=
  ⟨fun decisive ledger => second.coherent decisive ledger ∘ first.coherent decisive ledger,
    second.idle ∘ first.idle⟩

/-- An unresolved record may be replaced by any later record of its operation: a lifecycle
record that agrees with it is submitting or unknown. -/
theorem progress_unresolved (unresolved : ledger.latest.classified.isUnknown = true)
    (same : ledger'.operationId = ledger.operationId)
    (longer : ledger.history.length ≤ ledger'.history.length)
    (mayRun : ledger'.latest ≠ .intent ∧ ledger'.latest ≠ .failedBeforeSpawn) :
    Progress (some ledger) (some ledger') := by
  have busy : ¬ Idle (some ledger) := fun idle => by
    have permits := idle ledger rfl
    cases phase : ledger.latest <;> simp_all [CloudLedgerPhase.classified]
  have unrecorded : ¬ (ledger.latest = .taskRecorded ∨ ledger.latest = .taskAdopted) := by
    rintro (phase | phase) <;> simp [phase, CloudLedgerPhase.classified] at unresolved
  refine ⟨fun decisive record agrees => ⟨?_, ?_, ?_, ?_, ?_⟩, fun idle => absurd idle busy⟩
  · intro phase
    rcases agrees.submitting phase with idle | ⟨_, ⟨⟩, own⟩
    · exact absurd idle busy
    · exact .inr ⟨ledger', rfl, same.trans own⟩
  · intro phase
    obtain ⟨_, ⟨⟩, own, -⟩ := agrees.unknown phase
    exact ⟨ledger', rfl, same.trans own, mayRun.1, mayRun.2⟩
  · rintro phase _ ⟨⟩
    exact Nat.le_trans (agrees.counted phase ledger rfl) longer
  · intro phase
    obtain ⟨task, -, _, ⟨⟩, -, -, recorded⟩ := agrees.task phase
    exact absurd recorded unrecorded
  · intro phase trusted
    exact absurd (agrees.terminal phase trusted) busy

theorem Classified.progress {h' : Host} (classified : Classified h h') : Progress h.submitFile h'.submitFile := by
  cases classified with
  | same => exact .refl _
  | closed ledger time later current unfinished =>
      simp only [storeSubmit, current]
      cases phase : ledger.latest with
      | intent =>
          -- a bare intent is as good as one that never spawned
          have closed : ledger.classify.latest = .failedBeforeSpawn := by
            rw [CloudSubmitLedger.latest_classify, phase]
            rfl
          have idle : Idle (some ledger.classify) := by
            rintro _ ⟨⟩
            rw [closed]
            rfl
          refine ⟨fun decisive record agrees =>
            ⟨fun _ => .inl idle, ?_, ?_, ?_, fun _ _ => idle⟩, fun _ => idle⟩
          · intro unknown
            obtain ⟨_, ⟨⟩, -, notIntent, -⟩ := agrees.unknown unknown
            exact absurd phase notIntent
          · intro unknown
            obtain ⟨_, ⟨⟩, -, notIntent, -⟩ := agrees.unknown unknown
            exact absurd phase notIntent
          · intro named
            obtain ⟨task, -, _, ⟨⟩, -, -, recorded⟩ := agrees.task named
            simp [phase] at recorded
      | authorized | started =>
          refine progress_unresolved (by rw [phase]; rfl) rfl
            (by simp [CloudSubmitLedger.classify]) ?_
          rw [CloudSubmitLedger.latest_classify, phase]
          decide
      | _ => simp [phase] at unfinished

/-! ## What the runner's recovery calls do -/

/-- A change of the host that keeps everything the lifecycle records depend on. -/
structure Onward (h h' : Host) : Prop where
  env : h'.env = h.env
  issued : h.issued ≤ h'.issued
  lifecycle : h'.lifecycleFile = h.lifecycleFile
  tidy : ∀ known, Tidy known h → Tidy known h'
  progress : Progress h.submitFile h'.submitFile

theorem Onward.time (h : Host) (time : Nat) : Onward h (h.atTime time) :=
  ⟨rfl, Nat.le_refl _, rfl, fun _ => id, .refl _⟩

theorem Onward.trans {a b c : Host} (first : Onward a b) (second : Onward b c) : Onward a c where
  env := second.env.trans first.env
  issued := Nat.le_trans first.issued second.issued
  lifecycle := second.lifecycle.trans first.lifecycle
  tidy known := second.tidy known ∘ first.tidy known
  progress := first.progress.trans second.progress

theorem Classified.onward {h' : Host} (classified : Classified h h') : Onward h h' where
  env := classified.env
  issued := by cases classified <;> exact Nat.le_refl _
  lifecycle := by cases classified <;> rfl
  tidy _ := classified.tidy
  progress := classified.progress

/-- Replacing an unresolved record on disk by a later one of the same operation. -/
theorem onward_store (current : h.submitFile = some ledger) (unresolved : ledger.latest.classified.isUnknown = true)
    (same : ledger'.identity = ledger.identity) (valid : ledger'.Valid)
    (longer : ledger.history.length ≤ ledger'.history.length)
    (mayRun : ledger'.latest ≠ .intent ∧ ledger'.latest ≠ .failedBeforeSpawn) : Onward h (storeSubmit ledger' h) where
  env := rfl
  issued := Nat.le_refl _
  lifecycle := rfl
  tidy _ tidy := tidy_of valid rfl (same ▸ (tidy ledger current).2)
  progress := current ▸ progress_unresolved unresolved
    (congrArg SubmitIdentity.operationId same) longer mayRun

/-- What an observation of an operation says about the file. -/
def Observed (op : CloudSubmitOperationId) (file : Option CloudSubmitLedger) :
    CloudSubmitObservation → Prop
  | .absent => Idle file ∧ ¬ Owned op file
  | .failedBeforeSpawn => Idle file ∧ Owned op file
  | .outcomeUnknown => MaySubmit op file
  | .taskRecorded submission => submission.operationId = op ∧ Submitted op submission.taskId file
  | .explicitlyAbandoned => Idle file ∧ MaySubmit op file

theorem classifyObservation_ok {observation : CloudSubmitObservation}
    (settled : ∀ ledger, file = some ledger → ledger.latest.isOpen = false)
    (classified : CloudTaskRunner.classifyObservation op file = .ok observation) :
    Observed op file observation := by
  cases file with
  | none =>
      cases classified
      exact ⟨nofun, nofun⟩
  | some ledger =>
      have closed := settled ledger rfl
      by_cases own : ledger.operationId = op
      · subst own
        cases phase : ledger.latest <;>
          simp [CloudTaskRunner.classifyObservation, CloudTaskRunner.recordedTaskOrInvalid,
            CloudSubmitLedger.recordedTask, phase] at classified closed
        case taskRecorded | taskAdopted =>
          cases task : ledger.taskId <;> simp [task, Except.map] at classified
          subst classified
          exact ⟨rfl, ledger, rfl, rfl, task, by simp [phase]⟩
        all_goals
          subst classified
          simp [Observed, Idle, Owned, MaySubmit, phase, CloudLedgerPhase.classified]
      · simp only [CloudTaskRunner.classifyObservation, ne_eq, own, not_false_eq_true,
          if_true] at classified
        split at classified <;> cases classified
        rename_i permits
        refine ⟨?_, ?_⟩
        · rintro _ ⟨⟩
          cases phase : ledger.latest <;> simp_all [CloudLedgerPhase.classified]
        · rintro ⟨_, ⟨⟩, same⟩
          exact own same

/-- Observing an operation is refused for a conflict only by a file that refuses a submit. -/
theorem classifyObservation_conflict {error : CloudRunnerError}
    (settled : ∀ ledger, file = some ledger → ledger.latest.isOpen = false)
    (refused : CloudTaskRunner.classifyObservation op file = .error error)
    (conflict : error.category = .operationConflict) : ¬ Idle file := by
  intro idle
  cases file with
  | none => cases refused
  | some ledger =>
      have closed := settled ledger rfl
      have permits := idle ledger rfl
      by_cases own : ledger.operationId = op
      · cases phase : ledger.latest <;>
          simp [CloudTaskRunner.classifyObservation, CloudTaskRunner.recordedTaskOrInvalid, phase,
            own] at refused closed
        all_goals
          cases task : ledger.recordedTask <;> simp [task, Except.map] at refused
          subst refused
          cases conflict
      · cases phase : ledger.latest <;>
          simp_all [CloudTaskRunner.classifyObservation, CloudLedgerPhase.classified]

theorem observeSubmit_spec (runner : CloudTaskRunner) (op : CloudSubmitOperationId) (valid : SubmitFileValid h) :
    (runner.observeSubmit op).wp (fun observation h' => Onward h h' ∧ Observed op h'.submitFile observation)
      (fun error h' => Onward h h' ∧ (error.category = .operationConflict → ¬ Idle h'.submitFile))
      (Onward h) h := by
  refine recovered_spec runner valid
    (fun error _ plain classified =>
      ⟨classified.onward, fun conflict => absurd conflict plain.harmless.2.2.2⟩)
    (fun _ classified => classified.onward) fun h' classified recovered => ?_
  have onward := classified.onward
  have settled : ∀ ledger, h'.submitFile = some ledger → ledger.latest.isOpen = false :=
    fun ledger found => (recovered ledger found).settled
  cases outcome : CloudTaskRunner.classifyObservation op h'.submitFile with
  | ok observation => exact ⟨onward, classifyObservation_ok settled outcome⟩
  | error error => exact ⟨onward, classifyObservation_conflict settled outcome⟩

/-- A later record of an unresolved operation, once the file is classified. -/
theorem Classified.store {h' : Host} (classified : Classified h h') (current : h'.submitFile = some ledger)
    (unresolved : ledger.latest.classified.isUnknown = true) (valid : ledger'.Valid)
    (same : ledger'.identity = ledger.identity) (longer : ledger.history.length ≤ ledger'.history.length)
    (mayRun : ledger'.latest ≠ .intent ∧ ledger'.latest ≠ .failedBeforeSpawn) :
    Onward h (storeSubmit ledger' h'.advance) :=
  (classified.onward.trans (.time h' _)).trans
    (onward_store (h := h'.advance) current unresolved same valid longer mayRun)

theorem Classified.longer {h' : Host} (classified : Classified h h') (before : h.submitFile = some ledger)
    (after : h'.submitFile = some ledger') : ledger.history.length ≤ ledger'.history.length := by
  cases classified with
  | same =>
      cases before.symm.trans after
      exact Nat.le_refl _
  | closed current time later found unfinished =>
      cases before.symm.trans found
      cases after
      simp [CloudSubmitLedger.classify]

/-- A reconciliation that succeeds has left one more entry in the submit file. -/
theorem reconcileUnknown_spec (runner : CloudTaskRunner) (valid : SubmitFileValid h) :
    runner.reconcileUnknown.wp
      (fun _ h' => Onward h h' ∧ ∀ record, h.submitFile = some record →
        ∃ record', h'.submitFile = some record' ∧ record.history.length < record'.history.length)
      (fun _ => Onward h) (Onward h) h := by
  apply wp_reconcileUnknown runner valid (fun _ _ classified => classified.onward)
    (fun _ classified => classified.onward)
  intro h' ledger next tasks complete classified current _ unknown recorded accepted
  obtain ⟨-, -, -, -, rfl⟩ := CloudSubmitLedger.recordReconciliation_eq_ok.mp recorded
  have unresolved : ledger.latest.classified.isUnknown = true := by
    cases phase : ledger.latest <;> simp_all [CloudLedgerPhase.classified]
  have onward := classified.store current unresolved accepted rfl (by simp) (by simp [CloudSubmitLedger.latest])
  refine ⟨⟨onward, ?_⟩, fun _ => onward⟩
  intro record before
  have longer := classified.longer before current
  refine ⟨_, rfl, ?_⟩
  simp only [List.length_append, List.length_singleton]
  omega

theorem resolveUnknown_spec (runner : CloudTaskRunner) (op : CloudSubmitOperationId)
    (resolution : CloudUnknownResolution) (valid : SubmitFileValid h) :
    (runner.resolveUnknown op resolution).wp
      (fun observation h' => Onward h h' ∧ Observed op h'.submitFile observation)
      (fun _ => Onward h) (Onward h) h := by
  -- the file of an operation that has ended shows how
  have shown : ∀ submit : CloudSubmitLedger, submit.operationId = op → submit.Took resolution →
      Observed op (some submit) (resolution.observation op) := by
    intro submit own took
    apply classifyObservation_ok _ (classifyObservation_took own took)
    rintro _ ⟨⟩
    cases resolution with
    | adoptListedTask task => rw [took.1]; rfl
    | explicitlyAbandon => rw [show submit.latest = _ from took]; rfl
  apply wp_resolveUnknown runner op resolution valid (fun _ _ classified => classified.onward)
    (fun _ classified => classified.onward)
  · intro h' submit classified current own took
    exact ⟨classified.onward, current ▸ shown submit own took⟩
  · intro h' submit next classified current sound own recorded
    obtain ⟨same, took⟩ := took_recordResolution recorded
    have unresolved : submit.latest.classified.isUnknown = true := by
      rw [recordResolution_observed recorded]
      rfl
    have onward : Onward h (storeSubmit next h'.advance) := by
      have accepted := sound.recordResolution recorded
      cases resolution with
      | adoptListedTask task =>
          obtain ⟨-, -, -, -, rfl⟩ := CloudSubmitLedger.recordAdoptedTask_eq_ok.mp recorded
          exact classified.store current unresolved accepted rfl (by simp) (by simp [took.1])
      | explicitlyAbandon =>
          obtain ⟨-, -, -, rfl⟩ := CloudSubmitLedger.recordExplicitlyAbandoned_eq_ok.mp recorded
          exact classified.store current unresolved accepted rfl (by simp) (by simp [CloudSubmitLedger.latest])
    exact ⟨⟨onward, shown next (same.trans own) took⟩, fun _ => onward⟩

end Codebox.Cloud
