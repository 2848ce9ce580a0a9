import Codebox.Cloud.RunnerRules

/-! # What a submit leaves on disk

The two ledgers of the Cloud layer are written by different modules, and the orchestrator
only learns how a submit ended from its result. This file relates the two: for every way a
submit of a fresh operation can return, which phase the submit file is in.

Two writes can break the relation, because their failure is reported by an error that looks
like one from before the spawn. Replacing the file by an authorized record may take effect
and still report an error, and recording that nothing was spawned may be lost after the
authorization became durable. `DecisiveWrites` excludes exactly these.
-/

namespace Codebox.Cloud

open Codebox.Support Proc Codebox.Login Codebox.Host

/-- After crash classification the file permits a new operation. -/
def Idle (file : Option CloudSubmitLedger) : Prop :=
  ∀ ledger, file = some ledger → ledger.latest.classified.permitsNewOperation = true

/-- The file holds a record of this operation. -/
def Owned (op : CloudSubmitOperationId) (file : Option CloudSubmitLedger) : Prop :=
  ∃ ledger, file = some ledger ∧ ledger.operationId = op

/-- The file says that a child of this operation may have run. -/
def MaySubmit (op : CloudSubmitOperationId) (file : Option CloudSubmitLedger) : Prop :=
  ∃ ledger, file = some ledger ∧ ledger.operationId = op ∧ ledger.latest ≠ .intent ∧
    ledger.latest ≠ .failedBeforeSpawn

/-- The file records this task for this operation. -/
def Submitted (op : CloudSubmitOperationId) (task : CloudTaskId)
    (file : Option CloudSubmitLedger) : Prop :=
  ∃ ledger, file = some ledger ∧ ledger.operationId = op ∧ ledger.taskId = some task ∧
    (ledger.latest = .taskRecorded ∨ ledger.latest = .taskAdopted)

/-- An error from which `start` concludes that nothing was submitted. -/
structure HarmlessError (op : CloudSubmitOperationId) (error : CloudRunnerError) : Prop where
  own : error.operationId = none ∨ error.operationId = some op
  certain : error.category ≠ .outcomeUnknown ∧ error.category ≠ .recoveryRequired ∧
    error.category ≠ .operationConflict

/-- An error from which `start` concludes that the outcome is unknown. -/
structure UncertainError (op : CloudSubmitOperationId) (error : CloudRunnerError) : Prop where
  own : error.operationId = some op
  uncertain : error.category = .outcomeUnknown ∨ error.category = .recoveryRequired

/-- A failed submit and the file it leaves agree. What an error from before the spawn says
about the file depends on `decisive`, the assumption that the writes tell the truth. -/
def FailureAgrees (decisive : Prop) (op : CloudSubmitOperationId) (error : CloudRunnerError)
    (file : Option CloudSubmitLedger) : Prop :=
  (HarmlessError op error ∧ (decisive → Idle file)) ∨ (UncertainError op error ∧ MaySubmit op file)

structure DecisiveWrites (env : Nat → Answers) : Prop where
  authorized : ∀ time ledger, ledger.history = [.intent, .authorized] →
    (env time).writeSubmit ledger ≠ .storedUnsynced
  unspawned : ∀ time ledger, ledger.history = [.intent, .authorized, .failedBeforeSpawn] →
    (env time).writeSubmit ledger ≠ .refused ∧ (env time).writeSubmit ledger ≠ .rejected

variable {error : CloudRunnerError}

theorem PlainError.harmless_for (plain : PlainError error) (op : CloudSubmitOperationId) : HarmlessError op error :=
  ⟨.inl plain.anonymous, plain.harmless.2⟩

theorem PlainError.harmless_withOperation (plain : PlainError error) (op : CloudSubmitOperationId) :
    HarmlessError op (error.withOperation op) :=
  ⟨.inr rfl, plain.harmless.2⟩

section

-- the submits whose records may be in the file, and what is assumed of the writes
variable {known : SubmitIdentity → Prop} {decisive : Prop} {h h' : Host} {op : CloudSubmitOperationId}
  {ledger : CloudSubmitLedger}

/-- The submit file holds, if anything, a valid record of a known submit. -/
def Tidy (known : SubmitIdentity → Prop) (h : Host) : Prop :=
  ∀ ledger, h.submitFile = some ledger → ledger.Valid ∧ known ledger.identity

/-- What a submit leaves when it returns a task, when it fails, and when the process dies. -/
def Returned (known : SubmitIdentity → Prop) (op : CloudSubmitOperationId)
    (submission : CloudSubmission) (h : Host) : Prop :=
  submission.operationId = op ∧ Tidy known h ∧ Submitted op submission.taskId h.submitFile

def Died (known : SubmitIdentity → Prop) (op : CloudSubmitOperationId) (h : Host) : Prop :=
  Tidy known h ∧ (Idle h.submitFile ∨ Owned op h.submitFile)

def Failed (decisive : Prop) (known : SubmitIdentity → Prop) (op : CloudSubmitOperationId)
    (error : CloudRunnerError) (h : Host) : Prop :=
  Died known op h ∧ FailureAgrees decisive op error h.submitFile

theorem Tidy.valid {h : Host} (tidy : Tidy known h) : SubmitFileValid h :=
  fun ledger found => (tidy ledger found).1

theorem tidy_of (valid : ledger.Valid) (current : h.submitFile = some ledger)
    (own : known ledger.identity) : Tidy known h := by
  intro other found
  cases current.symm.trans found
  exact ⟨valid, own⟩

theorem died_of (valid : ledger.Valid) (listed : known ledger.identity) (current : h.submitFile = some ledger)
    (own : ledger.operationId = op) : Died known op h :=
  ⟨tidy_of valid current listed, .inr ⟨ledger, current, own⟩⟩

/-- With a record of a possible spawn on disk, an uncertain error agrees with it. -/
theorem failed_uncertain {category : CloudRunnerErrorCategory} (valid : ledger.Valid)
    (listed : known ledger.identity) (spawned : ledger.latest ≠ .intent ∧ ledger.latest ≠ .failedBeforeSpawn)
    (current : h.submitFile = some ledger) (own : ledger.operationId = op)
    (uncertain : category = .outcomeUnknown ∨ category = .recoveryRequired) :
    Failed decisive known op (.forOperation category op) h :=
  ⟨died_of valid listed current own,
    .inr ⟨⟨rfl, uncertain⟩, ledger, current, own, spawned.1, spawned.2⟩⟩

/-- Closing an authorized or started submit as unknown. -/
theorem failUnknown_spec {α : Type} {onOk : α → Host → Prop} (valid : ledger.Valid)
    (listed : known ledger.identity)
    (spawned : ledger.latest = .authorized ∨ ledger.latest = .started)
    (current : h.submitFile = some ledger) :
    (CloudTaskRunner.failUnknown ledger).wp onOk (Failed decisive known ledger.operationId)
      (Died known ledger.operationId) h := by
  have unfinished : ledger.latest.isOpen = true := by rcases spawned with h | h <;> simp [h]
  have step : ledger.latest.validTransition .outcomeUnknown = true := by
    rcases spawned with h | h <;> rw [h] <;> rfl
  have appended := CloudSubmitLedger.append_ok (valid.open_room unfinished) step
  have closedValid := valid.append (by simp) appended
  have mayRun : ledger.latest ≠ .intent ∧ ledger.latest ≠ .failedBeforeSpawn := by
    rcases spawned with h | h <;> simp [h]
  refine wp_failUnknown valid spawned appended (died_of valid listed current rfl)
    (fun category uncertain => ?_) (failed_uncertain valid listed mayRun current rfl (.inr rfl))
  exact failed_uncertain closedValid listed (by simp [CloudSubmitLedger.latest_concat]) rfl rfl uncertain

theorem recordSubmission_spec (task : CloudTaskId) (valid : ledger.Valid) (listed : known ledger.identity)
    (started : ledger.history = [.intent, .authorized, .started])
    (current : h.submitFile = some ledger) :
    (CloudTaskRunner.recordSubmission ledger task).wp (Returned known ledger.operationId)
      (Failed decisive known ledger.operationId) (Died known ledger.operationId) h := by
  have latest : ledger.latest = .started := by simp [CloudSubmitLedger.latest, started]
  have untasked : ledger.taskId = none := by simpa [started] using valid.task
  have recordTask : ledger.recordTask task = .ok { ledger with
      taskId := some task, history := ledger.history ++ [.taskRecorded] } := by
    rw [CloudSubmitLedger.recordTask, untasked]
    exact CloudSubmitLedger.append_ok (by simp [started, maxCloudHistoryEntries])
      (by simp [CloudSubmitLedger.latest, started, CloudLedgerPhase.validTransition])
  have recordedValid := valid.recordTask recordTask
  have appended : ledger.append .outcomeUnknown = .ok _ :=
    CloudSubmitLedger.append_ok (by simp [started, maxCloudHistoryEntries])
      (by rw [latest]; rfl)
  have closedValid := valid.append (by simp) appended
  -- the record of the task may or may not be on disk when the unknown outcome is recorded
  have fallback : ∀ (onDisk : CloudSubmitLedger) (h' : Host), onDisk.Valid →
      onDisk.identity = ledger.identity → onDisk.latest ≠ .intent →
      onDisk.latest ≠ .failedBeforeSpawn → h'.submitFile = some onDisk →
      (CloudTaskRunner.persistUnknown ledger).wp
        (fun _ => Failed decisive known ledger.operationId (.forOperation .recoveryRequired ledger.operationId))
        (fun _ => Failed decisive known ledger.operationId (.forOperation .recoveryRequired ledger.operationId))
        (Died known ledger.operationId) h' := by
    intro onDisk h' diskValid same notIntent notFailed found
    have diskListed : known onDisk.identity := same ▸ listed
    have own : onDisk.operationId = ledger.operationId := congrArg SubmitIdentity.operationId same
    have closed : Failed decisive known ledger.operationId (.forOperation .recoveryRequired ledger.operationId)
        (storeSubmit { ledger with history := ledger.history ++ [.outcomeUnknown] } h'.advance) :=
      failed_uncertain closedValid listed (by simp [CloudSubmitLedger.latest_concat]) rfl rfl (.inr rfl)
    exact wp_persistUnknown valid (.inr latest) appended (died_of diskValid diskListed found own) closed closed
      (failed_uncertain diskValid diskListed ⟨notIntent, notFailed⟩ found own (.inr rfl))
  rw [CloudTaskRunner.recordSubmission, recordTask]
  simp only [wp_bind, wp_ofExcept_ok, wp_attempt]
  refine wp_persistCloudLedger recordedValid (died_of valid listed current rfl) (fun _ => ?_)
    (fun _ _ _ => ?_) (fun _ _ _ => ?_)
  · exact ⟨rfl, tidy_of recordedValid rfl listed, _, rfl, rfl, rfl,
      .inl (by simp [CloudSubmitLedger.latest])⟩
  · exact fallback _ _ recordedValid rfl (by simp [CloudSubmitLedger.latest])
      (by simp [CloudSubmitLedger.latest]) rfl
  · exact fallback _ _ valid rfl (by simp [latest]) (by simp [latest]) current

/-- After the child runs, every return is either a recorded task or an uncertain error. -/
theorem superviseSubmit_spec (process : ProcessIdentity) (cancellation : CloudCancellation)
    (valid : ledger.Valid) (listed : known ledger.identity) (authorized : ledger.history = [.intent, .authorized])
    (current : h.submitFile = some ledger) :
    (CloudTaskRunner.superviseSubmit ledger process cancellation).wp (Returned known ledger.operationId)
      (Failed decisive known ledger.operationId) (Died known ledger.operationId) h := by
  have latest : ledger.latest = .authorized := by simp [CloudSubmitLedger.latest, authorized]
  have unstarted : ledger.process = none := by simpa [authorized] using valid.started
  let started : CloudSubmitLedger :=
    { ledger with process := some process, history := [.intent, .authorized, .started] }
  have recordStarted : ledger.recordStarted process = .ok started := by
    simp [CloudSubmitLedger.recordStarted, CloudSubmitLedger.append, CloudSubmitLedger.latest,
      unstarted, authorized, maxCloudHistoryEntries, CloudLedgerPhase.validTransition, started]
  have startedValid := valid.recordStarted recordStarted
  have startedMayRun : started.latest ≠ .intent ∧ started.latest ≠ .failedBeforeSpawn := by
    simp [CloudSubmitLedger.latest, started]
  rw [CloudTaskRunner.superviseSubmit, recordStarted]
  simp only [wp_bind, wp_ofExcept_ok, wp_attempt]
  refine wp_persistCloudLedger startedValid (died_of valid listed current rfl) (fun _ => ?_)
    (fun _ _ _ => failed_uncertain startedValid listed startedMayRun rfl rfl (.inr rfl))
    (fun _ _ _ => failed_uncertain valid listed (by simp [latest]) current rfl (.inr rfl))
  refine (readOnly_wait cancellation _).wp (fun completion time _ => ?_)
    (fun _ time _ _ => failUnknown_spec startedValid listed (.inr rfl) rfl)
    (fun time _ => died_of startedValid listed rfl rfl)
  have closing : (CloudTaskRunner.failUnknown started).wp (Returned known ledger.operationId)
      (Failed decisive known ledger.operationId) (Died known ledger.operationId)
      ((storeSubmit started h.advance).atTime time) :=
    failUnknown_spec startedValid listed (.inr rfl) rfl
  rcases completion with ⟨_ | _ | _, _ | task⟩
  · exact closing
  · exact recordSubmission_spec task startedValid listed rfl rfl
  all_goals exact closing

/-- An error before anything ran agrees with a file that permits a new operation. -/
theorem failed_harmless (died : Died known op h) (idle : decisive → Idle h.submitFile)
    (harmless : HarmlessError op error) : Failed decisive known op error h :=
  ⟨died, .inl ⟨harmless, idle⟩⟩

theorem idle_of (current : h.submitFile = some ledger)
    (permits : ledger.latest.classified.permitsNewOperation = true) : Idle h.submitFile := by
  intro other found
  cases current.symm.trans found
  exact permits

theorem executeSubmit_spec (cancellation : CloudCancellation) (truthful : decisive → DecisiveWrites h.env)
    (valid : ledger.Valid) (listed : known ledger.identity) (authorized : ledger.history = [.intent, .authorized])
    (current : h.submitFile = some ledger) :
    (CloudTaskRunner.executeSubmit ledger cancellation).wp (Returned known ledger.operationId)
      (Failed decisive known ledger.operationId) (Died known ledger.operationId) h := by
  have latest : ledger.latest = .authorized := by simp [CloudSubmitLedger.latest, authorized]
  have appended : ledger.append .failedBeforeSpawn = .ok _ :=
    CloudSubmitLedger.append_ok (by simp [authorized, maxCloudHistoryEntries]) (by rw [latest]; rfl)
  have closedValid := valid.append (by simp) appended
  have closedIdle : CloudLedgerPhase.permitsNewOperation (CloudSubmitLedger.latest { ledger with
      history := ledger.history ++ [.failedBeforeSpawn] }).classified = true := by
    rw [CloudSubmitLedger.latest_concat]
    rfl
  rw [CloudTaskRunner.executeSubmit, wp_bind]
  refine (readOnly_isCancelled cancellation).wp (fun cancelled time _ => ?_)
    (fun _ _ never _ => never.elim) (fun time _ => died_of valid listed current rfl)
  cases cancelled with
  | true => exact failUnknown_spec valid listed (.inl latest) current
  | false =>
      simp only [Bool.false_eq_true, if_false, wp_bind, wp_attempt]
      refine wp_startCommand (died_of valid listed current rfl)
        (fun process => superviseSubmit_spec process cancellation valid listed authorized current)
        (fun failure started => ?_) (fun failure unstarted => ?_)
      · simp only [started, if_true]
        exact failUnknown_spec valid listed (.inl latest) current
      · simp only [unstarted, Bool.false_eq_true, if_false]
        refine wp_failBeforeSpawn valid appended (died_of valid listed current rfl) (fun _ => ?_)
          (fun error plain _ => ?_) (fun error plain lost => ?_)
        · exact failed_harmless (died_of closedValid listed rfl rfl) (fun _ => idle_of rfl closedIdle)
            ((plain_spawn failure).harmless_withOperation _)
        · exact failed_harmless (died_of closedValid listed rfl rfl) (fun _ => idle_of rfl closedIdle)
            (plain.harmless_for _)
        · refine failed_harmless (died_of valid listed current rfl) (fun trusted => ?_) (plain.harmless_for _)
          refine absurd lost (not_or.mpr ((truthful trusted).unspawned (time + 1) _ ?_))
          simp [authorized]

/-- A submit of an operation that the file does not know yet. -/
theorem freshSubmit_spec (runner : CloudTaskRunner) (request : CloudSubmitRequest)
    (cancellation : CloudCancellation) (truthful : decisive → DecisiveWrites h.env)
    (listed : known ⟨request.operationId, runner.environment, runner.branch⟩) (tidy : Tidy known h) (idle : Idle h.submitFile) :
    (runner.freshSubmit request cancellation).wp (Returned known request.operationId)
      (Failed decisive known request.operationId) (Died known request.operationId) h := by
  let intent := CloudSubmitLedger.new request.operationId runner.environment runner.branch
  have intentValid : intent.Valid := CloudSubmitLedger.new_valid _ _ _
  have untouched : ∀ time, Died known request.operationId (h.atTime time) := fun _ => ⟨tidy, .inl idle⟩
  have intentFailed : ∀ (h' : Host) error, h'.submitFile = some intent →
      HarmlessError request.operationId error → Failed decisive known request.operationId error h' :=
    fun h' error found harmless => failed_harmless (died_of intentValid listed found rfl)
      (fun _ => idle_of found rfl) harmless
  let unspawned : CloudSubmitLedger := { intent with history := [.intent, .failedBeforeSpawn] }
  have appended : intent.append .failedBeforeSpawn = .ok unspawned := rfl
  have unspawnedValid := intentValid.append (by simp) appended
  -- every refusal before the authorization closes the intent
  have closing : ∀ (h' : Host) error, h'.submitFile = some intent →
      HarmlessError request.operationId error →
      (CloudTaskRunner.failBeforeSpawn intent error).wp (Returned known request.operationId)
        (Failed decisive known request.operationId) (Died known request.operationId) h' := by
    intro h' error found harmless
    have closed : ∀ error, HarmlessError request.operationId error →
        Failed decisive known request.operationId error (storeSubmit unspawned h'.advance) := fun _ harmless =>
      failed_harmless (died_of unspawnedValid listed rfl rfl) (fun _ => idle_of rfl rfl) harmless
    exact wp_failBeforeSpawn intentValid appended (died_of intentValid listed found rfl)
      (fun _ => closed _ harmless) (fun _ plain _ => closed _ (plain.harmless_for _))
      (fun _ plain _ => intentFailed _ _ found (plain.harmless_for _))
  rw [CloudTaskRunner.freshSubmit, wp_bind]
  refine readOnly_verifyVersion.wp (fun _ time _ => ?_)
    (fun _ time plain _ => failed_harmless ⟨tidy, .inl idle⟩ (fun _ => idle) (plain.harmless_for _))
    (fun time _ => untouched time)
  rw [wp_bind]
  refine wp_persistCloudLedger intentValid (untouched _) (fun _ => ?_)
    (fun _ plain _ => intentFailed _ _ rfl (plain.harmless_for _))
    (fun _ plain _ => failed_harmless ⟨tidy, .inl idle⟩ (fun _ => idle) (plain.harmless_for _))
  rw [wp_bind]
  refine (readOnly_isCancelled cancellation).wp (fun cancelled time _ => ?_)
    (fun _ _ never _ => never.elim) (fun time _ => died_of intentValid listed rfl rfl)
  cases cancelled with
  | true => exact closing _ _ rfl ⟨.inr rfl, nofun, nofun, nofun⟩
  | false =>
      simp only [Bool.false_eq_true, if_false, wp_bind, wp_attempt]
      refine readOnly_authorizeLogin.wp (fun _ time _ => ?_)
        (fun _ time plain _ => closing _ _ rfl (plain.harmless_withOperation _))
        (fun time _ => died_of intentValid listed rfl rfl)
      refine readOnly_ensureDiagnosticSentinel.wp (fun _ time _ => ?_)
        (fun _ time plain _ => closing _ _ rfl (plain.harmless_withOperation _))
        (fun time _ => died_of intentValid listed rfl rfl)
      let authorized : CloudSubmitLedger := { intent with history := [.intent, .authorized] }
      have authorize : intent.append .authorized = .ok authorized := rfl
      have authorizedValid := intentValid.append (by simp) authorize
      rw [authorize, wp_ofExcept_ok]
      refine wp_persistCloudLedger authorizedValid (died_of intentValid listed rfl rfl) (fun _ => ?_)
        (fun _ plain lie => failed_harmless (died_of authorizedValid listed rfl rfl)
          (fun trusted => absurd lie ((truthful trusted).authorized _ _ rfl)) (plain.harmless_for _))
        (fun _ plain _ => intentFailed _ _ rfl (plain.harmless_for _))
      exact executeSubmit_spec cancellation truthful authorizedValid listed rfl rfl

theorem Classified.env (classified : Classified h h') : h'.env = h.env := by
  cases classified <;> rfl

theorem Classified.tidy (classified : Classified h h') (tidy : Tidy known h) : Tidy known h' := by
  cases classified with
  | same => exact tidy
  | closed ledger time later current unfinished =>
      exact tidy_of ((tidy ledger current).1.classify unfinished) rfl (tidy ledger current).2

/-- Crash classification does not change what a file says after crash classification. -/
theorem classified_classified (phase : CloudLedgerPhase) :
    phase.classified.classified = phase.classified := by
  cases phase <;> rfl

theorem Classified.idle (classified : Classified h h') : Idle h'.submitFile ↔ Idle h.submitFile := by
  cases classified with
  | same => rfl
  | closed ledger time later current unfinished =>
      simp [Idle, storeSubmit, current, CloudSubmitLedger.latest_classify, classified_classified]

theorem Classified.owned (classified : Classified h h') : Owned op h'.submitFile ↔ Owned op h.submitFile := by
  cases classified with
  | same => rfl
  | closed ledger time later current unfinished =>
      simp [Owned, storeSubmit, current, CloudSubmitLedger.classify]

/-- Once recovered, a file that permits a new operation lets another operation through. -/
theorem dispatchExisting_idle {runner : CloudTaskRunner} {found : Option CloudSubmitLedger}
    (recovered : ∀ ledger, found = some ledger → Recovered runner ledger) (idle : Idle found)
    (other : ¬ Owned op found) : CloudTaskRunner.dispatchExisting op found = none := by
  cases found with
  | none => rfl
  | some ledger =>
      have settled := (recovered ledger rfl).settled
      have permits := idle ledger rfl
      have different : ledger.operationId ≠ op := fun same => other ⟨ledger, rfl, same⟩
      cases phase : ledger.latest <;>
        simp_all [CloudTaskRunner.dispatchExisting, CloudLedgerPhase.classified]

/-- The outcome of a submit whose operation the file does not know yet. -/
theorem submit_spec (runner : CloudTaskRunner) (request : CloudSubmitRequest)
    (cancellation : CloudCancellation) (truthful : decisive → DecisiveWrites h.env)
    (listed : known ⟨request.operationId, runner.environment, runner.branch⟩) (tidy : Tidy known h) (idle : Idle h.submitFile)
    (other : ¬ Owned request.operationId h.submitFile) :
    (runner.submit request cancellation).wp (Returned known request.operationId)
      (Failed decisive known request.operationId) (Died known request.operationId) h := by
  refine recovered_spec runner tidy.valid ?_ ?_ ?_
  · intro error h' plain classified
    have idle' := classified.idle.mpr idle
    exact failed_harmless ⟨classified.tidy tidy, .inl idle'⟩ (fun _ => idle') (plain.harmless_for _)
  · intro h' classified
    exact ⟨classified.tidy tidy, .inl (classified.idle.mpr idle)⟩
  · intro h' classified recovered
    have idle' := classified.idle.mpr idle
    rw [dispatchExisting_idle recovered idle' (classified.owned.not.mpr other)]
    exact freshSubmit_spec runner request cancellation (classified.env ▸ truthful)
      listed (classified.tidy tidy) idle'

end

end Codebox.Cloud
