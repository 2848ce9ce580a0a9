import Codebox.Cloud.Runner

/-! # Rules for the runner's procedures

One rule for each helper of the runner, in terms of the submit file before and after.
Callers use these and do not look into the helpers again. All of them leave the other
files alone, which is stated once for the public functions at the end.
-/

namespace Codebox.Cloud

open Codebox.Support Proc Codebox.Login Codebox.Host

/-- An error that names no operation and says nothing about the outcome of a submit. -/
structure PlainError (error : CloudRunnerError) : Prop where
  anonymous : error.operationId = none
  harmless : error.category ≠ .canceledBeforeStart ∧ error.category ≠ .outcomeUnknown ∧
    error.category ≠ .recoveryRequired ∧ error.category ≠ .operationConflict

theorem plain_scope (error : CredentialScopeError) : PlainError (mapScopeError error) := by
  cases error <;> exact ⟨rfl, by decide⟩

theorem plain_runtime (error : LoginBrokerError) : PlainError (mapRuntimeError error) := by
  cases error with
  | credentialScope error => exact plain_scope error
  | _ => exact ⟨rfl, by decide⟩

theorem plain_loginLedger (error : LoginBrokerError) : PlainError (mapLoginLedgerError error) := by
  cases error <;> exact ⟨rfl, by simp [mapLoginLedgerError]⟩

theorem plain_spawn (failure : SpawnFailure) : PlainError failure.error := by
  cases failure with
  | invocation error => exact plain_scope error
  | spawn error | identity error => exact plain_runtime error
  | pipe => exact ⟨rfl, by decide⟩

theorem plain_ledgerInvalid : PlainError CloudSubmitLedger.ledgerInvalid := ⟨rfl, by decide⟩

theorem plain_ledgerUnavailable : PlainError ⟨.ledgerUnavailable, none⟩ := ⟨rfl, by decide⟩

/-! ## Procedures that only read -/

theorem readOnly_acquireScope : ReadOnly PlainError acquireScope := by
  refine readOnly_bind readOnly_ask fun answers => ?_
  cases answers.scope with
  | none => exact readOnly_pure ()
  | some error => exact readOnly_fail (plain_scope error)

theorem readOnly_verifyVersion : ReadOnly PlainError verifyVersion := by
  refine readOnly_bind readOnly_ask fun answers => ?_
  cases answers.version with
  | none => exact readOnly_pure ()
  | some error => exact readOnly_fail (plain_runtime error)

theorem readOnly_loginStatus : ReadOnly PlainError loginStatus := by
  refine readOnly_bind readOnly_ask fun answers => ?_
  cases answers.loginStatus with
  | ok status => exact readOnly_pure status
  | error error => exact readOnly_fail (plain_runtime error)

theorem readOnly_ensureDiagnosticSentinel : ReadOnly PlainError ensureDiagnosticSentinel := by
  refine readOnly_bind readOnly_ask fun answers => ?_
  split
  · exact readOnly_pure ()
  · exact readOnly_fail ⟨rfl, by decide⟩

theorem readOnly_isCancelled (cancellation : CloudCancellation) :
    ReadOnly (fun _ => False) (isCancelled cancellation) :=
  readOnly_bind readOnly_ask fun _ => readOnly_pure _

variable {α : Type}

theorem readOnly_wait (cancellation : CloudCancellation) (decode : Answers → Option α) :
    ReadOnly PlainError (wait cancellation decode) := by
  refine readOnly_bind readOnly_ask fun answers => ?_
  cases answers.waitFailure with
  | some failure =>
      refine readOnly_fail ?_
      cases failure with
      | poll timedOut => cases timedOut <;> exact ⟨rfl, by decide⟩
      | capture error => exact plain_runtime error
  | none =>
      simp only
      split
      · exact readOnly_pure _
      · split <;> exact readOnly_pure _

theorem readOnly_runRead (decode : Answers → Option α) : ReadOnly PlainError (runRead decode) := by
  have unchanged : ReadOnly (fun _ => True) (Proc.modify id : Proc Host SpawnFailure Unit) :=
    fun h => ⟨h.tick, Nat.le_refl _, rfl⟩
  have spawned : ReadOnly (fun _ => True) (startCommand id) := by
    refine readOnly_bind readOnly_ask fun answers => ?_
    cases answers.spawn with
    | ok process => exact readOnly_bind unchanged fun _ => readOnly_pure process
    | error failure =>
        simp only
        split
        · exact readOnly_bind unchanged fun _ => readOnly_fail trivial
        · exact readOnly_bind (readOnly_pure ()) fun _ => readOnly_fail trivial
  refine readOnly_bind (readOnly_mapError spawned fun failure _ => plain_spawn failure) fun _ =>
    readOnly_bind (readOnly_wait {} decode) fun completion => ?_
  cases completion.ending with
  | exited => exact readOnly_pure _
  | timedOut => exact readOnly_fail ⟨rfl, by decide⟩
  | canceled => exact readOnly_fail ⟨rfl, by decide⟩

theorem readOnly_listPages (pages : Nat) (tasks : List CloudTaskSummary)
    (seenCursors : List CloudCursor) :
    ReadOnly PlainError (CloudTaskRunner.listPages pages tasks seenCursors) := by
  induction pages generalizing tasks seenCursors with
  | zero => exact readOnly_pure _
  | succ pages ih =>
      refine readOnly_bind readOnly_ask fun answers => ?_
      split
      · exact readOnly_pure _
      · refine readOnly_bind readOnly_ensureDiagnosticSentinel fun _ =>
          readOnly_bind (readOnly_runRead _) fun output => ?_
        cases output with
        | none => exact readOnly_fail ⟨rfl, by decide⟩
        | some page =>
            simp only
            split
            · exact readOnly_fail ⟨rfl, by decide⟩
            · cases page.cursor with
              | none => exact readOnly_pure _
              | some cursor =>
                  simp only
                  split
                  · exact readOnly_fail ⟨rfl, by decide⟩
                  · split
                    · exact readOnly_pure _
                    · exact ih _ _

theorem readOnly_status (task : CloudTaskId) : ReadOnly PlainError (CloudTaskRunner.status task) := by
  refine readOnly_bind readOnly_acquireScope fun _ => readOnly_bind readOnly_verifyVersion fun _ =>
    readOnly_bind readOnly_ensureDiagnosticSentinel fun _ =>
      readOnly_bind (readOnly_runRead _) fun output => ?_
  cases output with
  | none => exact readOnly_fail ⟨rfl, by decide⟩
  | some status => exact readOnly_pure status

theorem readOnly_authorizeLogin : ReadOnly PlainError CloudTaskRunner.authorizeLogin := by
  have check : ReadOnly PlainError CloudTaskRunner.authorizeLogin.checkStatus := by
    refine readOnly_bind readOnly_loginStatus fun status => ?_
    cases status with
    | loggedIn => exact readOnly_pure ()
    | loggedOut => exact readOnly_fail ⟨rfl, by decide⟩
  have load : ReadOnly (fun _ => True) loadLedger := by
    refine readOnly_bind (readOnly_readFile trivial trivial) fun content => ?_
    cases content with
    | none => exact readOnly_pure none
    | some ledger =>
        simp only
        cases ledger.validate with
        | ok => exact readOnly_bind (readOnly_pure ()) fun _ => readOnly_pure _
        | error error => exact readOnly_bind (readOnly_fail trivial) fun _ => readOnly_pure _
  refine readOnly_bind (readOnly_mapError load fun error _ => plain_loginLedger error) fun ledger => ?_
  cases ledger with
  | none => exact check
  | some ledger =>
      simp only
      split
      · exact readOnly_fail ⟨rfl, by decide⟩
      · exact check

/-- Starting a child: an observer sees it exactly when it exists. -/
theorem wp_startCommand {observe : Host → Host} {onOk : ProcessIdentity → Host → Prop}
    {onError : SpawnFailure → Host → Prop} {onCrash : Host → Prop} {h : Host}
    (died : onCrash h.advance) (started : ∀ process, onOk process (observe h.advance))
    (uncertain : ∀ failure, failure.mayHaveStarted = true → onError failure (observe h.advance))
    (failed : ∀ failure, failure.mayHaveStarted = false → onError failure h.advance) :
    (startCommand observe).wp onOk onError onCrash h := by
  rw [startCommand, wp_bind]
  refine wp_ask died fun _ => ?_
  cases h.answers.spawn with
  | ok process => exact started process
  | error failure =>
      cases exists_ : failure.mayHaveStarted with
      | true => simpa [exists_] using uncertain failure exists_
      | false => simpa [exists_] using failed failure exists_

/-! ## The ledger file -/

section

variable {onError : CloudRunnerError → Host → Prop} {onCrash : Host → Prop} {h h' : Host} {ledger : CloudSubmitLedger}
  {onOk : α → Host → Prop}

/-- The content of the submit file passes its own check; the loader never sees another. -/
def SubmitFileValid (h : Host) : Prop := ∀ ledger, h.submitFile = some ledger → ledger.Valid

theorem wp_loadCloudLedger {onOk : Option CloudSubmitLedger → Host → Prop}
    (valid : SubmitFileValid h) (died : onCrash h.advance)
    (loaded : onOk h.submitFile h.advance)
    (failed : ∀ error, PlainError error → onError error h.advance) :
    loadCloudLedger.wp onOk onError onCrash h := by
  rw [loadCloudLedger, wp_bind]
  refine wp_readFile died ?_ (failed _ plain_ledgerUnavailable) (failed _ plain_ledgerInvalid)
  cases content : h.submitFile with
  | none => simpa [advance_eq, content] using loaded
  | some ledger =>
      have accepted := CloudSubmitLedger.validate_eq_ok.mpr (valid ledger content)
      simpa [advance_eq, content, accepted] using loaded

theorem loadCloudLedger_run (alive : h.answers.crash = false) (readable : h.answers.read = .readable)
    (valid : SubmitFileValid h) : loadCloudLedger h = (.ok h.submitFile, h.advance) := by
  have same : h.advance.submitFile = h.submitFile := rfl
  simp only [loadCloudLedger, Bind.bind, Proc.bind, readFile_run alive readable, same]
  cases content : h.submitFile with
  | none => rfl
  | some ledger =>
      simp only [CloudSubmitLedger.validate_eq_ok.mpr (valid ledger content)]
      rfl

theorem wp_persistCloudLedger {onOk : Unit → Host → Prop} (valid : ledger.Valid)
    (died : onCrash h.advance)
    (stored : h.answers.writeSubmit ledger = .stored → onOk () (storeSubmit ledger h.advance))
    (unsynced : ∀ error, PlainError error → h.answers.writeSubmit ledger = .storedUnsynced →
      onError error (storeSubmit ledger h.advance))
    (lost : ∀ error, PlainError error → h.answers.writeSubmit ledger = .refused ∨
      h.answers.writeSubmit ledger = .rejected → onError error h.advance) :
    (persistCloudLedger ledger).wp onOk onError onCrash h := by
  rw [persistCloudLedger, CloudSubmitLedger.validate_eq_ok.mpr valid, wp_bind,
    wp_ofExcept_ok]
  exact wp_replaceFile died stored (unsynced _ plain_ledgerUnavailable)
    (fun outcome => lost _ plain_ledgerUnavailable (.inl outcome))
    (fun outcome => lost _ plain_ledgerInvalid (.inr outcome))

/-- What recovery can do to a host: nothing, or classify an open submit. -/
inductive Classified (h : Host) : Host → Prop where
  | same (time : Nat) (later : h.tick ≤ time) : Classified h (h.atTime time)
  | closed (ledger : CloudSubmitLedger) (time : Nat) (later : h.tick ≤ time)
      (current : h.submitFile = some ledger) (unfinished : ledger.latest.isOpen = true) :
      Classified h (storeSubmit ledger.classify (h.atTime time))

/-- A ledger as recovery hands it on. -/
structure Recovered (runner : CloudTaskRunner) (ledger : CloudSubmitLedger) : Prop where
  valid : ledger.Valid
  settled : ledger.latest.isOpen = false
  configured : ledger.matchesConfig runner.environment runner.branch = true

theorem closeInterrupted_settled (settled : ledger.latest.isOpen = false) :
    CloudTaskRunner.closeInterrupted ledger = pure ledger := by
  unfold CloudTaskRunner.closeInterrupted
  cases phase : ledger.latest <;> simp_all

theorem closeInterrupted_open (valid : ledger.Valid) (unfinished : ledger.latest.isOpen = true) :
    CloudTaskRunner.closeInterrupted ledger = (do
      persistCloudLedger ledger.classify
      return ledger.classify) := by
  have appended := valid.append_classified unfinished
  unfold CloudTaskRunner.closeInterrupted
  cases phase : ledger.latest with
  | intent | authorized | started =>
      rw [phase] at appended
      simp only [CloudLedgerPhase.classified] at appended
      simp only [appended]
      rfl
  | _ => simp [phase] at unfinished

theorem recoverCurrentLedger_spec (runner : CloudTaskRunner) (valid : SubmitFileValid h) :
    runner.recoverCurrentLedger.wp
      (fun found h' => Classified h h' ∧ found = h'.submitFile ∧
        ∀ ledger, found = some ledger → Recovered runner ledger)
      (fun error h' => PlainError error ∧ Classified h h') (Classified h) h := by
  have later := Nat.le_succ h.tick
  rw [CloudTaskRunner.recoverCurrentLedger, wp_bind]
  refine wp_loadCloudLedger valid (.same _ later) ?_ fun error harmless => ⟨harmless, .same _ later⟩
  cases content : h.submitFile with
  | none => exact ⟨.same _ later, content.symm, nofun⟩
  | some ledger =>
      have sound := valid ledger content
      simp only [CloudTaskRunner.requireMatchingConfig, wp_bind, wp_ite, wp_pure,
        wp_fail]
      split
      · rename_i configured
        cases phase : ledger.latest.isOpen with
        | true =>
            have next : h.tick ≤ h.tick + 2 := by omega
            have closed : Classified h (storeSubmit ledger.classify h.advance.advance) :=
              .closed ledger _ next content phase
            rw [closeInterrupted_open sound phase, wp_bind]
            refine wp_persistCloudLedger (sound.classify phase) (.same _ next)
              (fun _ => ⟨closed, rfl, ?_⟩) (fun error harmless _ => ⟨harmless, closed⟩)
              (fun error harmless _ => ⟨harmless, .same _ next⟩)
            rintro _ ⟨⟩
            refine ⟨sound.classify phase, ?_, configured⟩
            rw [CloudSubmitLedger.latest_classify]
            cases latest : ledger.latest <;> simp_all [CloudLedgerPhase.classified]
        | false =>
            rw [closeInterrupted_settled phase]
            refine ⟨.same _ later, content.symm, ?_⟩
            rintro _ ⟨⟩
            exact ⟨sound, phase, configured⟩
      · exact ⟨plain_ledgerInvalid, .same _ later⟩

theorem Classified.later {time : Nat} (later : h.tick ≤ time) (classified : Classified (h.atTime time) h') :
    Classified h h' := by
  cases classified with
  | same time' later' => exact .same time' (Nat.le_trans later later')
  | closed ledger time' later' current unfinished =>
      exact .closed ledger time' (Nat.le_trans later later') current unfinished

/-- Every public call begins this way: take the scope and classify the file. -/
theorem recovered_spec (runner : CloudTaskRunner) {rest : Option CloudSubmitLedger → RunnerProc α}
    (valid : SubmitFileValid h) (failed : ∀ error h', PlainError error → Classified h h' → onError error h')
    (died : ∀ h', Classified h h' → onCrash h') (continues : ∀ h', Classified h h' →
      (∀ ledger, h'.submitFile = some ledger → Recovered runner ledger) →
      (rest h'.submitFile).wp onOk onError onCrash h') :
    (do
      acquireScope
      let found ← runner.recoverCurrentLedger
      rest found : RunnerProc α).wp onOk onError onCrash h := by
  rw [wp_bind]
  refine readOnly_acquireScope.wp (fun _ time later => ?_)
    (fun error time plain later => failed error _ plain (.same time later))
    (fun time later => died _ (.same time later))
  rw [wp_bind]
  refine wp_mono (recoverCurrentLedger_spec runner (h := h.atTime time) valid) ?_ ?_ ?_
  · rintro found h' ⟨classified, rfl, recovered⟩
    exact continues h' (classified.later later) recovered
  · rintro error h' ⟨plain, classified⟩
    exact failed error h' plain (classified.later later)
  · intro h' classified
    exact died h' (classified.later later)

/-- Time passes after the classification. -/
theorem Classified.time (classified : Classified h h') {time : Nat} (later : h'.tick ≤ time) :
    Classified h (h'.atTime time) := by
  cases classified with
  | same time' later' => exact .same time (Nat.le_trans later' later)
  | closed ledger time' later' current unfinished =>
      exact .closed ledger time (Nat.le_trans later' later) current unfinished

/-- A reconciliation classifies the file, and records its listing if the outcome is unknown. -/
theorem wp_reconcileUnknown (runner : CloudTaskRunner) {onOk : CloudReconciliation → Host → Prop}
    (valid : SubmitFileValid h) (failed : ∀ error h', Classified h h' → onError error h')
    (died : ∀ h', Classified h h' → onCrash h')
    (writes : ∀ h' ledger next tasks complete, Classified h h' → h'.submitFile = some ledger →
      Recovered runner ledger → ledger.latest.isUnknown = true →
      ledger.recordReconciliation (tasks.map CloudTaskSummary.id) complete = .ok next → next.Valid →
      onOk ⟨next.operationId, tasks, complete⟩ (storeSubmit next h'.advance) ∧
        ∀ error, onError error (storeSubmit next h'.advance)) :
    runner.reconcileUnknown.wp onOk onError onCrash h := by
  apply recovered_spec runner valid (fun error h' _ => failed error h') died
  intro h' classified recovered
  cases current : h'.submitFile with
  | none => exact failed _ h' classified
  | some ledger =>
      have sound := recovered ledger current
      cases unknown : ledger.latest.isUnknown with
      | false => simpa [unknown] using failed _ h' classified
      | true =>
          simp only [unknown, Bool.true_eq_false, if_false, CloudTaskRunner.requireMatchingConfig,
            sound.configured, if_true, wp_bind, wp_pure]
          apply readOnly_verifyVersion.wp _ (fun error time _ later => failed error _ (classified.time later))
            (fun time later => died _ (classified.time later))
          intro _ time later
          have timed := classified.time later
          apply (readOnly_listPages _ _ _).wp _ (fun error _ _ later' => failed error _ (timed.time later'))
            (fun _ later' => died _ (timed.time later'))
          intro listing time' later'
          have listed := timed.time later'
          have after := listed.time (Nat.le_succ time')
          cases recorded : ledger.recordReconciliation (listing.1.map CloudTaskSummary.id) listing.2 with
          | error error => exact failed error _ listed
          | ok next =>
              have accepted := sound.valid.recordReconciliation recorded
              obtain ⟨stored, unsynced⟩ := writes _ ledger next listing.1 listing.2 listed current sound unknown
                recorded accepted
              apply wp_persistCloudLedger accepted (died _ after)
              · intro _
                exact stored
              · intro error _ _
                exact unsynced error
              · intro error _ _
                exact failed error _ after

/-- The record a resolution asks for. -/
def CloudSubmitLedger.recordResolution (ledger : CloudSubmitLedger) :
    CloudUnknownResolution → Except CloudRunnerError CloudSubmitLedger
  | .adoptListedTask task => ledger.recordAdoptedTask task
  | .explicitlyAbandon => ledger.recordExplicitlyAbandoned

theorem applyResolution_eq (op : CloudSubmitOperationId) (ledger : CloudSubmitLedger)
    (resolution : CloudUnknownResolution) :
    CloudTaskRunner.applyResolution op ledger resolution = (do
      let next ← Proc.ofExcept (ledger.recordResolution resolution)
      persistCloudLedger next
      Proc.ofExcept (CloudTaskRunner.classifyObservation op (some next))) := by
  cases resolution <;> rfl

theorem CloudSubmitLedger.Valid.recordResolution (valid : ledger.Valid)
    (recorded : ledger.recordResolution resolution = .ok next) : next.Valid := by
  cases resolution with
  | adoptListedTask task => exact valid.recordAdoptedTask recorded
  | explicitlyAbandon => exact valid.recordExplicitlyAbandoned recorded

/-- The record ends with this resolution. -/
def CloudSubmitLedger.Took (submit : CloudSubmitLedger) : CloudUnknownResolution → Prop
  | .adoptListedTask task => submit.latest = .taskAdopted ∧ submit.taskId = some task
  | .explicitlyAbandon => submit.latest = .explicitlyAbandoned

/-- What is observed of an operation that ended so. -/
def CloudUnknownResolution.observation (op : CloudSubmitOperationId) : CloudUnknownResolution → CloudSubmitObservation
  | .adoptListedTask task => .taskRecorded ⟨op, task⟩
  | .explicitlyAbandon => .explicitlyAbandoned

variable {op : CloudSubmitOperationId} {resolution : CloudUnknownResolution} {submit next closed : CloudSubmitLedger}

theorem recordResolution_observed (recorded : submit.recordResolution resolution = .ok next) :
    submit.latest = .reconciliationObserved := by
  cases resolution with
  | adoptListedTask task => exact (CloudSubmitLedger.recordAdoptedTask_eq_ok.mp recorded).1
  | explicitlyAbandon => exact (CloudSubmitLedger.recordExplicitlyAbandoned_eq_ok.mp recorded).1

theorem took_recordResolution (recorded : submit.recordResolution resolution = .ok next) :
    next.operationId = submit.operationId ∧ next.Took resolution := by
  cases resolution with
  | adoptListedTask task =>
      obtain ⟨-, -, -, -, rfl⟩ := CloudSubmitLedger.recordAdoptedTask_eq_ok.mp recorded
      exact ⟨rfl, by simp [CloudSubmitLedger.latest], rfl⟩
  | explicitlyAbandon =>
      obtain ⟨-, -, -, rfl⟩ := CloudSubmitLedger.recordExplicitlyAbandoned_eq_ok.mp recorded
      exact ⟨rfl, CloudSubmitLedger.latest_concat _⟩

theorem classifyObservation_took (own : submit.operationId = op) (took : submit.Took resolution) :
    CloudTaskRunner.classifyObservation op (some submit) = .ok (resolution.observation op) := by
  cases resolution with
  | adoptListedTask task =>
      obtain ⟨phase, named⟩ := took
      simp [CloudTaskRunner.classifyObservation, own, phase, CloudTaskRunner.recordedTaskOrInvalid,
        CloudSubmitLedger.recordedTask, named, Except.map, CloudUnknownResolution.observation]
  | explicitlyAbandon =>
      have phase : submit.latest = .explicitlyAbandoned := took
      simp [CloudTaskRunner.classifyObservation, own, phase, CloudUnknownResolution.observation]

theorem taskId_of_recorded {task : CloudTaskId}
    (named : CloudTaskRunner.recordedTaskOrInvalid submit = .ok task) : submit.taskId = some task := by
  unfold CloudTaskRunner.recordedTaskOrInvalid at named
  split at named
  · rename_i found
    cases named
    exact found
  · cases named

/-- A resolution classifies the file, and is a replay or records its decision. -/
theorem wp_resolveUnknown (runner : CloudTaskRunner) (op : CloudSubmitOperationId)
    (resolution : CloudUnknownResolution) {onOk : CloudSubmitObservation → Host → Prop}
    (valid : SubmitFileValid h) (failed : ∀ error h', Classified h h' → onError error h')
    (died : ∀ h', Classified h h' → onCrash h')
    (replays : ∀ h' submit, Classified h h' → h'.submitFile = some submit → submit.operationId = op →
      submit.Took resolution → onOk (resolution.observation op) h')
    (writes : ∀ h' submit next, Classified h h' → h'.submitFile = some submit → submit.Valid →
      submit.operationId = op → submit.recordResolution resolution = .ok next →
      onOk (resolution.observation op) (storeSubmit next h'.advance) ∧
        ∀ error, onError error (storeSubmit next h'.advance)) :
    (runner.resolveUnknown op resolution).wp onOk onError onCrash h := by
  apply recovered_spec runner valid (fun error h' _ => failed error h') died
  intro h' classified recovered
  have unchanged := fun error => failed error h' classified
  cases current : h'.submitFile with
  | none => exact unchanged _
  | some submit =>
      simp only [wp_ite]
      split
      · exact unchanged _
      rename_i own
      rw [ne_eq, not_not] at own
      cases phase : submit.latest with
      | taskAdopted =>
          rw [wp_bind]
          cases named : CloudTaskRunner.recordedTaskOrInvalid submit with
          | error _ => exact unchanged _
          | ok task =>
              simp only [wp_ofExcept_ok, wp_ite]
              split
              · rename_i asked
                subst asked
                exact replays h' submit classified current own ⟨phase, taskId_of_recorded named⟩
              · exact unchanged _
      | explicitlyAbandoned =>
          cases resolution with
          | adoptListedTask task => exact unchanged _
          | explicitlyAbandon => exact replays h' submit classified current own phase
      | reconciliationObserved =>
          simp only [applyResolution_eq, wp_bind]
          cases recorded : submit.recordResolution resolution with
          | error _ => exact unchanged _
          | ok next =>
              have sound := (recovered submit current).valid
              have after := classified.time (Nat.le_succ h'.tick)
              obtain ⟨same, took⟩ := took_recordResolution recorded
              obtain ⟨stored, unsynced⟩ := writes h' submit next classified current sound own recorded
              rw [wp_ofExcept_ok]
              apply wp_persistCloudLedger (sound.recordResolution recorded) (died _ after)
              · intro _
                rw [classifyObservation_took (same.trans own) took]
                exact stored
              · intro error _ _
                exact unsynced error
              · intro error _ _
                exact failed error _ after
      | _ => exact unchanged _

/-- Closing a submit that spawned nothing, before its error is returned. -/
theorem wp_failBeforeSpawn {error : CloudRunnerError} (valid : ledger.Valid)
    (appended : ledger.append .failedBeforeSpawn = .ok closed) (died : onCrash h.advance)
    (stored : h.answers.writeSubmit closed = .stored → onError error (storeSubmit closed h.advance))
    (unsynced : ∀ error, PlainError error → h.answers.writeSubmit closed = .storedUnsynced →
      onError error (storeSubmit closed h.advance))
    (lost : ∀ error, PlainError error → h.answers.writeSubmit closed = .refused ∨
      h.answers.writeSubmit closed = .rejected → onError error h.advance) :
    (CloudTaskRunner.failBeforeSpawn ledger error).wp onOk onError onCrash h := by
  rw [CloudTaskRunner.failBeforeSpawn, appended]
  simp only [wp_bind, wp_ofExcept_ok, wp_fail]
  exact wp_persistCloudLedger (valid.append (by simp) appended) died stored unsynced lost

/-- Closing a submit whose child may have run. -/
theorem wp_persistUnknown {onOk : Unit → Host → Prop} (valid : ledger.Valid)
    (spawned : ledger.latest = .authorized ∨ ledger.latest = .started)
    (appended : ledger.append .outcomeUnknown = .ok closed) (died : onCrash h.advance)
    (stored : onOk () (storeSubmit closed h.advance))
    (unsynced : onError (.forOperation .recoveryRequired ledger.operationId)
      (storeSubmit closed h.advance)) (lost : onError (.forOperation .recoveryRequired ledger.operationId) h.advance) :
    (CloudTaskRunner.persistUnknown ledger).wp onOk onError onCrash h := by
  have known : ledger.latest.isUnknown = false := by rcases spawned with h | h <;> simp [h]
  have same : closed.operationId = ledger.operationId := by
    obtain ⟨-, -, rfl⟩ := CloudSubmitLedger.append_eq_ok.mp appended
    rfl
  rw [CloudTaskRunner.persistUnknown, appended]
  simp only [known, Bool.false_eq_true, if_false, wp_bind, wp_ofExcept_ok,
    wp_mapError, same]
  exact wp_persistCloudLedger (valid.append (by simp) appended) died (fun _ => stored)
    (fun _ _ _ => unsynced) (fun _ _ _ => lost)

/-- Every way of closing an uncertain submit ends in an error that names the operation. -/
theorem wp_failUnknown (valid : ledger.Valid) (spawned : ledger.latest = .authorized ∨ ledger.latest = .started)
    (appended : ledger.append .outcomeUnknown = .ok closed) (died : onCrash h.advance)
    (stored : ∀ category, category = .outcomeUnknown ∨ category = .recoveryRequired →
      onError (.forOperation category ledger.operationId) (storeSubmit closed h.advance))
    (lost : onError (.forOperation .recoveryRequired ledger.operationId) h.advance) :
    (CloudTaskRunner.failUnknown ledger).wp onOk onError onCrash h := by
  rw [CloudTaskRunner.failUnknown, wp_bind]
  exact wp_persistUnknown valid spawned appended died (stored _ (.inl rfl)) (stored _ (.inr rfl)) lost

end

/-! ## What the runner leaves alone -/

/-- A property that neither time nor a write of the submit file nor a spawn can change. -/
structure BeyondSubmit (inv : Host → Prop) : Prop where
  time : ∀ time h, inv h → inv (h.atTime time)
  store : ∀ ledger h, inv h → inv (storeSubmit ledger h)
  exec : ∀ op h, inv h → inv (recordExec op h)

section

variable {inv : Host → Prop} (beyond : BeyondSubmit inv)

include beyond

theorem keeps_persistCloudLedger (ledger : CloudSubmitLedger) :
    Proc.Keeps inv (persistCloudLedger ledger) :=
  keeps_bind (keeps_ofExcept _) fun _ =>
    keeps_replaceFile (fun h => beyond.time _ h) _ (beyond.store ledger) _ _

theorem keeps_recoverCurrentLedger (runner : CloudTaskRunner) :
    Proc.Keeps inv runner.recoverCurrentLedger := by
  refine keeps_bind ?_ fun found => ?_
  · refine keeps_bind (keeps_readFile (fun h => beyond.time _ h) _ _ _) fun content => ?_
    cases content with
    | none => exact keeps_pure _
    | some ledger => exact keeps_bind (keeps_ofExcept _) fun _ => keeps_pure _
  · cases found with
    | none => exact keeps_pure _
    | some ledger =>
        refine keeps_bind ?_ fun _ => keeps_bind ?_ fun _ => keeps_pure _
        · unfold CloudTaskRunner.requireMatchingConfig
          split
          · exact keeps_pure _
          · exact keeps_fail _
        · unfold CloudTaskRunner.closeInterrupted
          split
          · exact keeps_bind (keeps_ofExcept _) fun ledger =>
              keeps_bind (keeps_persistCloudLedger beyond ledger) fun _ => keeps_pure _
          · exact keeps_bind (keeps_ofExcept _) fun ledger =>
              keeps_bind (keeps_persistCloudLedger beyond ledger) fun _ => keeps_pure _
          · exact keeps_bind (keeps_ofExcept _) fun ledger =>
              keeps_bind (keeps_persistCloudLedger beyond ledger) fun _ => keeps_pure _
          all_goals exact keeps_pure _

theorem keeps_persistUnknown (ledger : CloudSubmitLedger) :
    Proc.Keeps inv (CloudTaskRunner.persistUnknown ledger) := by
  unfold CloudTaskRunner.persistUnknown
  split
  · exact keeps_bind (keeps_pure _) fun ledger =>
      keeps_mapError (keeps_persistCloudLedger beyond ledger)
  · exact keeps_bind (keeps_ofExcept _) fun ledger =>
      keeps_mapError (keeps_persistCloudLedger beyond ledger)

theorem keeps_failUnknown (ledger : CloudSubmitLedger) :
    Proc.Keeps inv (CloudTaskRunner.failUnknown ledger : RunnerProc α) :=
  keeps_bind (keeps_persistUnknown beyond ledger) fun _ => keeps_fail _

theorem keeps_failBeforeSpawn (ledger : CloudSubmitLedger) (error : CloudRunnerError) :
    Proc.Keeps inv (CloudTaskRunner.failBeforeSpawn ledger error : RunnerProc α) :=
  keeps_bind (keeps_ofExcept _) fun ledger =>
    keeps_bind (keeps_persistCloudLedger beyond ledger) fun _ => keeps_fail _

theorem keeps_superviseSubmit (ledger : CloudSubmitLedger) (process : ProcessIdentity)
    (cancellation : CloudCancellation) :
    Proc.Keeps inv (CloudTaskRunner.superviseSubmit ledger process cancellation) := by
  refine keeps_bind (keeps_ofExcept _) fun ledger =>
    keeps_bind (keeps_attempt (keeps_persistCloudLedger beyond ledger)) fun written => ?_
  cases written with
  | error => exact keeps_fail _
  | ok =>
      refine keeps_bind
        (keeps_attempt ((readOnly_wait cancellation _).keeps beyond.time)) fun waited => ?_
      cases waited with
      | error => exact keeps_failUnknown beyond ledger
      | ok completion =>
          rcases completion with ⟨_ | _ | _, _ | task⟩
          · exact keeps_failUnknown beyond ledger
          · refine keeps_bind (keeps_ofExcept _) fun recorded => keeps_bind
              (keeps_attempt (keeps_persistCloudLedger beyond recorded)) fun written => ?_
            cases written with
            | ok => exact keeps_pure _
            | error =>
                exact keeps_bind (keeps_attempt (keeps_persistUnknown beyond ledger))
                  fun _ => keeps_fail _
          all_goals exact keeps_failUnknown beyond ledger

theorem keeps_executeSubmit (ledger : CloudSubmitLedger) (cancellation : CloudCancellation) :
    Proc.Keeps inv (CloudTaskRunner.executeSubmit ledger cancellation) := by
  refine keeps_bind ((readOnly_isCancelled cancellation).keeps beyond.time) fun cancelled => ?_
  split
  · exact keeps_failUnknown beyond ledger
  · refine keeps_bind (keeps_attempt (keeps_iff.mpr fun h kept => ?_)) fun spawned => ?_
    · exact wp_startCommand (beyond.time _ h kept) (fun _ => beyond.exec _ _ (beyond.time _ h kept))
        (fun _ _ => beyond.exec _ _ (beyond.time _ h kept)) (fun _ _ => beyond.time _ h kept)
    · cases spawned with
      | ok process => exact keeps_superviseSubmit beyond ledger process cancellation
      | error failure =>
          simp only
          split
          · exact keeps_failUnknown beyond ledger
          · exact keeps_failBeforeSpawn beyond ledger _

theorem keeps_submit (runner : CloudTaskRunner) (request : CloudSubmitRequest)
    (cancellation : CloudCancellation) :
    Proc.Keeps inv (runner.submit request cancellation) := by
  refine keeps_bind (readOnly_acquireScope.keeps beyond.time) fun _ =>
    keeps_bind (keeps_recoverCurrentLedger beyond runner) fun existing => ?_
  split
  · exact keeps_ofExcept _
  · refine keeps_bind (readOnly_verifyVersion.keeps beyond.time) fun _ =>
      keeps_bind (keeps_persistCloudLedger beyond _) fun _ =>
        keeps_bind ((readOnly_isCancelled cancellation).keeps beyond.time) fun cancelled => ?_
    split
    · exact keeps_failBeforeSpawn beyond _ _
    · refine keeps_bind (keeps_attempt (readOnly_authorizeLogin.keeps beyond.time))
        fun authorized => ?_
      cases authorized with
      | error error => exact keeps_failBeforeSpawn beyond _ _
      | ok =>
          refine keeps_bind
            (keeps_attempt (readOnly_ensureDiagnosticSentinel.keeps beyond.time)) fun safe => ?_
          cases safe with
          | error error => exact keeps_failBeforeSpawn beyond _ _
          | ok =>
              exact keeps_bind (keeps_ofExcept _) fun ledger =>
                keeps_bind (keeps_persistCloudLedger beyond ledger) fun _ =>
                  keeps_executeSubmit beyond ledger cancellation

theorem keeps_observeSubmit (runner : CloudTaskRunner) (op : CloudSubmitOperationId) :
    Proc.Keeps inv (runner.observeSubmit op) :=
  keeps_bind (readOnly_acquireScope.keeps beyond.time) fun _ =>
    keeps_bind (keeps_recoverCurrentLedger beyond runner) fun _ => keeps_ofExcept _

theorem keeps_reconcileUnknown (runner : CloudTaskRunner) :
    Proc.Keeps inv runner.reconcileUnknown := by
  refine keeps_bind (readOnly_acquireScope.keeps beyond.time) fun _ =>
    keeps_bind (keeps_recoverCurrentLedger beyond runner) fun found => ?_
  cases found with
  | none => exact keeps_fail _
  | some ledger =>
      simp only
      split
      · exact keeps_fail _
      · refine keeps_bind ?_ fun _ =>
          keeps_bind (readOnly_verifyVersion.keeps beyond.time) fun _ =>
            keeps_bind ((readOnly_listPages _ _ _).keeps beyond.time) fun listing =>
              keeps_bind (keeps_ofExcept _) fun ledger =>
                keeps_bind (keeps_persistCloudLedger beyond ledger) fun _ => keeps_pure _
        unfold CloudTaskRunner.requireMatchingConfig
        split
        · exact keeps_pure _
        · exact keeps_fail _

theorem keeps_resolveUnknown (runner : CloudTaskRunner) (op : CloudSubmitOperationId)
    (resolution : CloudUnknownResolution) : Proc.Keeps inv (runner.resolveUnknown op resolution) := by
  refine keeps_bind (readOnly_acquireScope.keeps beyond.time) fun _ =>
    keeps_bind (keeps_recoverCurrentLedger beyond runner) fun found => ?_
  cases found with
  | none => exact keeps_fail _
  | some ledger =>
      simp only
      split
      · exact keeps_fail _
      · split
        · refine keeps_bind (keeps_ofExcept _) fun recorded => ?_
          split
          · exact keeps_pure _
          · exact keeps_fail _
        · exact keeps_pure _
        · exact keeps_fail _
        · exact keeps_bind (keeps_ofExcept _) fun ledger =>
            keeps_bind (keeps_persistCloudLedger beyond ledger) fun _ => keeps_ofExcept _
        all_goals exact keeps_fail _

end

end Codebox.Cloud
