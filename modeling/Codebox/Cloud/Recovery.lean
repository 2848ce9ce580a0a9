import Codebox.Cloud.CoherentRuns

/-! # Resolving an unknown submit

From now on every write is stored and every read of the provider answers. Is an operation
with an unknown outcome then always resolvable: does a reconciliation succeed, and after it
both decisions? Each reconciliation leaves an entry in the history of the submit record,
whose length is bounded, and a decision needs one more.
-/

namespace Codebox.Cloud

open Codebox.Support Proc Codebox.Host

/-! ## A host on which everything works -/

/-- Answers that neither fail nor delay anything. -/
structure GoodAnswers (answers : Answers) : Prop where
  alive : answers.crash = false
  scope : answers.scope = none
  read : answers.read = .readable
  writeSubmit : ∀ ledger, answers.writeSubmit ledger = .stored
  writeLifecycle : ∀ ledger, answers.writeLifecycle ledger = .stored
  version : answers.version = none
  sentinel : answers.sentinel = true
  spawn : ∃ process, answers.spawn = .ok process
  waits : answers.waitFailure = none
  inTime : answers.timedOut = false
  status : answers.statusOutput.isSome = true

/-- Answers with which the files and the scope can be used. -/
structure FilesWork (answers : Answers) : Prop where
  alive : answers.crash = false
  scope : answers.scope = none
  read : answers.read = .readable
  writeSubmit : ∀ ledger, answers.writeSubmit ledger = .stored
  writeLifecycle : ∀ ledger, answers.writeLifecycle ledger = .stored

theorem GoodAnswers.filesWork {answers : Answers} (good : GoodAnswers answers) : FilesWork answers :=
  ⟨good.alive, good.scope, good.read, good.writeSubmit, good.writeLifecycle⟩

/-- From now on the files work. -/
def Reliable (h : Host) : Prop := ∀ time, h.tick ≤ time → FilesWork (h.env time)

variable {h' : Host} {α : Type}

theorem Reliable.later {h : Host} (reliable : Reliable h) (env : h'.env = h.env) (later : h.tick ≤ h'.tick) :
    Reliable h' := by
  intro time after
  rw [env]
  exact reliable time (Nat.le_trans later after)

/-- From now on the files work, and a status read answers. -/
def Working (h : Host) : Prop := ∀ time, h.tick ≤ time → GoodAnswers (h.env time)

theorem Working.later {h : Host} (working : Working h) (env : h'.env = h.env) (later : h.tick ≤ h'.tick) :
    Working h' := by
  intro time after
  rw [env]
  exact working time (Nat.le_trans later after)

/-- From now on the answers are good, and every listing of tasks succeeds. -/
structure Healthy (h : Host) : Prop where
  good : ∀ time, h.tick ≤ time → GoodAnswers (h.env time)
  listing : ∀ h', h'.env = h.env → h.tick ≤ h'.tick →
    Proc.Succeeds (CloudTaskRunner.listPages maxReconciliationPages [] []) h'

theorem Healthy.later {h : Host} (healthy : Healthy h) (env : h'.env = h.env) (later : h.tick ≤ h'.tick) :
    Healthy h' where
  good time after := by
    rw [env]
    exact healthy.good time (Nat.le_trans later after)
  listing other same after := healthy.listing other (same.trans env) (Nat.le_trans later after)

section

variable {h : Host} {ledger : CloudSubmitLedger} {onCrash : Host → Prop} {ε : Type}

theorem Healthy.working (healthy : Healthy h) : Working h := healthy.good

theorem Healthy.time (healthy : Healthy h) {time : Nat} (later : h.tick ≤ time) :
    Healthy (h.atTime time) := healthy.later rfl later

theorem Working.now (working : Working h) : GoodAnswers h.answers := working h.tick (Nat.le_refl _)

theorem Working.time (working : Working h) {time : Nat} (later : h.tick ≤ time) :
    Working (h.atTime time) := working.later rfl later

theorem Working.reliable (working : Working h) : Reliable h := fun time later =>
  (working time later).filesWork

theorem Reliable.now (reliable : Reliable h) : FilesWork h.answers := reliable h.tick (Nat.le_refl _)

theorem Reliable.time (reliable : Reliable h) {time : Nat} (later : h.tick ≤ time) :
    Reliable (h.atTime time) := reliable.later rfl later

theorem Reliable.ask (reliable : Reliable h) : (Host.ask : Proc Host ε Answers) h = (.ok h.answers, h.advance) := by
  simp [Host.ask, reliable.now.alive]

theorem Working.ask (working : Working h) :
    (Host.ask : Proc Host ε Answers) h = (.ok h.answers, h.advance) := working.reliable.ask

/-- A read-only procedure that succeeds moves the clock and nothing else. -/
theorem ReadOnly.succeeds_wp {plain : ε → Prop} {p : Proc Host ε α} {onOk : α → Host → Prop}
    {onError : ε → Host → Prop} (quiet : ReadOnly plain p) (success : Proc.Succeeds p h)
    (okay : ∀ value time, h.tick ≤ time → onOk value (h.atTime time)) : p.wp onOk onError onCrash h :=
  success.wp (quiet.wp okay (fun _ _ _ _ => trivial) (fun _ _ => trivial))

theorem succeeds_acquireScope (reliable : Reliable h) : Proc.Succeeds acquireScope h :=
  ⟨(), h.advance, by
    simp [acquireScope, bind, Proc.bind, reliable.ask, reliable.now.scope, pure, Proc.pure]⟩

theorem succeeds_verifyVersion (working : Working h) : Proc.Succeeds verifyVersion h :=
  ⟨(), h.advance, by
    simp [verifyVersion, bind, Proc.bind, working.ask, working.now.version, pure, Proc.pure]⟩

theorem succeeds_ensureDiagnosticSentinel (working : Working h) :
    Proc.Succeeds ensureDiagnosticSentinel h :=
  ⟨(), h.advance, by
    simp [ensureDiagnosticSentinel, bind, Proc.bind, working.ask, working.now.sentinel, pure,
      Proc.pure]⟩

theorem Working.runRead (working : Working h) (decode : Answers → Option α) :
    runRead decode h = (.ok (decode (h.env (h.tick + 1))), h.atTime (h.tick + 2)) := by
  obtain ⟨process, spawned⟩ := working.now.spawn
  have next : Working h.advance := working.time (Nat.le_succ _)
  have waits := next.now.waits
  have inTime := next.now.inTime
  simp only [Cloud.runRead, startCommand, wait, bind, Proc.bind, Proc.mapError, working.ask, spawned,
    Proc.modify, id, pure, Proc.pure, next.ask, waits, inTime, Bool.false_and, Bool.false_eq_true, if_false]
  rfl

theorem succeeds_status (working : Working h) (task : CloudTaskId) :
    Proc.Succeeds (CloudTaskRunner.status task) h := by
  refine succeeds_bind (succeeds_acquireScope working.reliable) ?_
  refine ReadOnly.succeeds_wp readOnly_acquireScope (succeeds_acquireScope working.reliable) fun _ time later => ?_
  have working₁ := working.time later
  refine succeeds_bind (succeeds_verifyVersion working₁) ?_
  refine ReadOnly.succeeds_wp readOnly_verifyVersion (succeeds_verifyVersion working₁) fun _ time₂ later₂ => ?_
  have working₂ := working₁.time later₂
  refine succeeds_bind (succeeds_ensureDiagnosticSentinel working₂) ?_
  refine ReadOnly.succeeds_wp readOnly_ensureDiagnosticSentinel
    (succeeds_ensureDiagnosticSentinel working₂) fun _ time₃ later₃ => ?_
  have working₃ := working₂.time later₃
  obtain ⟨status, answered⟩ :=
    Option.isSome_iff_exists.mp (working₃ (time₃ + 1) (Nat.le_succ _)).status
  rw [succeeds_iff, wp_bind]
  unfold Proc.wp
  rw [working₃.runRead]
  simp only [atTime_env, atTime_tick] at answered ⊢
  rw [answered]
  trivial

theorem succeeds_loadCloudLedger (reliable : Reliable h) (valid : SubmitFileValid h) :
    Proc.Succeeds loadCloudLedger h :=
  ⟨_, _, loadCloudLedger_run reliable.now.alive reliable.now.read valid⟩

theorem succeeds_persistCloudLedger (reliable : Reliable h) (valid : ledger.Valid) :
    Proc.Succeeds (persistCloudLedger ledger) h := by
  refine ⟨(), storeSubmit ledger h.advance, ?_⟩
  simp [persistCloudLedger, CloudSubmitLedger.validate_eq_ok.mpr valid, replaceFile, bind, Proc.bind,
    Proc.ofExcept, Proc.pure, reliable.ask, reliable.now.writeSubmit, Proc.modify]

/-- What a good write leaves. -/
theorem wp_persistReliable {onOk : Unit → Host → Prop} {onError : CloudRunnerError → Host → Prop}
    (reliable : Reliable h) (valid : ledger.Valid) (stored : onOk () (storeSubmit ledger h.advance)) :
    (persistCloudLedger ledger).wp onOk onError onCrash h :=
  (succeeds_persistCloudLedger reliable valid).wp
    (wp_persistCloudLedger valid trivial (fun _ => stored) (fun _ _ _ => trivial) (fun _ _ _ => trivial))

end

/-! ## Recovery of the submit record -/

/-- The record as every call of the runner sees it, after crash classification. -/
def CloudSubmitLedger.recovered (ledger : CloudSubmitLedger) : CloudSubmitLedger :=
  if ledger.latest.isOpen then ledger.classify else ledger

section

variable {h : Host} {ledger : CloudSubmitLedger} {runner : CloudTaskRunner}

theorem recovered_settled (ledger : CloudSubmitLedger) : ledger.recovered.latest.isOpen = false := by
  unfold CloudSubmitLedger.recovered
  split
  · rw [CloudSubmitLedger.latest_classify]
    cases phase : ledger.latest <;> simp_all [CloudLedgerPhase.classified]
  · simp_all

theorem CloudSubmitLedger.Valid.recovered (valid : ledger.Valid) : ledger.recovered.Valid := by
  unfold CloudSubmitLedger.recovered
  split
  · exact valid.classify ‹_›
  · exact valid

theorem recovered_identity (ledger : CloudSubmitLedger) : ledger.recovered.identity = ledger.identity := by
  unfold CloudSubmitLedger.recovered
  split <;> rfl

/-- Classification leaves the recovered record, or has not happened yet. -/
theorem Classified.recovered (classified : Classified h h') (current : h.submitFile = some ledger)
    (settled : ∀ found, h'.submitFile = some found → found.latest.isOpen = false) :
    h'.submitFile = some ledger.recovered := by
  cases classified with
  | same time _ =>
      have unchanged : ledger.recovered = ledger := by simp [CloudSubmitLedger.recovered, settled ledger current]
      rw [unchanged]
      exact current
  | closed found time _ before unfinished =>
      cases current.symm.trans before
      simp [storeSubmit, CloudSubmitLedger.recovered, unfinished]

theorem Classified.later_tick (classified : Classified h h') : h.tick ≤ h'.tick := by
  cases classified with
  | same time later => exact later
  | closed _ time later => exact later

theorem Working.classified (working : Working h) (classified : Classified h h') : Working h' :=
  working.later classified.env classified.later_tick

theorem succeeds_recoverCurrentLedger (reliable : Reliable h) (valid : SubmitFileValid h)
    (configured : ∀ ledger, h.submitFile = some ledger →
      ledger.matchesConfig runner.environment runner.branch = true) :
    Proc.Succeeds runner.recoverCurrentLedger h := by
  apply succeeds_bind (succeeds_loadCloudLedger reliable valid)
  apply wp_loadCloudLedger valid trivial _ (fun _ _ => trivial)
  cases current : h.submitFile with
  | none => exact ⟨_, _, rfl⟩
  | some ledger =>
      have reliable' : Reliable h.advance := reliable.time (Nat.le_succ _)
      simp only [CloudTaskRunner.requireMatchingConfig, configured ledger current, if_true]
      rw [succeeds_iff, wp_bind, wp_pure, wp_bind]
      cases unfinished : ledger.latest.isOpen with
      | false =>
          rw [closeInterrupted_settled unfinished]
          trivial
      | true =>
          have sound := valid ledger current
          rw [closeInterrupted_open sound unfinished, wp_bind]
          exact wp_persistReliable reliable' (sound.classify unfinished) trivial

/-- Every public call, on a host on which everything works. -/
theorem recovered_working {rest : Option CloudSubmitLedger → RunnerProc α} (working : Working h)
    (valid : SubmitFileValid h) (current : h.submitFile = some ledger)
    (configured : ledger.matchesConfig runner.environment runner.branch = true)
    (continues : ∀ h', Classified h h' → Working h' → h'.submitFile = some ledger.recovered →
      Proc.Succeeds (rest (some ledger.recovered)) h') :
    Proc.Succeeds (do
      acquireScope
      let found ← runner.recoverCurrentLedger
      rest found : RunnerProc α) h := by
  have acquires := succeeds_acquireScope working.reliable
  refine succeeds_bind acquires (ReadOnly.succeeds_wp readOnly_acquireScope acquires fun _ time later => ?_)
  have working' := working.time later
  have known : ∀ found, h.submitFile = some found →
      found.matchesConfig runner.environment runner.branch = true := by
    intro found same
    cases current.symm.trans same
    exact configured
  refine succeeds_bind (succeeds_recoverCurrentLedger working'.reliable valid known) ?_
  refine wp_mono (recoverCurrentLedger_spec runner (h := h.atTime time) valid) ?_
    (fun _ _ _ => trivial) (fun _ _ => trivial)
  rintro found h' ⟨classified, rfl, recovered⟩
  have reached : h'.submitFile = some ledger.recovered :=
    classified.recovered current fun found stored => (recovered found stored).settled
  rw [reached]
  exact continues h' (classified.later later) (working'.classified classified) reached

end

/-! ## The runner's reconciliation and resolution -/

/-- The listing never repeats a task and stays within the page limits. -/
theorem listPages_spec (pages : Nat) (tasks : List CloudTaskSummary) (seen : List CloudCursor) (h : Host)
    (distinct : (tasks.map CloudTaskSummary.id).Nodup) :
    (CloudTaskRunner.listPages pages tasks seen).wp
      (fun listing _ => (listing.1.map CloudTaskSummary.id).Nodup ∧
        listing.1.length ≤ tasks.length + maxTasks * pages)
      (fun _ _ => True) (fun _ => True) h := by
  induction pages generalizing tasks seen h with
  | zero => exact ⟨distinct, Nat.le_add_right _ _⟩
  | succ pages ih =>
      rw [CloudTaskRunner.listPages, wp_bind]
      refine wp_ask trivial fun _ => ?_
      rw [wp_ite]
      split
      · exact ⟨distinct, Nat.le_add_right _ _⟩
      · rw [wp_bind]
        refine readOnly_ensureDiagnosticSentinel.wp (fun _ time _ => ?_) (fun _ _ _ _ => trivial)
          (fun _ _ => trivial)
        rw [wp_bind]
        refine (readOnly_runRead _).wp (fun output time' _ => ?_) (fun _ _ _ _ => trivial)
          (fun _ _ => trivial)
        cases output with
        | none => trivial
        | some page =>
            have bounded := page.bounded
            have longer : (tasks ++ page.tasks).length ≤ tasks.length + maxTasks * (pages + 1) := by
              rw [List.length_append, Nat.mul_succ]
              omega
            simp only [wp_ite]
            split
            · trivial
            · rename_i fresh
              rw [not_not] at fresh
              cases page.cursor with
              | none => exact ⟨fresh, longer⟩
              | some cursor =>
                  simp only [wp_ite]
                  split
                  · trivial
                  · split
                    · exact ⟨fresh, longer⟩
                    · refine wp_mono (ih _ _ _ fresh) ?_ (fun _ _ => id) (fun _ => id)
                      intro listing h' ⟨distinct', within⟩
                      refine ⟨distinct', Nat.le_trans within ?_⟩
                      rw [List.length_append, Nat.mul_succ]
                      omega

/-- Time has passed; what the orchestrator has on disk is the same. -/
structure Later (h h' : Host) : Prop where
  env : h'.env = h.env
  tick : h.tick ≤ h'.tick
  lifecycle : h'.lifecycleFile = h.lifecycleFile

variable {resolution : CloudUnknownResolution} {expected : CloudSubmitObservation}

section

variable {h : Host} {ledger : CloudSubmitLedger} {runner : CloudTaskRunner} {op : CloudSubmitOperationId}

theorem Later.store {h₀ : Host} (before : Later h₀ h) (ledger : CloudSubmitLedger) :
    Later h₀ (storeSubmit ledger h.advance) :=
  ⟨before.env, Nat.le_trans before.tick (Nat.le_succ _), before.lifecycle⟩

theorem Classified.toLater (classified : Classified h h') : Later h h' :=
  ⟨classified.env, classified.later_tick, classified.onward.lifecycle⟩

theorem Classified.origin (classified : Classified h h')
    (settled : ∀ found, h'.submitFile = some found → found.latest.isOpen = false)
    (after : h'.submitFile = some ledger) : ∃ before, h.submitFile = some before ∧ before.recovered = ledger := by
  cases before : h.submitFile with
  | none =>
      cases classified with
      | same time _ => exact absurd (before.symm.trans after) nofun
      | closed found _ _ current _ => exact absurd (before.symm.trans current) nofun
  | some record =>
      have reached := classified.recovered before settled
      exact ⟨record, rfl, Option.some.inj (reached.symm.trans after)⟩

/-- A reconciliation that returns has appended its entry to the recovered record. -/
theorem reconcileUnknown_recorded (valid : SubmitFileValid h) :
    runner.reconcileUnknown.wp
      (fun reconciliation h' => ∃ before after, h.submitFile = some before ∧
        before.recovered.latest.isUnknown = true ∧
        before.recovered.recordReconciliation (reconciliation.tasks.map CloudTaskSummary.id)
          reconciliation.complete = .ok after ∧
        h'.submitFile = some after ∧ reconciliation.operationId = after.operationId ∧ Later h h')
      (fun _ _ => True) (fun _ => True) h := by
  apply wp_reconcileUnknown runner valid (fun _ _ _ => trivial) (fun _ _ => trivial)
  intro h' ledger next tasks complete classified current recovered unknown recorded _
  obtain ⟨before, found, rfl⟩ := classified.origin
    (fun other stored => Option.some.inj (current.symm.trans stored) ▸ recovered.settled) current
  exact ⟨⟨before, next, found, unknown, recorded, rfl, rfl, classified.toLater.store next⟩, fun _ => trivial⟩

theorem succeeds_reconcileUnknown (healthy : Healthy h) (valid : SubmitFileValid h)
    (current : h.submitFile = some ledger)
    (configured : ledger.matchesConfig runner.environment runner.branch = true)
    (unknown : ledger.recovered.latest.isUnknown = true)
    (room : ledger.recovered.history.length < maxCloudHistoryEntries) :
    Proc.Succeeds runner.reconcileUnknown h := by
  refine recovered_working healthy.working valid current configured fun h' classified working stored => ?_
  have healthy' : Healthy h' := healthy.later classified.env classified.later_tick
  have configured' : ledger.recovered.matchesConfig runner.environment runner.branch = true := by
    unfold CloudSubmitLedger.recovered
    split <;> exact configured
  simp only [unknown, Bool.true_eq_false, if_false, CloudTaskRunner.requireMatchingConfig, configured',
    if_true]
  rw [succeeds_iff]
  simp only [wp_bind, wp_pure]
  refine ReadOnly.succeeds_wp readOnly_verifyVersion (succeeds_verifyVersion working) fun _ time later => ?_
  have healthy₂ := healthy'.time later
  refine (healthy₂.listing _ rfl (Nat.le_refl _)).wp ?_
  refine wp_mono (wp_and (listPages_spec _ [] [] (h'.atTime time) List.nodup_nil)
    (readOnly_listPages maxReconciliationPages [] [] (h'.atTime time))) ?_ (fun _ _ _ => trivial)
    (fun _ _ => trivial)
  rintro listing h₃ ⟨⟨distinct, short⟩, time', later', rfl⟩
  have step : ledger.recovered.latest.validTransition .reconciliationObserved = true := by
    cases phase : ledger.recovered.latest <;> simp_all [CloudLedgerPhase.validTransition]
  have within : (listing.1.map CloudTaskSummary.id).length ≤ maxReconciliationCandidates := by
    rw [List.length_map]
    exact short
  have recorded : ledger.recovered.recordReconciliation (listing.1.map CloudTaskSummary.id) listing.2 =
      .ok _ := CloudSubmitLedger.recordReconciliation_eq_ok.mpr ⟨within, distinct, room, step, rfl⟩
  rw [recorded, wp_ofExcept_ok]
  exact wp_persistReliable (healthy₂.time later').working.reliable
    ((valid ledger current).recovered.recordReconciliation recorded) trivial

theorem recovered_observed (observed : ledger.latest = .reconciliationObserved) :
    ledger.recovered = ledger := by
  simp [CloudSubmitLedger.recovered, observed]

/-- Classification leaves no reconciliation as the last entry that was not there. -/
theorem Classified.observed {submit : CloudSubmitLedger} (classified : Classified h h')
    (current : h'.submitFile = some submit) (observed : submit.latest = .reconciliationObserved) :
    h.submitFile = some submit := by
  cases classified with
  | same time later => exact current
  | closed before time later found unfinished =>
      cases current
      rw [CloudSubmitLedger.latest_classify] at observed
      cases phase : before.latest <;> simp [phase, CloudLedgerPhase.classified] at unfinished observed

/-- A resolution of a reconciled record that returns has appended the decision. -/
theorem resolveUnknown_recorded (resolution : CloudUnknownResolution) (valid : SubmitFileValid h)
    (current : h.submitFile = some ledger) (observed : ledger.latest = .reconciliationObserved) :
    (runner.resolveUnknown op resolution).wp
      (fun observation h' => ∃ next, ledger.recordResolution resolution = .ok next ∧
        CloudTaskRunner.classifyObservation op (some next) = .ok observation ∧
        h'.submitFile = some next ∧ Later h h')
      (fun _ _ => True) (fun _ => True) h := by
  apply wp_resolveUnknown runner op resolution valid (fun _ _ _ => trivial) (fun _ _ => trivial)
  · intro h' submit classified stored _ took
    have reached := classified.recovered current fun found same => by
      cases stored.symm.trans same
      cases resolution with
      | adoptListedTask task => rw [took.1]; rfl
      | explicitlyAbandon => rw [show submit.latest = _ from took]; rfl
    rw [recovered_observed observed] at reached
    cases stored.symm.trans reached
    cases resolution <;> simp [CloudSubmitLedger.Took, observed] at took
  · intro h' submit next classified stored _ own recorded
    have start := classified.observed stored (recordResolution_observed recorded)
    cases current.symm.trans start
    obtain ⟨same, took⟩ := took_recordResolution recorded
    refine ⟨⟨next, recorded, ?_, rfl, classified.toLater.store next⟩, fun _ => trivial⟩
    exact classifyObservation_took (same.trans own) took

theorem succeeds_resolveUnknown {next : CloudSubmitLedger} (working : Working h) (valid : SubmitFileValid h)
    (current : h.submitFile = some ledger) (configured : ledger.matchesConfig runner.environment runner.branch = true)
    (observed : ledger.latest = .reconciliationObserved) (own : ledger.operationId = op)
    (recorded : ledger.recordResolution resolution = .ok next)
    (classifies : CloudTaskRunner.classifyObservation op (some next) = .ok expected) :
    Proc.Succeeds (runner.resolveUnknown op resolution) h := by
  refine recovered_working working valid current configured fun h' classified working' stored => ?_
  simp only [recovered_observed observed, own, ne_eq, not_true_eq_false, if_false, observed,
    applyResolution_eq, recorded]
  rw [succeeds_iff, wp_bind, wp_ofExcept_ok, wp_bind]
  refine wp_persistReliable working'.reliable ((valid ledger current).recordResolution recorded) ?_
  rw [classifies]
  trivial

end

/-! ## The orchestrator's reconciliation and resolution -/

section

variable {runner : CloudTaskRunner} {p : Process} {ledger next : CloudLifecycleLedger}
  {record : CloudSubmitLedger}

/-- A write of the lifecycle file that returns has stored the record. -/
theorem persist_stored :
    (persist next).wp
      (fun _ p' => ∃ time, p.host.tick ≤ time ∧
        p' = { p with host := storeLifecycle next (p.host.atTime time) })
      (fun _ _ => True) (fun _ => True) p :=
  wp_persist_hosts (fun time later => ⟨time, later, rfl⟩) (fun _ _ => trivial) (fun _ _ => trivial)
    fun _ => trivial

theorem persistAfterEffect_stored :
    (persistAfterEffect next).wp
      (fun _ p' => ∃ time, p.host.tick ≤ time ∧
        p' = { p with host := storeLifecycle next (p.host.atTime time) })
      (fun _ _ => True) (fun _ => True) p := by
  rw [persistAfterEffect, wp_mapError]
  exact persist_stored

theorem succeeds_persist (reliable : Reliable p.host) (valid : next.Valid) :
    Proc.Succeeds (persist next) p := by
  rw [succeeds_iff, persist, wp_bind, wp_onRunner]
  refine ReadOnly.succeeds_wp readOnly_acquireScope (succeeds_acquireScope reliable) fun _ time later => ?_
  have reliable' := reliable.time later
  rw [wp_onHost, persistLifecycleLedger, CloudLifecycleLedger.validate_eq_ok.mpr valid, wp_bind,
    wp_ofExcept_ok]
  have written : replaceFile (ε := CloudLifecycleError) (·.writeLifecycle next) (storeLifecycle next)
      CloudLifecycleLedger.invalidLedger CloudLifecycleLedger.unavailableLedger (p.host.atTime time) =
      (.ok (), storeLifecycle next (p.host.atTime time).advance) := by
    simp [replaceFile, bind, Proc.bind, reliable'.ask, reliable'.now.writeLifecycle, Proc.modify]
  exact succeeds_iff.mp ⟨_, _, written⟩

theorem succeeds_persistAfterEffect (reliable : Reliable p.host) (valid : next.Valid) :
    Proc.Succeeds (persistAfterEffect next) p := by
  rw [succeeds_iff, persistAfterEffect, wp_mapError]
  exact succeeds_iff.mp (succeeds_persist reliable valid)

/-- What a lifecycle reconciliation that returns has recorded in both ledgers. -/
structure Reconciled (p : Process) (ledger : CloudLifecycleLedger) (reconciliation : CloudReconciliation)
    (p' : Process) (before after : CloudSubmitLedger) (next : CloudLifecycleLedger) : Prop where
  before_file : p.host.submitFile = some before
  unknown : before.recovered.latest.isUnknown = true
  recorded : before.recovered.recordReconciliation
    (reconciliation.tasks.map CloudTaskSummary.id) reconciliation.complete = .ok after
  after_file : p'.host.submitFile = some after
  own : after.operationId = ledger.operationId
  reported : reconciliation.operationId = ledger.operationId
  shown : ledger.recordReconciliation
    (reconciliation.tasks.map CloudTaskSummary.id) reconciliation.complete = .ok next
  memory : p'.state.ledger = some next
  env : p'.host.env = p.host.env
  tick : p.host.tick ≤ p'.host.tick

theorem lifecycleReconcileUnknown_recorded (valid : SubmitFileValid p.host)
    (found : p.state.ledger = some ledger) :
    (reconcileUnknown runner).wp
      (fun reconciliation p' => ∃ before after next,
        Reconciled p ledger reconciliation p' before after next)
      (fun _ _ => True) (fun _ => True) p := by
  apply wp_lifecycleReconcileUnknown fun _ => trivial
  intro held same _
  cases found.symm.trans same
  apply wp_mono (reconcileUnknown_recorded valid) _ (fun _ _ => id) (fun _ => id)
  rintro reconciliation h' ⟨before, after, file, unknown, recorded, stored, own, later⟩
  refine ⟨fun _ => trivial, fun next reported shown => ?_⟩
  apply wp_mono (persistAfterEffect_stored (p := { p with host := h' })) _ (fun _ _ => id) (fun _ => id)
  rintro _ _ ⟨time, after_tick, rfl⟩
  exact ⟨before, after, next, file, unknown, recorded, stored, own.symm.trans reported,
    reported, shown, rfl, later.env, Nat.le_trans later.tick after_tick⟩

theorem succeeds_lifecycleReconcileUnknown (healthy : Healthy p.host) (inv : ProcessInv False runner p)
    (found : p.state.ledger = some ledger) (unknown : ledger.phase = .outcomeUnknown)
    (file : p.host.submitFile = some record) (open_ : record.recovered.latest.isUnknown = true)
    (room : record.recovered.history.length < maxCloudHistoryEntries) :
    Proc.Succeeds (reconcileUnknown runner) p := by
  have accounted := inv.accounted found
  have valid := inv.host.tidy.valid
  obtain ⟨mine, stored, own, -⟩ := accounted.coherent.unknown unknown
  cases file.symm.trans stored
  have configured := inv.host.configured file
  -- the counter of the lifecycle record is bounded by the history of the submit record
  have counted : ledger.reconciliationGeneration + 1 ≤ maxGeneration := by
    have entries := accounted.coherent.counted unknown record file
    have bound : record.history.length ≤ maxCloudHistoryEntries :=
      HistoryRules.accepts_length (valid record file).history
    simp only [maxCloudHistoryEntries, maxGeneration] at *
    omega
  rw [succeeds_iff, reconcileUnknown, wp_bind, requirePhase, wp_bind]
  have current : Proc.Succeeds currentLedger p := by
    refine ⟨ledger, p, ?_⟩
    simp only [currentLedger, bind, Proc.bind, getState, Proc.get, pure, Proc.pure, found]
  refine current.wp (wp_currentLedger (fun held same => ?_) (fun _ => trivial))
  cases found.symm.trans same
  rw [wp_ite, if_pos unknown, wp_pure, wp_bind, wp_onRunner]
  refine (succeeds_reconcileUnknown healthy valid file configured open_ room).wp
    (wp_mono (reconcileUnknown_recorded valid) ?_ (fun _ _ => id) (fun _ => id))
  rintro reconciliation h' ⟨before, after, file', -, recorded, stored', reported, later⟩
  cases file.symm.trans file'
  obtain ⟨short, distinct, -, -, rfl⟩ := CloudSubmitLedger.recordReconciliation_eq_ok.mp recorded
  have same : reconciliation.operationId = ledger.operationId := by
    rw [reported]
    exact (congrArg SubmitIdentity.operationId (recovered_identity record)).trans own
  have shown : ledger.recordReconciliation (reconciliation.tasks.map CloudTaskSummary.id)
      reconciliation.complete = .ok _ :=
    CloudLifecycleLedger.recordReconciliation_eq_ok.mpr ⟨unknown, short, distinct, counted, rfl⟩
  rw [wp_ite, if_neg (by simp [same]), wp_bind, shown, wp_ofExcept_ok, wp_bind]
  have healthy' : Healthy h' := healthy.later later.env later.tick
  exact (succeeds_persistAfterEffect (p := { p with host := h' }) healthy'.working.reliable
    (accounted.valid.recordReconciliation shown)).wp
      (wp_mono persistAfterEffect_stored
        (fun _ _ _ => trivial) (fun _ _ => id) (fun _ => id))

/-- A resolution that returns has recorded the decision in both ledgers. -/
theorem commitResolution_recorded {recorded : Except CloudLifecycleError CloudLifecycleLedger}
    (valid : SubmitFileValid p.host) (file : p.host.submitFile = some record)
    (observed : record.latest = .reconciliationObserved)
    (sound : ∀ next, recorded = .ok next → next.Valid) :
    (commitResolution runner ledger resolution expected recorded).wp
      (fun _ p' => ∃ closed next, record.recordResolution resolution = .ok closed ∧
        recorded = .ok next ∧ p'.host.submitFile = some closed ∧
        p'.state.ledger = some next ∧ p'.host.lifecycleFile = some next)
      (fun _ _ => True) (fun _ => True) p := by
  apply wp_commitResolution
  apply wp_mono (resolveUnknown_recorded resolution valid file observed) _ (fun _ _ => id) (fun _ => id)
  rintro observation h' ⟨closed, decided, -, stored, -⟩
  refine ⟨fun _ => trivial, fun next _ outcome => ⟨sound next outcome, fun _ _ => ?_⟩⟩
  apply wp_mono (persistAfterEffect_stored (p := { p with host := h' })) _ (fun _ _ => id) (fun _ => id)
  rintro _ _ ⟨time, -, rfl⟩
  exact ⟨closed, next, decided, outcome, stored, rfl, rfl⟩

theorem succeeds_commitResolution (ledger : CloudLifecycleLedger) {closed : CloudSubmitLedger}
    (working : Working p.host) (valid : SubmitFileValid p.host)
    (file : p.host.submitFile = some record)
    (configured : record.matchesConfig runner.environment runner.branch = true)
    (observed : record.latest = .reconciliationObserved)
    (own : record.operationId = ledger.operationId)
    (decided : record.recordResolution resolution = .ok closed)
    (classifies : CloudTaskRunner.classifyObservation ledger.operationId (some closed) = .ok expected)
    (sound : next.Valid) :
    Proc.Succeeds (commitResolution runner ledger resolution expected (.ok next)) p := by
  rw [succeeds_iff, commitResolution, wp_bind, wp_onRunner]
  refine (succeeds_resolveUnknown working valid file configured observed own decided classifies).wp
    (wp_mono (resolveUnknown_recorded resolution valid file observed) ?_ (fun _ _ => id) (fun _ => id))
  rintro observation h' ⟨closed', decided', classifies', -, later⟩
  cases decided.symm.trans decided'
  cases classifies.symm.trans classifies'
  have working' : Working h' := working.later later.env later.tick
  rw [wp_ite, if_neg (by simp), wp_bind, wp_mapError, wp_ofExcept_ok, wp_bind]
  refine (succeeds_persistAfterEffect (p := { p with host := h' }) working'.reliable sound).wp
    (wp_mono persistAfterEffect_stored ?_ (fun _ _ => id) (fun _ => id))
  rintro _ _ -
  obtain ⟨projected, shown, -⟩ := sound.lifecycle
  rw [wp_bind, shown]
  trivial

end

/-! ## Which unknown submits can be resolved -/

/-- Both ledgers have left the unknown state: the lifecycle record is terminal or pending, the
submit record permits a new operation. -/
structure Settled (op : CloudSubmitOperationId) (p : Process) : Prop where
  lifecycle : ∃ ledger, p.state.ledger = some ledger ∧ p.host.lifecycleFile = some ledger ∧
    ledger.operationId = op ∧ (ledger.phase.isTerminal = true ∨ ledger.phase = .pending)
  submit : ∃ record, p.host.submitFile = some record ∧ record.operationId = op ∧
    record.latest.permitsNewOperation = true

/-- A call that returns and leaves both ledgers settled. -/
def Settles (op : CloudSubmitOperationId) (call : OrchestratorProc CloudLifecycle) (p : Process) : Prop :=
  ∃ lifecycle p', call p = (.ok lifecycle, p') ∧ Settled op p'

/-- A further reconciliation succeeds, and after it both decisions do. -/
def Resolvable (runner : CloudTaskRunner) (op : CloudSubmitOperationId) (p : Process) : Prop :=
  ∃ reconciliation p', reconcileUnknown runner p = (.ok reconciliation, p') ∧
    reconciliation.operationId = op ∧
    Settles op (resolveUnknown runner op (.abandonAfterReconciliation ⟨op⟩)) p' ∧
    (reconciliation.complete = true → ∀ task ∈ reconciliation.tasks,
      Settles op (resolveUnknown runner op (.adoptListedTask task.id)) p')

/-- The submit record is still unknown and has room for a reconciliation and a decision. -/
def HasRoom (file : Option CloudSubmitLedger) : Prop :=
  ∃ record, file = some record ∧ record.recovered.latest.isUnknown = true ∧
    record.recovered.history.length + 2 ≤ maxCloudHistoryEntries

section

variable {runner : CloudTaskRunner} {p : Process} {ledger : CloudLifecycleLedger}
  {record : CloudSubmitLedger} {task : CloudTaskId}

/-- The checks of a resolution let an unknown, reconciled operation through. -/
theorem resolveUnknown_abandon_eq (found : p.state.ledger = some ledger)
    (unknown : ledger.phase = .outcomeUnknown) (reconciled : ledger.reconciliationGeneration ≠ 0) :
    resolveUnknown runner ledger.operationId (.abandonAfterReconciliation ⟨ledger.operationId⟩) p =
      commitResolution runner ledger .explicitlyAbandon .explicitlyAbandoned
        ledger.recordAbandonedUnknown p := by
  simp [resolveUnknown, currentLedger, bind, Proc.bind, getState, Proc.get, pure, Proc.pure, found,
    unknown, reconciled]

theorem resolveUnknown_adopt_eq (found : p.state.ledger = some ledger) (unknown : ledger.phase = .outcomeUnknown)
    (reconciled : ledger.reconciliationGeneration ≠ 0) (complete : ledger.reconciliationComplete = some true)
    (listed : task ∈ ledger.candidateTaskIds) :
    resolveUnknown runner ledger.operationId (.adoptListedTask task) p =
      ((onHost (CloudTaskRunner.status task)).mapError (mapProviderRead ledger.operationId) >>=
        fun status => commitResolution runner ledger (.adoptListedTask task)
          (.taskRecorded ⟨ledger.operationId, task⟩) (ledger.recordStatus task status)) p := by
  simp [resolveUnknown, currentLedger, bind, Proc.bind, getState, Proc.get, pure, Proc.pure, found,
    unknown, reconciled, complete, CloudLifecycleLedger.hasCandidate, listed]

/-- A reconciled record has no task yet. -/
theorem taskId_eq_none (valid : record.Valid) (observed : record.latest = .reconciliationObserved) :
    record.taskId = none := by
  rw [← Option.not_isSome_iff_eq_none, ← valid.task]
  rintro (member | member)
  · simp [valid.latest_of_mem (fun _ => rfl) member] at observed
  · simp [valid.latest_of_mem (fun _ => rfl) member] at observed

/-- Whatever status the provider reports, an unknown submit can record it: the record that follows is
terminal or pending. -/
theorem recordStatus_unknown (valid : ledger.Valid) (short : ledger.Short) (unknown : ledger.phase = .outcomeUnknown)
    (task : CloudTaskId) (status : CloudTaskStatus) : ledger.recordStatus task status = .ok { ledger with
      history := ledger.history ++ [phaseForStatus status]
      phase := phaseForStatus status
      taskId := some task } := by
  have unnamed : ledger.taskId = none := by
    rw [← Option.not_isSome_iff_eq_none, ← valid.task, unknown]
    simp
  have moves : ledger.phase.validTransition (phaseForStatus status) = true := by
    rw [unknown]
    cases status <;> rfl
  have appended := CloudLifecycleLedger.append_eq_ok.mpr ⟨short.room, moves, rfl⟩
  simp [CloudLifecycleLedger.recordStatus, unnamed, unknown, appended, Except.map]

theorem settles_abandon (working : Working p.host) (inv : ProcessInv False runner p)
    (found : p.state.ledger = some ledger) (unknown : ledger.phase = .outcomeUnknown)
    (reconciled : ledger.reconciliationGeneration ≠ 0) (file : p.host.submitFile = some record)
    (own : record.operationId = ledger.operationId)
    (observed : record.latest = .reconciliationObserved)
    (room : record.history.length < maxCloudHistoryEntries) :
    Settles ledger.operationId (resolveUnknown runner ledger.operationId
      (.abandonAfterReconciliation ⟨ledger.operationId⟩)) p := by
  have accounted := inv.accounted found
  have valid := inv.host.tidy.valid
  have sound := valid record file
  have configured := inv.host.configured file
  have decided : record.recordResolution .explicitlyAbandon = .ok _ :=
    CloudSubmitLedger.recordExplicitlyAbandoned_eq_ok.mpr
      ⟨observed, taskId_eq_none sound observed, room, rfl⟩
  have classifies : CloudTaskRunner.classifyObservation ledger.operationId
      (some { record with history := record.history ++ [.explicitlyAbandoned] }) =
      .ok .explicitlyAbandoned := by
    simp [CloudTaskRunner.classifyObservation, own, CloudSubmitLedger.latest]
  have shown : ledger.recordAbandonedUnknown = .ok _ :=
    CloudLifecycleLedger.append_eq_ok.mpr ⟨accounted.short.room, by rw [unknown]; rfl, rfl⟩
  have abandonedValid := accounted.valid.append (accounted.valid.taskless unknown) shown
  unfold Settles
  rw [resolveUnknown_abandon_eq found unknown reconciled, shown]
  obtain ⟨lifecycle, p', ran⟩ := succeeds_commitResolution ledger working valid file
    configured observed own decided classifies abandonedValid
  refine ⟨lifecycle, p', ran, ?_⟩
  obtain ⟨closed, next, decided', same, stored, memory, disk⟩ := wp_ok
    (commitResolution_recorded valid file observed (by rintro _ ⟨⟩; exact abandonedValid)) ran
  cases decided.symm.trans decided'
  cases same
  exact ⟨⟨_, memory, disk, rfl, .inl rfl⟩, _, stored, own, by rw [CloudSubmitLedger.latest_concat]; rfl⟩

theorem settles_adopt (working : Working p.host) (inv : ProcessInv False runner p)
    (found : p.state.ledger = some ledger) (unknown : ledger.phase = .outcomeUnknown)
    (reconciled : ledger.reconciliationGeneration ≠ 0) (complete : ledger.reconciliationComplete = some true)
    (listed : task ∈ ledger.candidateTaskIds) (file : p.host.submitFile = some record)
    (own : record.operationId = ledger.operationId) (observed : record.latest = .reconciliationObserved)
    (candidate : task ∈ record.candidateTaskIds) (room : record.history.length < maxCloudHistoryEntries) :
    Settles ledger.operationId (resolveUnknown runner ledger.operationId (.adoptListedTask task)) p := by
  have accounted := inv.accounted found
  have valid := inv.host.tidy.valid
  have decided : record.recordResolution (.adoptListedTask task) = .ok _ :=
    CloudSubmitLedger.recordAdoptedTask_eq_ok.mpr
      ⟨observed, taskId_eq_none (valid record file) observed, candidate, room, rfl⟩
  have classifies : CloudTaskRunner.classifyObservation ledger.operationId
      (some { record with history := record.history ++ [.taskAdopted], taskId := some task }) =
      .ok (.taskRecorded ⟨ledger.operationId, task⟩) := by
    simp [CloudTaskRunner.classifyObservation, own, CloudSubmitLedger.latest,
      CloudTaskRunner.recordedTaskOrInvalid, CloudSubmitLedger.recordedTask, Except.map]
  have shown := recordStatus_unknown accounted.valid accounted.short unknown task
  unfold Settles
  rw [resolveUnknown_adopt_eq found unknown reconciled complete listed]
  have answered : Proc.Succeeds ((onHost (CloudTaskRunner.status task)).mapError
      (mapProviderRead ledger.operationId)) p := by
    rw [succeeds_iff, wp_mapError, wp_onHost]
    exact succeeds_iff.mp (succeeds_status working task)
  obtain ⟨status, p', read⟩ := answered
  obtain ⟨time, later, rfl⟩ : ∃ time, p.host.tick ≤ time ∧ p' = { p with host := p.host.atTime time } := by
    have quiet : ((onHost (CloudTaskRunner.status task)).mapError (mapProviderRead ledger.operationId)).wp
        (fun _ p' => ∃ time, p.host.tick ≤ time ∧ p' = { p with host := p.host.atTime time })
        (fun _ _ => True) (fun _ => True) p := by
      rw [wp_mapError, wp_onHost]
      exact (readOnly_status task).wp (fun _ time later => ⟨time, later, rfl⟩) (fun _ _ _ _ => trivial)
        (fun _ _ => trivial)
    exact wp_ok quiet read
  simp only [bind, Proc.bind, read, shown status]
  have adoptedValid := accounted.valid.recordStatus (shown status)
  obtain ⟨lifecycle, p', ran⟩ := succeeds_commitResolution (p := { p with host := p.host.atTime time })
    ledger (working.time later) valid file (inv.host.configured file) observed own decided classifies adoptedValid
  refine ⟨lifecycle, p', ran, ?_⟩
  obtain ⟨closed, next, decided', same, stored, memory, disk⟩ := wp_ok (commitResolution_recorded
    (p := { p with host := p.host.atTime time }) valid file observed
    (by rintro _ ⟨⟩; exact adoptedValid)) ran
  cases decided.symm.trans decided'
  cases same
  refine ⟨⟨_, memory, disk, rfl, ?_⟩, _, stored, own, ?_⟩
  · cases status <;> simp
  · simp [CloudSubmitLedger.latest]

/-- With room, everything the operator can ask for succeeds. -/
theorem resolvable_of_room (healthy : Healthy p.host) (inv : ProcessInv False runner p)
    (found : p.state.ledger = some ledger) (unknown : ledger.phase = .outcomeUnknown)
    (room : HasRoom p.host.submitFile) : Resolvable runner ledger.operationId p := by
  obtain ⟨record, file, open_, within⟩ := room
  have accounted := inv.accounted found
  obtain ⟨reconciliation, p', ran⟩ := succeeds_lifecycleReconcileUnknown healthy inv found unknown file
    open_ (Nat.lt_of_succ_lt within)
  have inv' := wp_ok (lifecycleReconcileUnknown_spec inv) ran
  obtain ⟨before, after, next, facts⟩ := wp_ok
    (lifecycleReconcileUnknown_recorded inv.host.tidy.valid found) ran
  have healthy' : Healthy p'.host := healthy.later facts.env facts.tick
  cases file.symm.trans facts.before_file
  obtain ⟨-, -, -, -, same⟩ := CloudSubmitLedger.recordReconciliation_eq_ok.mp facts.recorded
  obtain ⟨-, -, -, -, shown⟩ := CloudLifecycleLedger.recordReconciliation_eq_ok.mp facts.shown
  have observed : after.latest = .reconciliationObserved := by
    rw [same]
    simp [CloudSubmitLedger.latest]
  have room' : after.history.length < maxCloudHistoryEntries := by
    rw [same, List.length_append, List.length_singleton]
    omega
  have unknown' : next.phase = .outcomeUnknown := by rw [shown]; exact unknown
  have reconciled : next.reconciliationGeneration ≠ 0 := by rw [shown]; exact Nat.succ_ne_zero _
  have operation : next.operationId = ledger.operationId := by rw [shown]
  have own : after.operationId = next.operationId := facts.own.trans operation.symm
  refine ⟨reconciliation, p', ran, facts.reported, ?_, fun complete task member => ?_⟩
  · rw [← operation]
    exact settles_abandon healthy'.working inv' facts.memory unknown' reconciled facts.after_file own observed room'
  · have listed : task.id ∈ reconciliation.tasks.map CloudTaskSummary.id := List.mem_map_of_mem member
    rw [← operation]
    exact settles_adopt healthy'.working inv' facts.memory unknown' reconciled (by rw [shown, complete])
      (by rw [shown]; exact listed) facts.after_file own observed (by rw [same]; exact listed) room'

/-- Without room, the reconciliation or the decision after it fails. -/
theorem room_of_resolvable (inv : ProcessInv False runner p) (found : p.state.ledger = some ledger)
    (resolvable : Resolvable runner ledger.operationId p) : HasRoom p.host.submitFile := by
  have accounted := inv.accounted found
  obtain ⟨reconciliation, p', ran, -, ⟨lifecycle, p'', abandoned, -⟩, -⟩ := resolvable
  have inv' := wp_ok (lifecycleReconcileUnknown_spec inv) ran
  obtain ⟨before, after, next, facts⟩ := wp_ok
    (lifecycleReconcileUnknown_recorded inv.host.tidy.valid found) ran
  obtain ⟨-, -, -, -, same⟩ := CloudSubmitLedger.recordReconciliation_eq_ok.mp facts.recorded
  obtain ⟨unknown, -, -, -, shown⟩ := CloudLifecycleLedger.recordReconciliation_eq_ok.mp facts.shown
  have observed : after.latest = .reconciliationObserved := by
    rw [same]
    simp [CloudSubmitLedger.latest]
  have operation : next.operationId = ledger.operationId := by rw [shown]
  have taskless : CloudLifecyclePhase.requiresTask .abandonedUnknown = next.taskId.isSome := by
    rw [← (inv'.accounted facts.memory).valid.task, shown, unknown]
    rfl
  rw [← operation, resolveUnknown_abandon_eq facts.memory (by rw [shown]; exact unknown)
    (by rw [shown]; exact Nat.succ_ne_zero _)] at abandoned
  obtain ⟨closed, -, decided, -⟩ := wp_ok (commitResolution_recorded inv'.host.tidy.valid
    facts.after_file observed
    (fun _ appended => (inv'.accounted facts.memory).valid.append taskless appended)) abandoned
  obtain ⟨-, -, room, -⟩ := CloudSubmitLedger.recordExplicitlyAbandoned_eq_ok.mp decided
  refine ⟨before, facts.before_file, facts.unknown, ?_⟩
  rw [same, List.length_append, List.length_singleton] at room
  omega

end

/-- In every reachable state with an unknown operation, once every write is stored and every
read of the provider answers, the operation can be resolved exactly if the submit record is
still unknown and its history has two entries left. -/
theorem unknown_resolvable_iff {runner : CloudTaskRunner} {env : Nat → Answers} {p : Process}
    {flight : Option Flight} {ledger : CloudLifecycleLedger}
    (reachable : (Machine.system runner env).Reachable (.up p flight))
    (found : p.state.ledger = some ledger) (unknown : ledger.phase = .outcomeUnknown)
    (healthy : Healthy p.host) :
    Resolvable runner ledger.operationId p ↔ HasRoom p.host.submitFile := by
  have inv : MachineInv False runner (.up p flight) := machineInv_reachable False.elim reachable
  constructor
  · exact room_of_resolvable inv.1 found
  · exact resolvable_of_room healthy inv.1 found unknown

/-! ## Room is used up

Each reconciliation adds an entry to the history of the submit record, and none is ever
removed: whatever the provider lists, an operator who keeps looking loses the decision.
-/

/-- An unknown operation whose classified submit record has `length` entries. -/
structure Unresolved (p : Process) (length : Nat) : Prop where
  memory : ∃ ledger, p.state.ledger = some ledger ∧ ledger.phase = .outcomeUnknown
  file : ∃ record, p.host.submitFile = some record ∧ record.recovered.latest.isUnknown = true ∧
    record.recovered.history.length = length

section

variable {runner : CloudTaskRunner} {env : Nat → Answers} {p : Process} {flight : Option Flight}
  {length : Nat}

theorem reconciliation_uses_room (reachable : (Machine.system runner env).Reachable (.up p flight))
    (healthy : Healthy p.host) (unresolved : Unresolved p length) (room : length < maxCloudHistoryEntries) :
    ∃ p', (Machine.system runner env).Reachable (.up p' flight) ∧ Healthy p'.host ∧
      Unresolved p' (length + 1) := by
  obtain ⟨ledger, found, unknown⟩ := unresolved.memory
  obtain ⟨record, file, open_, used⟩ := unresolved.file
  have inv : MachineInv False runner (.up p flight) := machineInv_reachable False.elim reachable
  obtain ⟨reconciliation, p', ran⟩ := succeeds_lifecycleReconcileUnknown healthy inv.1 found unknown file
    open_ (used ▸ room)
  obtain ⟨before, after, next, facts⟩ := wp_ok
    (lifecycleReconcileUnknown_recorded inv.1.host.tidy.valid found) ran
  cases file.symm.trans facts.before_file
  obtain ⟨-, -, -, -, same⟩ := CloudSubmitLedger.recordReconciliation_eq_ok.mp facts.recorded
  obtain ⟨-, -, -, -, shown⟩ := CloudLifecycleLedger.recordReconciliation_eq_ok.mp facts.shown
  have observed : after.latest = .reconciliationObserved := by
    rw [same]
    simp [CloudSubmitLedger.latest]
  have stepped : (Machine.system runner env).step (.up p flight) .reconcileUnknown = some (.up p' flight) := by
    simp [Machine.system, Machine.step, ran, Machine.after]
  refine ⟨p', .step reachable trivial stepped, healthy.later facts.env facts.tick,
    ⟨next, facts.memory, by rw [shown]; exact unknown⟩, after, facts.after_file, ?_, ?_⟩
  · rw [recovered_observed observed, observed]
    rfl
  · rw [recovered_observed observed, same, List.length_append, List.length_singleton, used]

theorem reconciliations_use_room (rounds : Nat)
    (reachable : (Machine.system runner env).Reachable (.up p flight)) (healthy : Healthy p.host)
    (unresolved : Unresolved p length) (room : length + rounds ≤ maxCloudHistoryEntries) :
    ∃ p', (Machine.system runner env).Reachable (.up p' flight) ∧ Healthy p'.host ∧
      Unresolved p' (length + rounds) := by
  induction rounds with
  | zero => exact ⟨p, reachable, healthy, unresolved⟩
  | succ rounds ih =>
      obtain ⟨p', reachable', healthy', unresolved'⟩ := ih (by omega)
      have within : length + rounds < maxCloudHistoryEntries := by omega
      exact reconciliation_uses_room reachable' healthy' unresolved' within

end

/-- The provider names no task, lists an empty page, and nothing else fails. -/
def namelessSubmit : Answers where
  listOutput := some ⟨[], none, by decide, by decide⟩
  statusOutput := some .pending

theorem healthy_namelessSubmit {h : Host} (env : h.env = fun _ => namelessSubmit) : Healthy h where
  good time _ := by
    rw [env]
    exact ⟨rfl, rfl, rfl, fun _ => rfl, fun _ => rfl, rfl, rfl, ⟨_, rfl⟩, rfl, rfl, rfl⟩
  listing h' same _ := by
    cases h'
    cases same.trans env
    exact ⟨_, _, rfl⟩

/-- After a start whose submit named no task, the submit record has four entries. -/
theorem namelessSubmit_unresolved :
    ∃ p, (Machine.system ⟨⟨[]⟩, ⟨[]⟩⟩ fun _ => namelessSubmit).Reachable (.up p none) ∧
      Healthy p.host ∧ Unresolved p 4 := by
  have ran : (Machine.system ⟨⟨[]⟩, ⟨[]⟩⟩ fun _ => namelessSubmit).run
      (.down (Host.fresh fun _ => namelessSubmit))
      [.restart, .startBegin ⟨['p']⟩, .startSubmit, .startCommit] = some (.up _ none) := rfl
  exact ⟨_, .run (.initial rfl) ran, healthy_namelessSubmit rfl, ⟨_, rfl, rfl⟩, _, rfl, by decide, by decide⟩

theorem overreconciled_submit_unresolvable :
    ∃ p ledger, (Machine.system ⟨⟨[]⟩, ⟨[]⟩⟩ fun _ => namelessSubmit).Reachable (.up p none) ∧
      p.state.ledger = some ledger ∧ ledger.phase = .outcomeUnknown ∧ Healthy p.host ∧
      ¬ Resolvable ⟨⟨[]⟩, ⟨[]⟩⟩ ledger.operationId p := by
  obtain ⟨start, begun, good, opened⟩ := namelessSubmit_unresolved
  obtain ⟨p, reachable, healthy, unresolved⟩ := reconciliations_use_room 27 begun good opened (by decide)
  obtain ⟨ledger, found, unknown⟩ := unresolved.memory
  have inv : MachineInv False ⟨⟨[]⟩, ⟨[]⟩⟩ (.up p none) := machineInv_reachable False.elim reachable
  refine ⟨p, ledger, reachable, found, unknown, healthy, fun resolvable => ?_⟩
  obtain ⟨record, file, -, within⟩ := room_of_resolvable inv.1 found resolvable
  obtain ⟨record', file', -, used⟩ := unresolved.file
  cases file.symm.trans file'
  rw [used] at within
  exact absurd within (by decide)

theorem nameless_submit_resolvable :
    ∃ p ledger, (Machine.system ⟨⟨[]⟩, ⟨[]⟩⟩ fun _ => namelessSubmit).Reachable (.up p none) ∧
      p.state.ledger = some ledger ∧ Resolvable ⟨⟨[]⟩, ⟨[]⟩⟩ ledger.operationId p := by
  obtain ⟨p, reachable, healthy, unresolved⟩ := namelessSubmit_unresolved
  obtain ⟨ledger, found, unknown⟩ := unresolved.memory
  obtain ⟨record, file, open_, used⟩ := unresolved.file
  exact ⟨p, ledger, reachable, found, (unknown_resolvable_iff reachable found unknown healthy).mpr
    ⟨record, file, open_, by rw [used]; decide⟩⟩

end Codebox.Cloud
