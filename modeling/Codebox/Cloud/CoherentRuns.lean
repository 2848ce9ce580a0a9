import Codebox.Cloud.Coherence
import Codebox.Cloud.SectionRules

/-! # Coherence over whole runs

Every section of the orchestrator keeps both copies of the lifecycle record coherent with the
submit file, provided that the two writes named by `DecisiveWrites` tell the truth. The
sections of a start hand each other what the submit left behind, so a finished operation
leaves a submit file that lets the next start through.
-/

namespace Codebox.Cloud

open Codebox.Support Proc Codebox.Host

-- what is assumed of the writes; every result below says what follows from it
variable {decisive : Prop} {runner : CloudTaskRunner} {p : Process} {h host : Host}
  {ledger next : CloudLifecycleLedger} {record : Option CloudLifecycleLedger}
  {result : Except CloudRunnerError CloudSubmission} {flight : Option Flight} {ticket : StartTicket}
  {observation : CloudSubmitObservation} {machine : Machine} {error : CloudRunnerError} {task : CloudTaskId}

/-! ## Records that agree with the submit file -/

section

variable {file : Option CloudSubmitLedger}

theorem coherent_submitting (phase : ledger.phase = .submitting)
    (agrees : Idle file ∨ Owned ledger.operationId file) : Coherent decisive ledger file :=
  ⟨fun _ => agrees, by simp [phase], by simp [phase], by simp [phase], by simp [phase]⟩

theorem coherent_unknown (phase : ledger.phase = .outcomeUnknown)
    (agrees : MaySubmit ledger.operationId file)
    (counted : ∀ record, file = some record →
      ledger.reconciliationGeneration ≤ record.history.length) : Coherent decisive ledger file :=
  ⟨by simp [phase], fun _ => agrees, fun _ => counted, by simp [phase], by simp [phase]⟩

theorem coherent_submitted (phase : ledger.phase.requiresTask = true) (named : ledger.taskId = some task)
    (agrees : Submitted ledger.operationId task file) : Coherent decisive ledger file where
  submitting starting := by simp [starting] at phase
  unknown unknown := by simp [unknown] at phase
  counted unknown := by simp [unknown] at phase
  task _ := ⟨task, named, agrees⟩
  terminal _ _ := agrees.idle

theorem coherent_closed (phase : ledger.phase.isTerminal = true)
    (taskless : ledger.phase.requiresTask = false) (agrees : decisive → Idle file) :
    Coherent decisive ledger file where
  submitting starting := by simp [starting] at phase
  unknown unknown := by simp [unknown] at phase
  counted unknown := by simp [unknown] at phase
  task named := by simp [taskless] at named
  terminal _ := agrees

end

/-- An identifier that has been handed out. -/
def Issued (h : Host) (op : CloudSubmitOperationId) : Prop := op.value ≤ h.issued

/-- A submit that this runner has made with such an identifier. -/
structure Listed (runner : CloudTaskRunner) (h : Host) (submit : SubmitIdentity) : Prop where
  issued : Issued h submit.operationId
  environment : submit.environment = runner.environment
  branch : submit.branch = runner.branch

/-- A lifecycle record that this host accounts for. -/
structure Accounted (decisive : Prop) (h : Host) (ledger : CloudLifecycleLedger) : Prop where
  valid : ledger.Valid
  short : ledger.Short
  issued : Issued h ledger.operationId
  coherent : Coherent decisive ledger h.submitFile

/-- The same for a record that may be absent: then nothing is unresolved. -/
def Accounts (decisive : Prop) (h : Host) : Option CloudLifecycleLedger → Prop
  | none => decisive → Idle h.submitFile
  | some ledger => Accounted decisive h ledger

structure HostInv (decisive : Prop) (runner : CloudTaskRunner) (h : Host) : Prop where
  truthful : decisive → DecisiveWrites h.env
  tidy : Tidy (Listed runner h) h
  file : Accounts decisive h h.lifecycleFile

structure ProcessInv (decisive : Prop) (runner : CloudTaskRunner) (p : Process) : Prop where
  host : HostInv decisive runner p.host
  memory : Accounts decisive p.host p.state.ledger

/-- The submit on file was made with this runner's configuration. -/
theorem HostInv.configured {submit : CloudSubmitLedger} (inv : HostInv decisive runner h)
    (found : h.submitFile = some submit) :
    submit.matchesConfig runner.environment runner.branch = true := by
  obtain ⟨-, listed⟩ := inv.tidy submit found
  have environment : submit.environment = runner.environment := listed.environment
  have branch : submit.branch = runner.branch := listed.branch
  simp [CloudSubmitLedger.matchesConfig, environment, branch]

theorem Accounted.onward {h h' : Host} (onward : Onward h h')
    (accounted : Accounted decisive h ledger) : Accounted decisive h' ledger :=
  ⟨accounted.valid, accounted.short, Nat.le_trans accounted.issued onward.issued,
    onward.progress.coherent decisive ledger accounted.coherent⟩

theorem Accounts.onward {h h' : Host} (onward : Onward h h')
    (accounts : Accounts decisive h record) : Accounts decisive h' record := by
  cases record with
  | none => exact fun trusted => onward.progress.idle (accounts trusted)
  | some ledger => exact Accounted.onward onward accounts

theorem HostInv.onward {h h' : Host} (onward : Onward h h') (inv : HostInv decisive runner h) : HostInv decisive runner h' where
  truthful := onward.env ▸ inv.truthful
  tidy ledger found := by
    obtain ⟨valid, issued, environment, branch⟩ := onward.tidy _ inv.tidy ledger found
    exact ⟨valid, Nat.le_trans issued onward.issued, environment, branch⟩
  file := onward.lifecycle ▸ inv.file.onward onward

theorem ProcessInv.onward (inv : ProcessInv decisive runner p) (onward : Onward p.host host) :
    ProcessInv decisive runner { p with host := host } :=
  ⟨inv.host.onward onward, inv.memory.onward onward⟩

/-- A record that is absent or terminal leaves the submit file open for another operation. -/
theorem Accounts.idle (accounts : Accounts decisive h record)
    (free : ∀ ledger, record = some ledger → ledger.phase.isTerminal = true) (trusted : decisive) :
    Idle h.submitFile := by
  cases record with
  | none => exact accounts trusted
  | some ledger => exact (Accounted.coherent accounts).terminal (free ledger rfl) trusted

/-! ## Writing the lifecycle file -/

/-- Only the lifecycle file and the clock have changed. -/
structure Beside (h h' : Host) : Prop where
  env : h'.env = h.env
  issued : h'.issued = h.issued
  submit : h'.submitFile = h.submitFile

theorem Accounts.beside {h h' : Host} (beside : Beside h h')
    (accounts : Accounts decisive h record) : Accounts decisive h' record := by
  cases record with
  | none =>
      intro trusted
      rw [beside.submit]
      exact accounts trusted
  | some ledger =>
      obtain ⟨valid, short, issued, coherent⟩ := (accounts : Accounted decisive h ledger)
      exact ⟨valid, short, by rw [Issued, beside.issued]; exact issued, beside.submit ▸ coherent⟩

theorem HostInv.beside {h h' : Host} (inv : HostInv decisive runner h) (beside : Beside h h')
    (file : Accounts decisive h h'.lifecycleFile) : HostInv decisive runner h' where
  truthful := beside.env ▸ inv.truthful
  tidy ledger found := by
    obtain ⟨valid, issued, environment, branch⟩ := inv.tidy ledger (beside.submit ▸ found)
    exact ⟨valid, by rw [Issued, beside.issued]; exact issued, environment, branch⟩
  file := file.beside beside

theorem plain_mapped (plain : PlainError error) : (mapRunnerError error).category ≠ .operationConflict := by
  obtain ⟨-, -, -, -, other⟩ := plain
  unfold mapRunnerError
  cases category : error.category <;> simp_all

section

variable {onOk : Unit → Process → Prop} {onError : CloudLifecycleError → Process → Prop} {onCrash : Process → Prop}

/-- Writing a record the host accounts for, however the write ends. -/
theorem wp_persist (inv : HostInv decisive runner p.host) (accounted : Accounted decisive p.host ledger)
    (stored : ∀ host, HostInv decisive runner host → Beside p.host host → host.lifecycleFile = some ledger →
      onOk () { p with host := host })
    (failed : ∀ error host, error.category ≠ .operationConflict → HostInv decisive runner host →
      Beside p.host host → onError error { p with host := host })
    (died : ∀ host, HostInv decisive runner host → onCrash { p with host := host }) :
    (persist ledger).wp onOk onError onCrash p := by
  have same : ∀ time, Beside p.host (p.host.atTime time) := fun _ => ⟨rfl, rfl, rfl⟩
  have kept : ∀ time, HostInv decisive runner (p.host.atTime time) := fun time => inv.beside (same time) inv.file
  have replaced : ∀ time, HostInv decisive runner (storeLifecycle ledger (p.host.atTime time)) :=
    fun time => inv.beside ⟨rfl, rfl, rfl⟩ accounted
  rw [persist, wp_bind, wp_onRunner]
  refine readOnly_acquireScope.wp (fun _ time _ => ?_)
    (fun error time plain _ => failed _ _ (plain_mapped plain) (kept time) (same time))
    (fun time _ => died _ (kept time))
  rw [wp_onHost, persistLifecycleLedger,
    CloudLifecycleLedger.validate_eq_ok.mpr accounted.valid, wp_bind, wp_ofExcept_ok]
  exact wp_replaceFile (died _ (kept _)) (fun _ => stored _ (replaced _) ⟨rfl, rfl, rfl⟩ rfl)
    (fun _ => failed _ _ (by decide) (replaced _) ⟨rfl, rfl, rfl⟩)
    (fun _ => failed _ _ (by decide) (kept _) (same _)) (fun _ => failed _ _ (by decide) (kept _) (same _))

/-- The same when the failure is reported as a need for recovery. -/
theorem wp_persistAfterEffect (inv : ProcessInv decisive runner p) (accounted : Accounted decisive p.host ledger)
    (stored : ∀ host, HostInv decisive runner host → Beside p.host host → host.lifecycleFile = some ledger →
      onOk () { p with host := host })
    (failed : ∀ host, ProcessInv decisive runner { p with host := host } →
      onError (recoveryRequired ledger.operationId) { p with host := host })
    (died : ∀ host, HostInv decisive runner host → onCrash { p with host := host }) :
    (persistAfterEffect ledger).wp onOk onError onCrash p := by
  rw [persistAfterEffect, wp_mapError]
  exact wp_persist inv.host accounted stored
    (fun _ host _ kept beside => failed host ⟨kept, inv.memory.beside beside⟩) died

end

/-! ## The sections of a start -/

/-- A start between its claim and its submit. -/
structure Claimed (ticket : StartTicket) (p : Process) : Prop where
  memory : p.state.ledger = some (.submitting ticket.operationId)
  file : p.host.lifecycleFile = some (.submitting ticket.operationId)
  idle : Idle p.host.submitFile
  unknown : ¬ Owned ticket.operationId p.host.submitFile

/-- A start between its submit and its commit: its result agrees with the submit file. -/
structure Answered (decisive : Prop) (ticket : StartTicket) (result : Except CloudRunnerError CloudSubmission)
    (p : Process) : Prop where
  memory : p.state.ledger = some (.submitting ticket.operationId)
  returned : ∀ submission, result = .ok submission →
    submission.operationId = ticket.operationId ∧
      Submitted ticket.operationId submission.taskId p.host.submitFile
  failed : ∀ error, result = .error error →
    FailureAgrees decisive ticket.operationId error p.host.submitFile

/-- The next identifier has no record yet. -/
theorem not_owned_next {h h' : Host} (tidy : Tidy (Listed runner h) h') :
    ¬ Owned ⟨h.issued + 1, Nat.succ_ne_zero _⟩ h'.submitFile := by
  rintro ⟨ledger, found, own⟩
  have issued : ledger.operationId.value ≤ h.issued := (tidy ledger found).2.issued
  rw [own] at issued
  exact absurd issued (Nat.not_succ_le_self h.issued)

/-- A record of either copy may take the other's place once it is on disk. -/
theorem ProcessInv.commit {state : OrchestratorState} (accounted : Accounted decisive p.host ledger)
    (kept : HostInv decisive runner host) (beside : Beside p.host host) (same : state.ledger = some ledger) :
    ProcessInv decisive runner ⟨host, state⟩ :=
  ⟨kept, by rw [same]; exact Accounts.beside beside (show Accounts decisive p.host (some ledger) from accounted)⟩

/-- The reason a start is refused maps to a conflict only when it is one. -/
theorem conflict_of_mapped (mapped : (mapRunnerError error).category = .operationConflict) :
    error.category = .operationConflict := by
  revert mapped
  unfold mapRunnerError
  cases error.category <;> simp

theorem startBegin_spec (inv : ProcessInv decisive runner p) :
    (startBegin runner).wp (fun ticket p' => ProcessInv decisive runner p' ∧ Claimed ticket p')
      (fun error p' => (decisive → error.category ≠ .operationConflict) ∧ ProcessInv decisive runner p')
      (fun p' => HostInv decisive runner p'.host) p := by
  apply wp_startBegin fun error other => ⟨fun _ => other, inv⟩
  intro free
  -- the identifier drawn here is not in the file, so the observation can only be absent
  have drawn : Onward p.host { p.host with issued := p.host.issued + 1 } :=
    ⟨rfl, Nat.le_succ _, rfl, fun _ => id, .refl _⟩
  apply wp_mono (observeSubmit_spec runner p.nextOperation (drawn.tidy _ inv.host.tidy).valid)
  · rintro observation h' ⟨onward, observed⟩
    have onward' := drawn.trans onward
    have unknown : ¬ Owned p.nextOperation h'.submitFile := not_owned_next (onward'.tidy _ inv.host.tidy)
    have inv' : ProcessInv decisive runner { p with host := h' } := inv.onward onward'
    constructor
    · intro present
      cases observation with
      | absent => exact absurd rfl present
      | failedBeforeSpawn => exact absurd observed.2 unknown
      | outcomeUnknown => exact absurd observed.owned unknown
      | taskRecorded submission => exact absurd observed.2.owned unknown
      | explicitlyAbandoned => exact absurd observed.2.owned unknown
    · rintro rfl
      have accounted : Accounted decisive h' (.submitting p.nextOperation) :=
        ⟨CloudLifecycleLedger.submitting_valid _, Nat.le_refl 1, onward.issued,
          coherent_submitting rfl (.inl observed.1)⟩
      apply wp_persist inv'.host accounted
      · intro host' kept beside stored
        exact ⟨.commit accounted kept beside rfl, rfl, stored, beside.submit ▸ observed.1,
          beside.submit ▸ observed.2⟩
      · exact fun error host' other kept beside => ⟨fun _ => other, kept, inv'.memory.beside beside⟩
      · exact fun host' kept => kept
  · rintro error h' ⟨onward, conflict⟩
    have onward' := drawn.trans onward
    refine ⟨fun trusted mapped => ?_, inv.onward onward'⟩
    exact conflict (conflict_of_mapped mapped) (onward'.progress.idle (inv.memory.idle free trusted))
  · intro h' onward
    exact inv.host.onward (drawn.trans onward)

/-- A submit changes nothing but the submit file, the clock and the observer's record. -/
theorem beyond_frame (h : Host) : BeyondSubmit fun h' =>
    h'.env = h.env ∧ h'.issued = h.issued ∧ h'.lifecycleFile = h.lifecycleFile :=
  ⟨fun _ _ => id, fun _ _ => id, fun _ _ => id⟩

theorem startSubmit_spec (ticket : StartTicket) (prompt : CloudPrompt)
    (inv : ProcessInv decisive runner p) (claimed : Claimed ticket p) :
    (startSubmit runner ticket prompt).wp
      (fun result p' => ProcessInv decisive runner p' ∧ Answered decisive ticket result p') (fun _ _ => False)
      (fun p' => HostInv decisive runner p'.host) p := by
  obtain ⟨memory, file, idle, unknown⟩ := claimed
  have listed : Issued p.host ticket.operationId := by
    have accounted := inv.memory
    rw [memory] at accounted
    exact Accounted.issued accounted
  rw [startSubmit, wp_bind, wp_getState, wp_attempt, wp_onHost]
  -- both copies of the record are submitting, which any outcome of the submit agrees with
  have during : ∀ h' : Host, h'.env = p.host.env ∧ h'.issued = p.host.issued ∧
      h'.lifecycleFile = p.host.lifecycleFile → Tidy (Listed runner p.host) h' →
      Idle h'.submitFile ∨ Owned ticket.operationId h'.submitFile →
      ProcessInv decisive runner { p with host := h' } := by
    rintro h' ⟨env, issued, lifecycle⟩ tidy agrees
    have accounted : Accounts decisive h' (some (.submitting ticket.operationId)) :=
      ⟨CloudLifecycleLedger.submitting_valid _, Nat.le_refl 1, by rw [Issued, issued]; exact listed,
        coherent_submitting rfl agrees⟩
    have tidy' : Tidy (Listed runner h') h' := by
      intro ledger found
      obtain ⟨valid, known, environment, branch⟩ := tidy ledger found
      exact ⟨valid, by rw [Issued, issued]; exact known, environment, branch⟩
    exact ⟨⟨env ▸ inv.host.truthful, tidy',
      by rw [lifecycle, file]; exact accounted⟩, by simp only [memory]; exact accounted⟩
  have framed := keeps_iff.mp (keeps_submit (beyond_frame p.host) runner
    ⟨ticket.operationId, prompt⟩ (p.state.cancellation.getD {})) p.host ⟨rfl, rfl, rfl⟩
  refine wp_mono (wp_and framed (submit_spec runner _ _
    inv.host.truthful ⟨listed, rfl, rfl⟩ inv.host.tidy idle unknown)) ?_ ?_ ?_
  · rintro submission h' ⟨frame, own, tidy, submitted⟩
    exact ⟨during h' frame tidy (.inr submitted.owned), memory,
      by rintro _ ⟨⟩; exact ⟨own, submitted⟩, nofun⟩
  · rintro error h' ⟨frame, ⟨tidy, owned⟩, agrees⟩
    exact ⟨during h' frame tidy owned, memory, nofun, by rintro _ ⟨⟩; exact agrees⟩
  · rintro h' ⟨frame, tidy, agrees⟩
    exact (during h' frame tidy agrees).host

theorem ProcessInv.state {state : OrchestratorState} (inv : ProcessInv decisive runner p)
    (same : state.ledger = p.state.ledger) : ProcessInv decisive runner ⟨p.host, state⟩ :=
  ⟨inv.host, by rw [same]; exact inv.memory⟩

/-- One phase forward, between phases that name no task. -/
theorem Accounted.append {phase : CloudLifecyclePhase}
    (accounted : Accounted decisive h ledger) (bare : ledger.phase.requiresTask = false)
    (plain : phase.requiresTask = false) (moved : ledger.phase ≠ phase)
    (agrees : Coherent decisive { ledger with history := ledger.history ++ [phase], phase := phase } h.submitFile)
    (recorded : ledger.append phase = .ok next) : Accounted decisive h next := by
  have taskless : ledger.taskId.isSome = false := accounted.valid.task.symm.trans bare
  have valid := accounted.valid.append (plain.trans taskless.symm) recorded
  obtain ⟨-, step, rfl⟩ := CloudLifecycleLedger.append_eq_ok.mp recorded
  exact ⟨valid, accounted.short.grow step moved, accounted.issued, agrees⟩

theorem Accounted.recordStatus {status : CloudTaskStatus} (accounted : Accounted decisive h ledger)
    (submitted : Submitted ledger.operationId task h.submitFile)
    (recorded : ledger.recordStatus task status = .ok next) : Accounted decisive h next := by
  have valid := accounted.valid.recordStatus recorded
  have short := accounted.short.recordStatus accounted.valid recorded
  rcases CloudLifecycleLedger.recordStatus_eq_ok recorded with ⟨-, -, -, rfl⟩ | ⟨-, -, -, -, rfl⟩
  · exact accounted
  · exact ⟨valid, short, accounted.issued,
      coherent_submitted (by cases status <;> rfl) rfl submitted⟩

theorem commitStart_spec {next : CloudLifecycleLedger} (inv : ProcessInv decisive runner p)
    (accounted : Accounted decisive p.host next) :
    (commitStart (.ok next)).wp (fun _ => ProcessInv decisive runner)
      (fun error p' => error.category ≠ .operationConflict ∧ ProcessInv decisive runner p')
      (fun p' => HostInv decisive runner p'.host) p := by
  obtain ⟨projected, shown, -⟩ := accounted.valid.lifecycle
  simp only [commitStart, wp_bind, wp_ofExcept_ok, wp_attempt]
  refine wp_persistAfterEffect inv accounted (fun host kept beside _ => ?_) (fun host kept => ?_)
    (fun host kept => kept)
  · simp only [shown, wp_ofExcept_ok, wp_setLedger, wp_setCancellation, wp_notifyAll, wp_pure]
    exact .commit accounted kept beside rfl
  · exact ⟨nofun, kept.state rfl⟩

/-- The phase that a start commits for the result of its submit. -/
def committedPhase : Except CloudRunnerError CloudSubmission → CloudLifecyclePhase
  | .ok _ => .pending
  | .error error =>
      if error.category = .canceledBeforeStart then .canceledLocally false
      else if error.category = .outcomeUnknown ∨ error.category = .recoveryRequired then .outcomeUnknown
      else .failedBeforeSubmit

def committedTask : Except CloudRunnerError CloudSubmission → Option CloudTaskId
  | .ok submission => some submission.taskId
  | .error _ => none

/-- The record that a start commits: one phase after the claim. -/
def committedLedger (op : CloudSubmitOperationId) (result : Except CloudRunnerError CloudSubmission) :
    CloudLifecycleLedger :=
  { CloudLifecycleLedger.submitting op with
    history := [.submitting, committedPhase result]
    phase := committedPhase result
    taskId := committedTask result }

theorem startCommit_eq (answered : Answered decisive ticket result p) :
    startCommit ticket result p = commitStart (.ok (committedLedger ticket.operationId result)) p := by
  obtain ⟨memory, returned, failed⟩ := answered
  have claimed : ¬ ((CloudLifecycleLedger.submitting ticket.operationId).operationId ≠
      ticket.operationId ∨ (CloudLifecycleLedger.submitting ticket.operationId).phase ≠
        .submitting) := by simp [CloudLifecycleLedger.submitting]
  simp only [startCommit, getState, Bind.bind, Proc.bind, Proc.get, memory, Pure.pure, Proc.pure, if_neg claimed]
  cases result with
  | ok submission =>
      simp only [(returned submission rfl).1, ne_eq, not_true_eq_false, if_false]
      rfl
  | error error =>
      rcases failed error rfl with ⟨⟨own, certain⟩, -⟩ | ⟨⟨own, uncertain⟩, -⟩
      · have mine : error.operationId.filter (· ≠ ticket.operationId) = none := by
          rcases own with own | own <;> simp [own]
        simp only [mine, committedLedger, committedPhase]
        cases category : error.category with
        | outcomeUnknown => exact absurd category certain.1
        | recoveryRequired => exact absurd category certain.2.1
        | operationConflict => exact absurd category certain.2.2
        | _ => rfl
      · have mine : error.operationId.filter (· ≠ ticket.operationId) = none := by simp [own]
        simp only [mine, committedLedger, committedPhase]
        rcases uncertain with category | category
        all_goals
          simp only [category, own, ne_eq, not_true_eq_false, if_false]
          rfl

theorem Answered.accounted (answered : Answered decisive ticket result p) (inv : ProcessInv decisive runner p) :
    Accounted decisive p.host (committedLedger ticket.operationId result) := by
  have accounted := inv.memory
  rw [answered.memory] at accounted
  have claim : Accounted decisive p.host (.submitting ticket.operationId) := accounted
  cases result with
  | ok submission =>
      have recorded : (CloudLifecycleLedger.submitting ticket.operationId).recordStatus
          submission.taskId .pending = .ok (committedLedger ticket.operationId (.ok submission)) := rfl
      exact claim.recordStatus (answered.returned submission rfl).2 recorded
  | error error =>
      -- the record is one phase after the claim, and the file decides which one
      have follow : ∀ phase : CloudLifecyclePhase, committedPhase (.error error) = phase →
          (CloudLifecycleLedger.submitting ticket.operationId).phase.validTransition phase = true →
          phase.requiresTask = false → .submitting ≠ phase → Coherent decisive
            { CloudLifecycleLedger.submitting ticket.operationId with
              history := [.submitting, phase], phase := phase } p.host.submitFile →
          Accounted decisive p.host (committedLedger ticket.operationId (.error error)) := by
        intro phase committed step taskless moved agrees
        apply claim.append rfl taskless moved agrees
        rw [committedLedger, committed]
        have room : [CloudLifecyclePhase.submitting].length < maxLifecycleHistory := by decide
        exact CloudLifecycleLedger.append_eq_ok.mpr ⟨room, step, rfl⟩
      rcases answered.failed error rfl with ⟨⟨-, certain⟩, idle⟩ | ⟨⟨-, uncertain⟩, mayRun⟩
      · by_cases canceled : error.category = .canceledBeforeStart
        · exact follow (.canceledLocally false) (if_pos canceled) rfl rfl (by simp) (coherent_closed rfl rfl idle)
        · have failed : committedPhase (.error error) = .failedBeforeSubmit := by
            simp [committedPhase, canceled, certain]
          exact follow .failedBeforeSubmit failed rfl rfl (by simp) (coherent_closed rfl rfl idle)
      · have unknown : committedPhase (.error error) = .outcomeUnknown := by
          rcases uncertain with category | category <;> simp [committedPhase, category]
        exact follow .outcomeUnknown unknown rfl rfl (by simp)
          (coherent_unknown rfl mayRun fun _ _ => Nat.zero_le _)

section

variable (inv : ProcessInv decisive runner p)

include inv

theorem startCommit_spec (answered : Answered decisive ticket result p) :
    (startCommit ticket result).wp (fun _ => ProcessInv decisive runner)
      (fun error p' => error.category ≠ .operationConflict ∧ ProcessInv decisive runner p')
      (fun p' => HostInv decisive runner p'.host) p := by
  rw [wp_congr (startCommit_eq answered)]
  exact commitStart_spec inv (answered.accounted inv)

/-! ## The sections of the other calls -/

theorem ProcessInv.accounted (found : p.state.ledger = some ledger) : Accounted decisive p.host ledger := by
  have memory := inv.memory
  rwa [found] at memory

theorem ProcessInv.time (time : Nat) :
    ProcessInv decisive runner { p with host := p.host.atTime time } := inv.onward (.time p.host time)

/-- Every section that writes the record it computed and then shows it ends this way. -/
theorem wp_commit {next : CloudLifecycleLedger} (accounted : Accounted decisive p.host next) :
    Commits next (ProcessInv decisive runner) (fun _ => ProcessInv decisive runner)
      (fun p' => HostInv decisive runner p'.host) p :=
  wp_persistAfterEffect inv accounted (fun _ kept beside _ => .commit accounted kept beside rfl)
    (fun _ kept => kept) (fun _ kept => kept)

theorem inspect_spec :
    inspect.wp (fun _ => ProcessInv decisive runner) (fun _ => ProcessInv decisive runner)
      (fun p' => HostInv decisive runner p'.host) p := by
  apply wp_inspect (fun _ found => (inv.accounted found).valid) (fun _ _ _ _ _ _ => inv)
    (fun _ time _ => inv.time time) (fun time => (inv.time time).host)
  intro ledger next task status shown time found pending named recorded _
  obtain ⟨held, known, submitted⟩ := (inv.accounted found).coherent.task (by simp [pending])
  obtain rfl : task = held := Option.some.inj (named.symm.trans known)
  exact wp_commit (inv.time time) (((inv.time time).accounted found).recordStatus submitted recorded)

end

theorem Accounted.recordReconciliation
    {tasks : List CloudTaskId} {complete : Bool} (accounted : Accounted decisive h ledger)
    (counted : ∀ record, h.submitFile = some record →
      ledger.reconciliationGeneration < record.history.length)
    (recorded : ledger.recordReconciliation tasks complete = .ok next) : Accounted decisive h next := by
  have valid := accounted.valid.recordReconciliation recorded
  obtain ⟨unknown, -, -, -, rfl⟩ := CloudLifecycleLedger.recordReconciliation_eq_ok.mp recorded
  exact ⟨valid, accounted.short, accounted.issued,
    coherent_unknown unknown (accounted.coherent.unknown unknown) counted⟩

theorem lifecycleReconcileUnknown_spec (inv : ProcessInv decisive runner p) :
    (reconcileUnknown runner).wp (fun _ => ProcessInv decisive runner) (fun _ => ProcessInv decisive runner)
      (fun p' => HostInv decisive runner p'.host) p := by
  apply wp_lifecycleReconcileUnknown fun _ => inv
  intro ledger found unknown
  have accounted := inv.accounted found
  apply wp_mono (reconcileUnknown_spec runner inv.host.tidy.valid) _
    (fun _ _ onward => inv.onward onward) (fun _ onward => inv.host.onward onward)
  rintro reported h' ⟨onward, entered⟩
  have counted : ∀ record, h'.submitFile = some record →
      ledger.reconciliationGeneration < record.history.length := by
    intro record after
    obtain ⟨before, current, -⟩ := accounted.coherent.unknown unknown
    obtain ⟨record', stored, longer⟩ := entered before current
    cases after.symm.trans stored
    exact Nat.lt_of_le_of_lt (accounted.coherent.counted unknown before current) longer
  refine ⟨fun _ => inv.onward onward, fun next _ recorded => ?_⟩
  exact wp_commit (inv.onward onward) ((accounted.onward onward).recordReconciliation counted recorded)

theorem lifecycleCancel_spec (inv : ProcessInv decisive runner p) :
    cancel.wp (fun _ => ProcessInv decisive runner) (fun _ => ProcessInv decisive runner)
      (fun p' => HostInv decisive runner p'.host) p := by
  have signalled : ∀ token, ProcessInv decisive runner ⟨p.host, { p.state with cancellation := token }⟩ :=
    fun _ => inv.state rfl
  apply wp_cancel (fun _ found => (inv.accounted found).valid) (fun _ _ _ _ _ _ => inv) (fun _ => inv)
    (fun _ _ _ _ _ => signalled _)
  intro ledger next shown found pending known appended _
  have accounted := inv.accounted found
  obtain ⟨named, held, submitted⟩ := accounted.coherent.task (by simp [pending])
  have valid := accounted.valid.append (by simp [known]) appended
  obtain ⟨-, step, rfl⟩ := CloudLifecycleLedger.append_eq_ok.mp appended
  exact wp_commit inv ⟨valid, accounted.short.grow step (by simp [pending]), accounted.issued,
    coherent_submitted rfl held submitted⟩

theorem commitResolution_spec (resolution : CloudUnknownResolution) {expected : CloudSubmitObservation}
    {recorded : Except CloudLifecycleError CloudLifecycleLedger} (inv : ProcessInv decisive runner p)
    (agrees : ∀ next h', Onward p.host h' → Observed ledger.operationId h'.submitFile expected →
      recorded = .ok next → Accounted decisive h' next) :
    (commitResolution runner ledger resolution expected recorded).wp (fun _ => ProcessInv decisive runner)
      (fun _ => ProcessInv decisive runner) (fun p' => HostInv decisive runner p'.host) p := by
  apply wp_commitResolution
  apply wp_mono (resolveUnknown_spec runner _ resolution inv.host.tidy.valid) _
    (fun _ _ onward => inv.onward onward) (fun _ onward => inv.host.onward onward)
  rintro observation h' ⟨onward, observed⟩
  refine ⟨fun _ => inv.onward onward, ?_⟩
  rintro next rfl outcome
  have accounted := agrees next h' onward observed outcome
  exact ⟨accounted.valid, fun _ _ => wp_commit (inv.onward onward) accounted⟩

/-- Abandoning an unknown operation agrees with a submit file that is closed. -/
theorem Accounted.recordAbandonedUnknown
    (accounted : Accounted decisive h ledger) (unknown : ledger.phase = .outcomeUnknown)
    (idle : Idle h.submitFile) (recorded : ledger.recordAbandonedUnknown = .ok next) :
    Accounted decisive h next :=
  accounted.append (by rw [unknown]; rfl) rfl (by simp [unknown])
    (coherent_closed rfl rfl fun _ => idle) recorded

theorem lifecycleResolveUnknown_spec (op : CloudSubmitOperationId)
    (decision : UnknownSubmitDecision) (inv : ProcessInv decisive runner p) :
    (resolveUnknown runner op decision).wp (fun _ => ProcessInv decisive runner) (fun _ => ProcessInv decisive runner)
      (fun p' => HostInv decisive runner p'.host) p := by
  apply wp_lifecycleResolveUnknown
  · exact fun _ => inv.time
  · exact fun time => (inv.time time).host
  · exact fun _ _ _ _ _ _ => inv
  · intro ledger task status time undecided _ _ _ _
    obtain ⟨found, rfl, -, -⟩ := undecided
    apply commitResolution_spec _ (inv.time time)
    intro next h' onward observed recorded
    exact ((inv.time time).accounted found).onward onward |>.recordStatus observed.2 recorded
  · intro ledger undecided _
    obtain ⟨found, rfl, unknown, -⟩ := undecided
    apply commitResolution_spec _ inv
    intro next h' onward observed recorded
    exact ((inv.accounted found).onward onward).recordAbandonedUnknown unknown observed.1 recorded

/-! ## Construction -/

theorem exceptMap_eq_ok {ε α β : Type} {f : α → β} {result : Except ε α} {value : β} :
    result.map f = .ok value ↔ ∃ inner, result = .ok inner ∧ f inner = value := by
  cases result <;> simp [Except.map]

/-- The records that a restart writes. -/
inductive Repaired (current : CloudLifecycleLedger) : CloudSubmitObservation → CloudLifecycleLedger → Prop where
  | failed {observation : CloudSubmitObservation} {next : CloudLifecycleLedger} (phase : current.phase = .submitting)
      (unsent : observation = .absent ∨ observation = .failedBeforeSpawn)
      (recorded : current.append .failedBeforeSubmit = .ok next) : Repaired current observation next
  | unknown {next : CloudLifecycleLedger} (phase : current.phase = .submitting)
      (recorded : current.append .outcomeUnknown = .ok next) : Repaired current .outcomeUnknown next
  | named {submission : CloudSubmission} {next : CloudLifecycleLedger}
      (recorded : current.recordStatus submission.taskId .pending = .ok next) :
      Repaired current (.taskRecorded submission) next
  | abandoned {unknown next : CloudLifecycleLedger}
      (first : current.phase = .submitting ∧ current.append .outcomeUnknown = .ok unknown ∨
        current.phase = .outcomeUnknown ∧ unknown = current)
      (recorded : unknown.append .abandonedUnknown = .ok next) : Repaired current .explicitlyAbandoned next

theorem repaired_of_ok {current next : CloudLifecycleLedger}
    (repaired : repairedLedger current observation = .ok (some next)) : Repaired current observation next := by
  have named : ∀ submission : CloudSubmission, (if submission.operationId ≠ current.operationId then
        .error (.forOperation .operationConflict submission.operationId)
      else (current.recordStatus submission.taskId .pending).map some) = .ok (some next) →
      Repaired current (.taskRecorded submission) next := by
    intro submission mapped
    split at mapped
    · cases mapped
    · obtain ⟨_, recorded, ⟨⟩⟩ := exceptMap_eq_ok.mp mapped
      exact .named recorded
  unfold repairedLedger at repaired
  split at repaired
  · obtain ⟨_, recorded, ⟨⟩⟩ := exceptMap_eq_ok.mp repaired
    exact .failed ‹_› (.inl rfl) recorded
  · obtain ⟨_, recorded, ⟨⟩⟩ := exceptMap_eq_ok.mp repaired
    exact .failed ‹_› (.inr rfl) recorded
  · obtain ⟨_, recorded, ⟨⟩⟩ := exceptMap_eq_ok.mp repaired
    exact .unknown ‹_› recorded
  · exact named _ repaired
  · exact named _ repaired
  · cases first : current.recordOutcomeUnknown with
    | error error => simp [first, bind, Except.bind] at repaired
    | ok unknown =>
        simp only [first, bind, Except.bind] at repaired
        obtain ⟨_, recorded, ⟨⟩⟩ := exceptMap_eq_ok.mp repaired
        exact .abandoned (.inl ⟨‹_›, first⟩) recorded
  · obtain ⟨_, recorded, ⟨⟩⟩ := exceptMap_eq_ok.mp repaired
    exact .abandoned (.inr ⟨‹_›, rfl⟩) recorded
  · cases repaired
  · cases repaired

/-- What a restart writes agrees with what it observed. -/
theorem repairedLedger_accounted {current repaired : CloudLifecycleLedger} (accounted : Accounted decisive h current)
    (observed : Observed current.operationId h.submitFile observation)
    (recorded : repairedLedger current observation = .ok (some repaired)) : Accounted decisive h repaired := by
  have unknown : ∀ next, current.phase = .submitting →
      MaySubmit current.operationId h.submitFile → current.append .outcomeUnknown = .ok next →
      Accounted decisive h next := by
    intro next phase mayRun appended
    have unreconciled := accounted.valid.unreconciled_submitting accounted.short phase
    refine accounted.append (by rw [phase]; rfl) rfl (by simp [phase]) ?_ appended
    exact coherent_unknown rfl mayRun fun _ _ => by simp [unreconciled]
  cases repaired_of_ok recorded with
  | failed phase unsent appended =>
      have idle : Idle h.submitFile := by
        obtain rfl | rfl := unsent
        · exact observed.1
        · exact observed.1
      exact accounted.append (by rw [phase]; rfl) rfl (by simp [phase]) (coherent_closed rfl rfl fun _ => idle) appended
  | unknown phase appended => exact unknown _ phase observed appended
  | named status => exact accounted.recordStatus observed.2 status
  | abandoned first appended =>
      obtain ⟨phase, first⟩ | ⟨phase, rfl⟩ := first
      · have reached := (CloudLifecycleLedger.append_eq_ok.mp first).2.2
        exact (unknown _ phase observed.2 first).recordAbandonedUnknown (by rw [reached]) observed.1 appended
      · exact accounted.recordAbandonedUnknown phase observed.1 appended

theorem repairInterruptedState_spec (inv : ProcessInv decisive runner p) :
    (repairInterruptedState runner).wp (fun _ => ProcessInv decisive runner) (fun _ => ProcessInv decisive runner)
      (fun p' => HostInv decisive runner p'.host) p := by
  apply wp_repairInterruptedState inv
  intro current found _
  apply wp_mono (observeSubmit_spec runner _ inv.host.tidy.valid) _
    (fun _ _ spec => inv.onward spec.1) (fun _ onward => inv.host.onward onward)
  rintro observation h' ⟨onward, observed⟩
  have later : ProcessInv decisive runner { p with host := h' } := inv.onward onward
  refine ⟨fun _ => later, later, fun repaired outcome => ?_⟩
  have accounted := repairedLedger_accounted ((inv.accounted found).onward onward) observed outcome
  exact wp_persist later.host accounted (fun _ kept beside _ => .commit accounted kept beside rfl)
    (fun _ _ _ kept beside => ⟨kept, later.memory.beside beside⟩) (fun _ kept => kept)

theorem loadLifecycleLedger_run (alive : h.answers.crash = false) (readable : h.answers.read = .readable)
    (valid : ∀ ledger, h.lifecycleFile = some ledger → ledger.Valid) :
    loadLifecycleLedger h = (.ok h.lifecycleFile, h.advance) := by
  have same : h.advance.lifecycleFile = h.lifecycleFile := rfl
  simp only [loadLifecycleLedger, Bind.bind, Proc.bind, readFile_run alive readable, same]
  cases content : h.lifecycleFile with
  | none => rfl
  | some ledger =>
      simp only [CloudLifecycleLedger.validate_eq_ok.mpr (valid ledger content)]
      rfl

theorem HostInv.accounted (inv : HostInv decisive runner h)
    (file : h.lifecycleFile = some ledger) : Accounted decisive h ledger := by
  have accounts := inv.file
  rwa [file] at accounts

theorem fromRunner_spec (inv : HostInv decisive runner p.host) :
    (fromRunner runner).wp (fun _ => ProcessInv decisive runner) (fun _ p' => HostInv decisive runner p'.host)
      (fun p' => HostInv decisive runner p'.host) p := by
  have kept : ∀ time, HostInv decisive runner (p.host.atTime time) := fun time => inv.onward (.time _ time)
  apply wp_fromRunner
  · intro time
    have constructed : ProcessInv decisive runner ⟨p.host.atTime time, ⟨p.host.lifecycleFile, none, 0⟩⟩ :=
      ⟨kept time, (kept time).file⟩
    exact wp_mono (repairInterruptedState_spec constructed) (fun _ _ => id)
      (fun _ _ repaired => repaired.host) (fun _ => id)
  · exact fun _ => kept
  · exact kept

/-! ## Runs -/

/-- Nothing but the cancellation signal has changed. -/
structure Undisturbed (p p' : Process) : Prop where
  host : p'.host = p.host
  ledger : p'.state.ledger = p.state.ledger

/-- While a submit is in flight no other caller gets past its first check. -/
theorem busy_spec (runner : CloudTaskRunner) {op : CloudSubmitOperationId}
    (memory : p.state.ledger = some (.submitting op)) :
    (startBegin runner).wp (fun _ _ => False) (fun _ => Undisturbed p) (fun _ => False) p ∧
    inspect.wp (fun _ _ => False) (fun _ => Undisturbed p) (fun _ => False) p ∧
    (reconcileUnknown runner).wp (fun _ _ => False) (fun _ => Undisturbed p) (fun _ => False) p ∧
    (∀ requested decision, (resolveUnknown runner requested decision).wp (fun _ _ => False)
      (fun _ => Undisturbed p) (fun _ => False) p) ∧
    cancel.wp (fun _ => Undisturbed p) (fun _ => Undisturbed p) (fun _ => False) p := by
  have same : Undisturbed p p := ⟨rfl, rfl⟩
  have current : ∀ {onOk : CloudLifecycleLedger → Process → Prop}, onOk (.submitting op) p →
      currentLedger.wp onOk (fun _ => Undisturbed p) (fun _ => False) p := by
    intro onOk found
    refine wp_currentLedger (fun ledger held => ?_) (fun _ => same)
    cases memory.symm.trans held
    exact found
  refine ⟨?_, ?_, ?_, fun requested decision => ?_, ?_⟩
  · simpa [startBegin, memory, CloudLifecycleLedger.submitting] using same
  · rw [inspect, wp_bind]
    exact current same
  · rw [reconcileUnknown, requirePhase, wp_bind, wp_bind]
    exact current same
  · rw [resolveUnknown, wp_bind]
    refine current ?_
    rw [wp_ite]
    split
    · exact same
    · exact same
  · rw [cancel, wp_bind]
    refine current ?_
    have shown : (CloudLifecycleLedger.submitting op).lifecycle = .ok (.submitting op) := rfl
    rw [shown, wp_bind, wp_ofExcept_ok]
    simp only [wp_bind, wp_getState]
    cases p.state.cancellation with
    | none => exact same
    | some token => exact ⟨rfl, rfl⟩

/-- A flight and what the process owes it. -/
def FlightInv (decisive : Prop) (p : Process) : Option Flight → Prop
  | none => True
  | some (.submitting ticket _) => Claimed ticket p
  | some (.submitted ticket result) => Answered decisive ticket result p

def MachineInv (decisive : Prop) (runner : CloudTaskRunner) : Machine → Prop
  | .down host => HostInv decisive runner host
  | .up p flight => ProcessInv decisive runner p ∧ FlightInv decisive p flight

theorem ProcessInv.undisturbed {p p' : Process} (inv : ProcessInv decisive runner p) (same : Undisturbed p p') :
    ProcessInv decisive runner p' := by
  obtain ⟨host, state⟩ := p'
  obtain ⟨rfl, ledger⟩ := same
  exact inv.state ledger

theorem FlightInv.undisturbed {p p' : Process} (inv : FlightInv decisive p flight) (same : Undisturbed p p') :
    FlightInv decisive p' flight := by
  obtain ⟨host, ledger⟩ := same
  rcases flight with _ | ⟨ticket, prompt⟩ | ⟨ticket, result⟩
  · trivial
  · obtain ⟨memory, file, idle, unknown⟩ := (inv : Claimed ticket p)
    exact ⟨ledger.trans memory, by rw [host]; exact file, by rw [host]; exact idle,
      by rw [host]; exact unknown⟩
  · obtain ⟨memory, returned, failed⟩ := (inv : Answered decisive ticket result p)
    exact ⟨ledger.trans memory, by rw [host]; exact returned, by rw [host]; exact failed⟩

/-- A flight of any stage has the slot. -/
theorem FlightInv.memory {flight : Flight} (inv : FlightInv decisive p (some flight)) :
    ∃ op, p.state.ledger = some (.submitting op) := by
  rcases flight with ⟨ticket, prompt⟩ | ⟨ticket, result⟩
  · exact ⟨_, Claimed.memory inv⟩
  · exact ⟨_, Answered.memory inv⟩

/-- A call that does not touch a flight keeps everything, whether or not there is one. -/
theorem MachineInv.beside {α : Type} {proc : OrchestratorProc α} (inv : MachineInv decisive runner (.up p flight))
    (alone : ProcessInv decisive runner p → proc.wp (fun _ => ProcessInv decisive runner) (fun _ => ProcessInv decisive runner)
      (fun p' => HostInv decisive runner p'.host) p) (during : ∀ op, p.state.ledger = some (.submitting op) →
      proc.wp (fun _ => Undisturbed p) (fun _ => Undisturbed p) (fun _ => False) p) :
    MachineInv decisive runner (Machine.after (proc p) fun _ => flight) := by
  apply Machine.after_spec
  cases flight with
  | none =>
      exact wp_mono (alone inv.1) (fun _ _ kept => ⟨kept, trivial⟩)
        (fun _ _ kept => ⟨kept, trivial⟩) (fun _ => id)
  | some flight =>
      obtain ⟨op, memory⟩ := inv.2.memory
      have kept : ∀ p', Undisturbed p p' → ProcessInv decisive runner p' ∧ FlightInv decisive p' (some flight) :=
        fun p' same => ⟨inv.1.undisturbed same, inv.2.undisturbed same⟩
      exact wp_mono (during op memory) (fun _ => kept) (fun _ => kept) (fun _ => False.elim)

theorem startBegin_step (prompt : CloudPrompt) (inv : MachineInv decisive runner (.up p flight)) :
    MachineInv decisive runner (Machine.after (startBegin runner p) fun
      | .ok ticket => some (.submitting ticket prompt)
      | .error _ => flight) := by
  apply Machine.after_spec
  cases flight with
  | none =>
      exact wp_mono (startBegin_spec inv.1) (fun _ _ claimed => claimed)
        (fun _ _ refused => ⟨refused.2, trivial⟩) (fun _ => id)
  | some flight =>
      obtain ⟨op, memory⟩ := inv.2.memory
      exact wp_mono (busy_spec runner memory).1 (fun _ _ => False.elim)
        (fun _ _ same => ⟨inv.1.undisturbed same, inv.2.undisturbed same⟩) (fun _ => False.elim)

theorem MachineInv.step {machine' : Machine} {call : Call} (inv : MachineInv decisive runner machine)
    (stepped : Machine.step runner machine call = some machine') : MachineInv decisive runner machine' := by
  have quiet : ∀ {α : Type} {p : Process} {proc : OrchestratorProc α},
      proc.wp (fun _ _ => False) (fun _ => Undisturbed p) (fun _ => False) p →
      proc.wp (fun _ => Undisturbed p) (fun _ => Undisturbed p) (fun _ => False) p :=
    fun spec => wp_mono spec (fun _ _ => False.elim) (fun _ _ => id) (fun _ => id)
  have restarted : ∀ host, machine = .down host → call = .restart → MachineInv decisive runner machine' := by
    rintro host rfl rfl
    refine Machine.restart_spec ?_ stepped
    exact wp_mono (fromRunner_spec (p := ⟨host, ⟨none, none, 0⟩⟩) inv)
      (fun _ _ constructed => ⟨constructed, trivial⟩) (fun _ _ => id) (fun _ => id)
  unfold Machine.step at stepped
  split at stepped
  · exact restarted _ rfl rfl
  · cases stepped
    exact inv.1.host
  · cases stepped
    exact startBegin_step _ inv
  · cases stepped
    exact Machine.after_spec (wp_mono (startSubmit_spec _ _ inv.1 inv.2) (fun _ _ => id)
      (fun _ _ => False.elim) (fun _ => id))
  · cases stepped
    exact Machine.after_spec (wp_mono (startCommit_spec inv.1 inv.2) (fun _ _ kept => ⟨kept, trivial⟩)
      (fun _ _ kept => ⟨kept.2, trivial⟩) (fun _ => id))
  · cases stepped
    exact inv.beside inspect_spec fun op memory => quiet (busy_spec runner memory).2.1
  · cases stepped
    exact inv.beside (lifecycleReconcileUnknown_spec)
      fun op memory => quiet (busy_spec runner memory).2.2.1
  · cases stepped
    exact inv.beside (lifecycleResolveUnknown_spec _ _)
      fun op memory => quiet ((busy_spec runner memory).2.2.2.1 _ _)
  · cases stepped
    exact inv.beside lifecycleCancel_spec fun op memory => (busy_spec runner memory).2.2.2.2
  · cases stepped

theorem machineInv_reachable {runner : CloudTaskRunner} {env : Nat → Answers}
    (truthful : decisive → DecisiveWrites env) (reachable : (Machine.system runner env).Reachable machine) :
    MachineInv decisive runner machine := by
  apply System.Reach.invariant reachable
  · intro start begins
    cases begins
    exact ⟨truthful, nofun, nofun⟩
  · intro before call after _ inv _ stepped
    exact inv.step stepped

theorem MachineInv.idle (inv : MachineInv True runner machine)
    (held : machine.host.lifecycleFile = some ledger ∨ machine.ledger = some ledger)
    (terminal : ledger.phase.isTerminal = true) : Idle machine.host.submitFile := by
  have accounted : Accounts True machine.host (some ledger) := by
    cases machine with
    | down host =>
        rcases held with file | ⟨⟨⟩⟩
        exact file ▸ HostInv.file inv
    | up p flight =>
        rcases held with file | memory
        · exact file ▸ inv.1.host.file
        · exact memory ▸ inv.1.memory
  exact (Accounted.coherent accounted).terminal terminal trivial

/-- Whenever a lifecycle record, in memory or on disk, is terminal, the submit file permits a
new operation, and no section of a start is ever refused for a conflict. -/
theorem terminal_record_permits_next_start {runner : CloudTaskRunner} {env : Nat → Answers}
    {machine : Machine} (decisive : DecisiveWrites env)
    (reachable : (Machine.system runner env).Reachable machine) :
    (∀ ledger, machine.host.lifecycleFile = some ledger ∨ machine.ledger = some ledger →
      ledger.phase.isTerminal = true → Idle machine.host.submitFile) ∧
    (∀ p flight error, machine = .up p flight → (startBegin runner p).1 = .error error →
      error.category ≠ .operationConflict) ∧
    (∀ p ticket result error, machine = .up p (some (.submitted ticket result)) →
      (startCommit ticket result p).1 = .error error → error.category ≠ .operationConflict) := by
  have inv : MachineInv True runner machine := machineInv_reachable (fun _ => decisive) reachable
  refine ⟨fun ledger held terminal => inv.idle held terminal, ?_, ?_⟩
  · intro p flight error up refused
    subst up
    exact (wp_error (startBegin_spec inv.1) refused).1 trivial
  · intro p ticket result error up refused
    subst up
    exact (wp_error (startCommit_spec inv.1 inv.2) refused).1

/-- A run in which a submitted task is canceled: its record is terminal, the file is open. -/
theorem canceled_record_permits_next_start :
    ∃ machine ledger,
      (Machine.system ⟨⟨[]⟩, ⟨[]⟩⟩ fun _ => { execOutput := some ⟨"task_1".toList, by decide⟩ }).Reachable
        machine ∧
      machine.ledger = some ledger ∧ ledger.phase = .canceledLocally true ∧
      Idle machine.host.submitFile := by
  let env : Nat → Answers := fun _ => { execOutput := some ⟨"task_1".toList, by decide⟩ }
  have decisive : DecisiveWrites env := ⟨fun _ _ _ => nofun, fun _ _ _ => ⟨nofun, nofun⟩⟩
  have ran : (Machine.system ⟨⟨[]⟩, ⟨[]⟩⟩ env).run (.down (Host.fresh env))
      [.restart, .startBegin ⟨['p']⟩, .startSubmit, .startCommit, .cancel] = some (.up _ none) := rfl
  have reachable := System.Reachable.run (.initial rfl) ran
  exact ⟨_, _, reachable, rfl, rfl,
    (terminal_record_permits_next_start decisive reachable).1 _ (.inr rfl) rfl⟩

/-! ## A start that closes too early

The directory sync after the authorized record fails: the record is on disk, the submit
reports an error from before the spawn, and the lifecycle record is closed as not submitted.
-/

/-- Every answer is good, except that the authorized record is stored with an error. -/
def unsyncedAuthorization : Answers where
  writeSubmit ledger :=
    if ledger.history = [.intent, .authorized] then .storedUnsynced else .stored

theorem unsynced_authorization_refuses_next_start :
    ∃ machine p, (Machine.system ⟨⟨[]⟩, ⟨[]⟩⟩ fun _ => unsyncedAuthorization).Reachable machine ∧
      machine = .up p none ∧
      p.state.ledger.map CloudLifecycleLedger.phase = some .failedBeforeSubmit ∧
      p.host.lifecycleFile = p.state.ledger ∧ ¬ Idle p.host.submitFile ∧
      (startBegin ⟨⟨[]⟩, ⟨[]⟩⟩ p).1 = .error ⟨.operationConflict, some ⟨1, by decide⟩⟩ := by
  have ran : (Machine.system ⟨⟨[]⟩, ⟨[]⟩⟩ fun _ => unsyncedAuthorization).run
      (.down (Host.fresh fun _ => unsyncedAuthorization))
      [.restart, .startBegin ⟨['p']⟩, .startSubmit, .startCommit] = some (.up _ none) := rfl
  refine ⟨_, _, .run (.initial rfl) ran, rfl, by decide, by decide, fun idle => ?_, by decide⟩
  exact absurd (idle _ rfl) (by decide)

end Codebox.Cloud
