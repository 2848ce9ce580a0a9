import Codebox.Cloud.Evidence
import Codebox.Cloud.Lasting

/-! # Repeating a decision

A decision on an unknown submit is applied to the submit ledger and then to the lifecycle ledger.
The call may fail, or the process may die, before, between or after the two writes; the decision is
then repeated, perhaps by a new process that has repaired what it found. Once the decision has
passed its checks, every state that the failures leave lets it pass again.
-/

namespace Codebox.Cloud

open Codebox.Support Proc Codebox.Host

namespace UnknownSubmitDecision

/-- What the decision asks of the submit ledger. -/
def resolution : UnknownSubmitDecision → CloudUnknownResolution
  | .adoptListedTask task => .adoptListedTask task
  | .abandonAfterReconciliation _ => .explicitlyAbandon

/-- An abandonment acknowledges this operation. -/
def Names (op : CloudSubmitOperationId) : UnknownSubmitDecision → Prop
  | .adoptListedTask _ => True
  | .abandonAfterReconciliation acknowledgement => acknowledgement.operationId = op

/-- The lifecycle is one that the decision leads to. -/
def LeadsTo (op : CloudSubmitOperationId) (shown : CloudLifecycle) : UnknownSubmitDecision → Prop
  | .adoptListedTask task => shown.operationId = op ∧ shown.taskId = some task
  | .abandonAfterReconciliation _ => shown = .abandonedUnknown op

end UnknownSubmitDecision

/-- The record of an unknown submit lets the decision pass. -/
def CloudLifecycleLedger.Permits (ledger : CloudLifecycleLedger) : UnknownSubmitDecision → Prop
  | .adoptListedTask task => ledger.reconciliationComplete = some true ∧ task ∈ ledger.candidateTaskIds
  | .abandonAfterReconciliation _ => True

/-- The record is one that the decision leads to. -/
def CloudLifecycleLedger.Reached (ledger : CloudLifecycleLedger) : UnknownSubmitDecision → Prop
  | .adoptListedTask task => ledger.taskId = some task ∧ Polled ledger.phase
  | .abandonAfterReconciliation _ => ledger.phase = .abandonedUnknown

/-- The submit ledger of the operation has taken the resolution or will take it. -/
def Takes (op : CloudSubmitOperationId) (resolution : CloudUnknownResolution)
    (file : Option CloudSubmitLedger) : Prop :=
  TookIn op resolution file ∨ ∃ submit next, file = some submit ∧ submit.operationId = op ∧
    submit.recordResolution resolution = .ok next

/-- A lifecycle record under the decision: it is unknown and lets the decision pass, or it is one that
the decision leads to and the submit ledger has taken it. -/
structure Underway (op : CloudSubmitOperationId) (decision : UnknownSubmitDecision)
    (ledger : CloudLifecycleLedger) (file : Option CloudSubmitLedger) : Prop where
  own : ledger.operationId = op
  reconciled : ledger.reconciliationGeneration ≠ 0
  stage : ledger.phase = .outcomeUnknown ∧ ledger.Permits decision ∨
    ledger.Reached decision ∧ TookIn op decision.resolution file

def Pursues (op : CloudSubmitOperationId) (decision : UnknownSubmitDecision) (h : Host)
    (record : Option CloudLifecycleLedger) : Prop :=
  ∃ ledger, record = some ledger ∧ Underway op decision ledger h.submitFile

structure HostPursues (op : CloudSubmitOperationId) (decision : UnknownSubmitDecision) (h : Host) : Prop where
  names : decision.Names op
  takes : Takes op decision.resolution h.submitFile
  file : Pursues op decision h h.lifecycleFile

structure ProcessPursues (op : CloudSubmitOperationId) (decision : UnknownSubmitDecision) (p : Process) :
    Prop where
  host : HostPursues op decision p.host
  memory : Pursues op decision p.host p.state.ledger

/-- The submit ledger has applied this decision on the operation. -/
def Applied (op : CloudSubmitOperationId) (decision : UnknownSubmitDecision) (h : Host) : Prop :=
  decision.Names op ∧ TookIn op decision.resolution h.submitFile

/-- The same process on a host that stays up and whose storage does what it is asked. -/
def Process.withStorage (p : Process) : Process :=
  { p with host := { p.host with env := fun time => { p.host.env time with
      crash := false
      scope := none
      read := .readable
      writeSubmit := fun _ => .stored
      writeLifecycle := fun _ => .stored } } }

/-- The call returns, or nothing but the storage keeps it from returning. -/
def Persists (runner : CloudTaskRunner) (op : CloudSubmitOperationId) (decision : UnknownSubmitDecision)
    (p : Process) : Prop :=
  Proc.Succeeds (resolveUnknown runner op decision) p ∨
    Proc.Succeeds (resolveUnknown runner op decision) p.withStorage

instance {runner : CloudTaskRunner} {op : CloudSubmitOperationId} {decision : UnknownSubmitDecision} {p : Process} :
    Decidable (Persists runner op decision p) :=
  inferInstanceAs (Decidable (_ ∨ _))

/-- What may happen before the decision is repeated: a crash, a new process, another attempt. -/
def Call.Between (op : CloudSubmitOperationId) (decision : UnknownSubmitDecision) (call : Call) : Prop :=
  call = .crash ∨ call = .restart ∨ call = .resolveUnknown op decision

/-! ## The submit file under the resolution -/

section

variable {op : CloudSubmitOperationId} {resolution : CloudUnknownResolution} {submit : CloudSubmitLedger}
  {before after : Option CloudSubmitLedger} {h h' : Host}

/-- A record that ended with a resolution takes no other entry. -/
theorem CloudSubmitLedger.Took.final (took : submit.Took resolution) :
    submit.latest.isOpen = false ∧ submit.latest ≠ .reconciliationObserved := by
  cases resolution with
  | adoptListedTask task => simp [took.1]
  | explicitlyAbandon =>
      have phase : submit.latest = .explicitlyAbandoned := took
      simp [phase]

theorem Takes.settled (takes : Takes op resolution before) : ∀ submit, before = some submit →
    submit.latest.isOpen = false := by
  intro submit found
  rcases takes with ⟨other, here, -, took⟩ | ⟨other, next, here, -, recorded⟩
  · cases here.symm.trans found
    exact took.final.1
  · cases here.symm.trans found
    simp [recordResolution_observed recorded]

/-- Classification has nothing to do on a file that has taken the resolution or will. -/
theorem Classified.kept (classified : Classified h h')
    (settled : ∀ submit, h.submitFile = some submit → submit.latest.isOpen = false) :
    h'.submitFile = h.submitFile := by
  cases classified with
  | same time later => rfl
  | closed submit time later current unfinished =>
      rw [settled submit current] at unfinished
      cases unfinished

theorem TookIn.kept (took : TookIn op resolution before)
    {other : CloudUnknownResolution} {own : CloudSubmitOperationId}
    (resolves : Resolves own other before after) : after = before := by
  obtain ⟨submit, found, -, took⟩ := took
  cases resolves with
  | same => rfl
  | classified current here unfinished =>
      cases found.symm.trans here
      rw [took.final.1] at unfinished
      cases unfinished
  | decided current next here _ recorded =>
      cases found.symm.trans here
      exact absurd (recordResolution_observed recorded) took.final.2

theorem Takes.resolves (takes : Takes op resolution before) (resolves : Resolves op resolution before after) :
    Takes op resolution after := by
  cases resolves with
  | same => exact takes
  | classified current here unfinished =>
      rw [takes.settled current here] at unfinished
      cases unfinished
  | decided submit next here own recorded =>
      obtain ⟨same, took⟩ := took_recordResolution recorded
      exact .inl ⟨next, rfl, same.trans own, took⟩

/-- A resolution that has left its mark could be taken before. -/
theorem Resolves.takes (resolves : Resolves op resolution before after) (took : TookIn op resolution after) :
    Takes op resolution before := by
  cases resolves with
  | same => exact .inl took
  | classified submit current unfinished =>
      obtain ⟨_, ⟨⟩, -, ended⟩ := took
      cases resolution with
      | adoptListedTask task =>
          have adopted := ended.1
          rw [CloudSubmitLedger.latest_classify] at adopted
          cases phase : submit.latest <;> simp [phase, CloudLedgerPhase.classified] at unfinished adopted
      | explicitlyAbandon =>
          have abandoned : submit.classify.latest = .explicitlyAbandoned := ended
          rw [CloudSubmitLedger.latest_classify] at abandoned
          cases phase : submit.latest <;> simp [phase, CloudLedgerPhase.classified] at unfinished abandoned
  | decided submit next current own recorded => exact .inr ⟨submit, next, current, own, recorded⟩

end

/-! ## The calls under the decision -/

section

variable {runner : CloudTaskRunner} {op : CloudSubmitOperationId} {decision : UnknownSubmitDecision}
  {ledger next : CloudLifecycleLedger} {h h' : Host} {p p' : Process}
  {record : Option CloudLifecycleLedger}

theorem Pursues.resolves (pursues : Pursues op decision h record)
    (resolves : Resolves op decision.resolution h.submitFile h'.submitFile) : Pursues op decision h' record := by
  obtain ⟨ledger, found, own, reconciled, open_ | ⟨reached, took⟩⟩ := pursues
  · exact ⟨ledger, found, own, reconciled, .inl open_⟩
  · exact ⟨ledger, found, own, reconciled, .inr ⟨reached, took.kept resolves ▸ took⟩⟩

theorem HostPursues.resolves (pursues : HostPursues op decision h)
    (resolves : Resolves op decision.resolution h.submitFile h'.submitFile)
    (file : h'.lifecycleFile = h.lifecycleFile) : HostPursues op decision h' where
  names := pursues.names
  takes := pursues.takes.resolves resolves
  file := by
    rw [file]
    exact pursues.file.resolves resolves

theorem ProcessPursues.resolves (pursues : ProcessPursues op decision p)
    (resolves : Resolves op decision.resolution p.host.submitFile h.submitFile)
    (file : h.lifecycleFile = p.host.lifecycleFile) : ProcessPursues op decision { p with host := h } :=
  ⟨pursues.host.resolves resolves file, pursues.memory.resolves resolves⟩

theorem ProcessPursues.time (pursues : ProcessPursues op decision p) (time : Nat) :
    ProcessPursues op decision { p with host := p.host.atTime time } := pursues.resolves .same rfl

/-- Whatever a call does, the decision passes again afterwards. -/
def StaysPursuing {α : Type} (op : CloudSubmitOperationId) (decision : UnknownSubmitDecision)
    (proc : OrchestratorProc α) (p : Process) : Prop :=
  proc.wp (fun _ => ProcessPursues op decision) (fun _ => ProcessPursues op decision)
    (fun p' => HostPursues op decision p'.host) p

/-- Writing a record under the decision, however the write ends. -/
theorem wp_persist_pursuing {onOk : Unit → Process → Prop} {onError : CloudLifecycleError → Process → Prop}
    {onCrash : Process → Prop} (pursues : ProcessPursues op decision p)
    (own : Underway op decision next p.host.submitFile)
    (stored : ∀ host, ProcessPursues op decision ⟨host, { p.state with ledger := some next }⟩ →
      onOk () { p with host := host })
    (failed : ∀ error host, ProcessPursues op decision { p with host := host } → onError error { p with host := host })
    (died : ∀ host, HostPursues op decision host → onCrash { p with host := host }) :
    (persist next).wp onOk onError onCrash p := by
  have newest : ∀ time, HostPursues op decision (storeLifecycle next (p.host.atTime time)) := fun _ =>
    ⟨pursues.host.names, pursues.host.takes, next, rfl, own⟩
  apply wp_persist_hosts
  · intro time _
    exact stored _ ⟨newest time, next, rfl, own⟩
  · intro error time
    exact failed error _ ⟨newest time, pursues.memory⟩
  · intro error time
    exact failed error _ (pursues.time time)
  · intro time
    exact died _ (pursues.time time).host

variable {recorded : Except CloudLifecycleError CloudLifecycleLedger} {expected : CloudSubmitObservation}
  {resolution : CloudUnknownResolution} {decisive : Prop} {shown : CloudLifecycle} {file : Option CloudSubmitLedger}
  {other : UnknownSubmitDecision}

theorem commitResolution_pursuing (valid : SubmitFileValid p.host)
    (pursues : ProcessPursues op decision p) (own : ledger.operationId = op)
    (reaches : ∀ next, recorded = .ok next → next.Valid ∧ next.operationId = op ∧
      next.reconciliationGeneration ≠ 0 ∧ next.Reached decision) :
    StaysPursuing op decision (commitResolution runner ledger decision.resolution expected recorded) p := by
  subst own
  apply wp_commitResolution
  apply wp_mono (wp_and (resolveUnknown_evidence _ _ valid)
    (runner_frame p.host fun _ beyond => keeps_resolveUnknown beyond runner _ _))
  · rintro observation h' ⟨⟨-, -, resolves, took⟩, frame⟩
    have later := pursues.resolves resolves frame.2
    refine ⟨fun _ => later, fun next _ outcome => ?_⟩
    obtain ⟨sound, own, reconciled, reached⟩ := reaches next outcome
    refine ⟨sound, fun _ _ => ?_⟩
    rw [Commits, persistAfterEffect, wp_mapError]
    apply wp_persist_pursuing later ⟨own, reconciled, .inr ⟨reached, took⟩⟩
    · exact fun _ => id
    · exact fun _ _ => id
    · exact fun _ => id
  · intro _ h' spec
    exact pursues.resolves spec.1 spec.2.2
  · intro h' spec
    exact (pursues.resolves spec.1 spec.2.2).host

/-- A status that is recorded names the task and keeps what the reconciliations left. -/
theorem reached_recordStatus {task : CloudTaskId} {status : CloudTaskStatus} (valid : ledger.Valid)
    (reconciled : ledger.reconciliationGeneration ≠ 0) (recorded : ledger.recordStatus task status = .ok next) :
    next.Valid ∧ next.operationId = ledger.operationId ∧ next.reconciliationGeneration ≠ 0 ∧
      next.Reached (.adoptListedTask task) := by
  obtain ⟨advances, -⟩ := CloudLifecycleLedger.advances_recordStatus valid recorded
  refine ⟨advances.valid, advances.follows.own, ?_⟩
  rcases CloudLifecycleLedger.recordStatus_eq_ok recorded with ⟨phase, named, -, rfl⟩ | ⟨-, -, -, -, rfl⟩
  · exact ⟨reconciled, named, .pending, phase⟩
  · exact ⟨reconciled, rfl, status, rfl⟩

theorem reached_recordAbandonedUnknown (acknowledgement : DuplicateRiskAcknowledgement) (valid : ledger.Valid)
    (unknown : ledger.phase = .outcomeUnknown) (reconciled : ledger.reconciliationGeneration ≠ 0)
    (recorded : ledger.recordAbandonedUnknown = .ok next) :
    next.Valid ∧ next.operationId = ledger.operationId ∧ next.reconciliationGeneration ≠ 0 ∧
      next.Reached (.abandonAfterReconciliation acknowledgement) := by
  have accepted := valid.append (valid.taskless unknown) recorded
  obtain ⟨-, -, rfl⟩ := CloudLifecycleLedger.append_eq_ok.mp recorded
  exact ⟨accepted, rfl, reconciled, rfl⟩

/-- A record that the decision leads to is no longer looked at by a restart. -/
theorem Reached.settled (reached : ledger.Reached decision) :
    ledger.phase ≠ .submitting ∧ ledger.phase ≠ .outcomeUnknown ∧
      (ledger.phase.isTerminal = true ∨ ledger.phase = .pending) := by
  cases decision with
  | adoptListedTask task =>
      obtain ⟨-, status, phase⟩ := reached
      rw [phase]
      cases status <;> simp
  | abandonAfterReconciliation acknowledgement =>
      have phase : ledger.phase = .abandonedUnknown := reached
      simp [phase]

theorem resolveUnknown_pursuing (inv : ProcessInv decisive runner p) (pursues : ProcessPursues op decision p) :
    StaysPursuing op decision (resolveUnknown runner op decision) p := by
  have submits := inv.host.tidy.valid
  apply wp_lifecycleResolveUnknown
  · exact fun _ => pursues.time
  · exact fun time => (pursues.time time).host
  · exact fun _ _ _ _ _ _ => pursues
  · intro ledger task status time undecided asked _ _ _
    obtain ⟨found, rfl, -, reconciled⟩ := undecided
    subst asked
    apply commitResolution_pursuing (p := ⟨p.host.atTime time, p.state⟩) submits (pursues.time time) rfl
    intro next recorded
    exact reached_recordStatus (inv.accounted found).valid reconciled recorded
  · intro ledger undecided asked
    obtain ⟨found, rfl, unknown, reconciled⟩ := undecided
    subst asked
    apply commitResolution_pursuing submits pursues rfl
    intro next recorded
    exact reached_recordAbandonedUnknown _ (inv.accounted found).valid unknown reconciled recorded

/-- An observation of a file that has taken the resolution, or will, leaves it alone. -/
theorem observeSubmit_kept (valid : SubmitFileValid h)
    (settled : ∀ submit, h.submitFile = some submit → submit.latest.isOpen = false) :
    (runner.observeSubmit op).wp
      (fun observation h' => h'.submitFile = h.submitFile ∧
        CloudTaskRunner.classifyObservation op h.submitFile = .ok observation)
      (fun _ h' => h'.submitFile = h.submitFile) (fun h' => h'.submitFile = h.submitFile) h := by
  apply recovered_spec runner valid
  · intro _ _ _ classified
    exact classified.kept settled
  · intro _ classified
    exact classified.kept settled
  · intro h' classified _
    have same := classified.kept settled
    cases outcome : CloudTaskRunner.classifyObservation op h'.submitFile with
    | error _ => exact same
    | ok observation => exact ⟨same, same ▸ outcome⟩

/-- What a restart writes for an unknown submit under the decision. -/
theorem repairedLedger_underway {observation : CloudSubmitObservation} (takes : Takes op decision.resolution file)
    (valid : ledger.Valid) (underway : Underway op decision ledger file) (unknown : ledger.phase = .outcomeUnknown)
    (classified : CloudTaskRunner.classifyObservation op file = .ok observation)
    (repaired : repairedLedger ledger observation = .ok (some next)) : Underway op decision next file := by
  obtain ⟨own, reconciled, -⟩ := underway
  subst own
  rcases takes with took | ⟨submit, closed, found, mine, recorded⟩
  · obtain ⟨submit, rfl, mine, ended⟩ := id took
    rw [classifyObservation_took mine ended, Except.ok.injEq] at classified
    subst classified
    unfold repairedLedger at repaired
    rw [unknown] at repaired
    cases decision with
    | adoptListedTask task =>
        simp only [UnknownSubmitDecision.resolution, CloudUnknownResolution.observation, ne_eq, not_true_eq_false,
          if_false] at repaired
        obtain ⟨_, recorded, ⟨⟩⟩ := exceptMap_eq_ok.mp repaired
        obtain ⟨-, own, kept, reached⟩ := reached_recordStatus valid reconciled recorded
        exact ⟨own, kept, .inr ⟨reached, took⟩⟩
    | abandonAfterReconciliation acknowledgement =>
        obtain ⟨_, recorded, ⟨⟩⟩ := exceptMap_eq_ok.mp repaired
        obtain ⟨-, own, kept, reached⟩ := reached_recordAbandonedUnknown acknowledgement valid unknown reconciled recorded
        exact ⟨own, kept, .inr ⟨reached, took⟩⟩
  · -- a submit ledger that has not taken the resolution still shows the outcome as unknown
    subst found
    have observed := recordResolution_observed recorded
    simp only [CloudTaskRunner.classifyObservation, mine, ne_eq, not_true_eq_false, if_false, observed,
      Except.ok.injEq] at classified
    subst classified
    simp [repairedLedger, unknown] at repaired

theorem repairInterruptedState_pursuing (inv : ProcessInv decisive runner p) (pursues : ProcessPursues op decision p) :
    StaysPursuing op decision (repairInterruptedState runner) p := by
  obtain ⟨ledger, found, underway⟩ := pursues.memory
  have valid := (inv.accounted found).valid
  have takes := pursues.host.takes
  apply wp_repairInterruptedState pursues
  intro current held interrupted
  cases found.symm.trans held
  have unknown : ledger.phase = .outcomeUnknown := by
    rcases underway.stage with ⟨unknown, -⟩ | ⟨reached, -⟩
    · exact unknown
    · obtain ⟨claimed, known, -⟩ := Reached.settled reached
      exact absurd interrupted (not_or.mpr ⟨claimed, known⟩)
  rw [underway.own]
  apply wp_mono (wp_and (observeSubmit_kept inv.host.tidy.valid takes.settled)
    (runner_frame p.host fun _ beyond => keeps_observeSubmit beyond runner op))
  · rintro observation h' ⟨⟨same, classified⟩, frame⟩
    have later : ProcessPursues op decision { p with host := h' } := pursues.resolves (same ▸ .same) frame.2
    refine ⟨fun _ => later, later, fun repaired outcome => ?_⟩
    have under := repairedLedger_underway takes valid underway unknown classified outcome
    apply wp_persist_pursuing later (same ▸ under)
    · exact fun _ => id
    · exact fun _ _ => id
    · exact fun _ => id
  · intro _ h' spec
    exact pursues.resolves (spec.1 ▸ .same) spec.2.2
  · intro h' spec
    exact (pursues.resolves (spec.1 ▸ .same) spec.2.2).host

theorem fromRunner_pursuing (inv : HostInv decisive runner p.host) (pursues : HostPursues op decision p.host) :
    (fromRunner runner).wp (fun _ => ProcessPursues op decision) (fun _ p' => HostPursues op decision p'.host)
      (fun p' => HostPursues op decision p'.host) p := by
  have kept : ∀ time, HostPursues op decision (p.host.atTime time) := fun _ => pursues.resolves .same rfl
  apply wp_fromRunner
  · intro time
    have inv' : HostInv decisive runner (p.host.atTime time) := inv.onward (.time _ time)
    have loaded : ProcessInv decisive runner ⟨p.host.atTime time, ⟨p.host.lifecycleFile, none, 0⟩⟩ :=
      ⟨inv', inv'.file⟩
    exact wp_mono (repairInterruptedState_pursuing loaded ⟨kept time, (kept time).file⟩) (fun _ _ => id)
      (fun _ _ repaired => repaired.host) (fun _ => id)
  · exact fun _ => kept
  · exact kept

/-! ## A decision that passes again -/

theorem succeeds_takes (working : Working h) (valid : SubmitFileValid h)
    (configured : ∀ submit, h.submitFile = some submit →
      submit.matchesConfig runner.environment runner.branch = true)
    (takes : Takes op resolution h.submitFile) : Proc.Succeeds (runner.resolveUnknown op resolution) h := by
  rcases id takes with ⟨submit, found, own, took⟩ | ⟨submit, next, found, own, recorded⟩
  · refine recovered_working working valid found (configured submit found) fun h' _ _ stored => ?_
    have settled : submit.recovered = submit := by
      simp [CloudSubmitLedger.recovered, took.final.1]
    rw [settled]
    cases resolution with
    | adoptListedTask task =>
        obtain ⟨phase, named⟩ := took
        simp only [own, ne_eq, not_true_eq_false, if_false, phase, CloudTaskRunner.recordedTaskOrInvalid,
          CloudSubmitLedger.recordedTask, named, succeeds_iff, wp_bind, wp_ofExcept_ok, if_true,
          wp_pure]
    | explicitlyAbandon =>
        have phase : submit.latest = .explicitlyAbandoned := took
        simp only [own, ne_eq, not_true_eq_false, if_false, phase]
        exact ⟨_, _, rfl⟩
  · obtain ⟨same, took⟩ := took_recordResolution recorded
    exact succeeds_resolveUnknown working valid found (configured submit found)
      (recordResolution_observed recorded) own recorded (classifyObservation_took (same.trans own) took)

theorem commitResolution_returns (working : Working p.host) (valid : SubmitFileValid p.host)
    (configured : ∀ submit, p.host.submitFile = some submit →
      submit.matchesConfig runner.environment runner.branch = true)
    (takes : Takes ledger.operationId resolution p.host.submitFile) (sound : next.Valid) :
    (commitResolution runner ledger resolution (resolution.observation ledger.operationId) (.ok next)).wp
      (fun shown _ => next.lifecycle = .ok shown) (fun _ _ => False) (fun _ => False) p := by
  rw [commitResolution, wp_bind, wp_onRunner]
  apply (succeeds_takes working valid configured takes).wp
  apply wp_mono (resolveUnknown_evidence _ _ valid) _ (fun _ _ _ => trivial) (fun _ _ => trivial)
  rintro observation h' ⟨rfl, later, -, -⟩
  have reliable : Reliable h' := (working.later later.env later.tick).reliable
  obtain ⟨shown, projected, -⟩ := sound.lifecycle
  rw [wp_ite, if_neg (by simp), wp_bind, wp_mapError, wp_ofExcept_ok, wp_bind]
  apply (succeeds_persistAfterEffect (p := { p with host := h' }) reliable sound).wp
  apply wp_mono persistAfterEffect_stored _ (fun _ _ => id) (fun _ => id)
  rintro _ _ -
  rw [wp_bind, projected]
  rfl

/-- The lifecycle shown of a record that the decision leads to. -/
theorem leadsTo_of_reached (valid : ledger.Valid) (reached : ledger.Reached decision)
    (projected : ledger.lifecycle = .ok shown) : decision.LeadsTo ledger.operationId shown := by
  obtain ⟨_, projected', own, phase, task⟩ := valid.lifecycle
  cases projected.symm.trans projected'
  cases decision with
  | adoptListedTask asked => exact ⟨own, task.trans reached.1⟩
  | abandonAfterReconciliation acknowledgement =>
      have abandoned : shown.phase = .abandonedUnknown := phase.trans reached
      rw [← own]
      cases shown <;> simp at abandoned
      rfl

/-- A record that the decision has led to answers it again. -/
theorem replayResolution_reached (valid : ledger.Valid) (reached : ledger.Reached decision)
    (names : decision.Names ledger.operationId) (reconciled : ledger.reconciliationGeneration ≠ 0)
    (projected : ledger.lifecycle = .ok shown) : replayResolution ledger decision = .ok shown := by
  have leads := leadsTo_of_reached valid reached projected
  obtain ⟨_, projected', -, phase, -⟩ := valid.lifecycle
  cases projected.symm.trans projected'
  have replays : replaysDecision decision shown = true := by
    cases decision with
    | adoptListedTask asked =>
        obtain ⟨-, status, polled⟩ := reached
        rw [polled] at phase
        obtain ⟨-, task⟩ := leads
        cases shown <;> cases status <;> simp at phase task <;> simp [replaysDecision, task]
    | abandonAfterReconciliation acknowledgement =>
        have abandoned : shown = .abandonedUnknown ledger.operationId := leads
        have named : acknowledgement.operationId = ledger.operationId := names
        simp [abandoned, replaysDecision, named]
  simp [replayResolution, projected, bind, Except.bind, replays, Nat.pos_of_ne_zero reconciled]

theorem resolveUnknown_returns (inv : ProcessInv False runner p) (working : Working p.host)
    (pursues : ProcessPursues op decision p) :
    (resolveUnknown runner op decision).wp (fun shown _ => decision.LeadsTo op shown) (fun _ _ => False)
      (fun _ => False) p := by
  have submits := inv.host.tidy.valid
  have configured : ∀ submit, p.host.submitFile = some submit →
      submit.matchesConfig runner.environment runner.branch = true := fun _ found => inv.host.configured found
  obtain ⟨ledger, found, underway⟩ := pursues.memory
  have accounted := inv.accounted found
  have valid := accounted.valid
  obtain ⟨own, reconciled, ⟨unknown, permits⟩ | ⟨reached, -⟩⟩ := underway
  · subst own
    cases decision with
    | adoptListedTask task =>
        rw [wp_congr (resolveUnknown_adopt_eq found unknown reconciled permits.1 permits.2),
          wp_bind, wp_mapError, wp_onHost]
        apply (succeeds_status working task).wp
        apply (readOnly_status task).wp _ (fun _ _ _ _ => trivial) (fun _ _ => trivial)
        intro status time later
        have recorded := recordStatus_unknown valid accounted.short unknown task status
        obtain ⟨sound, own, -, reached⟩ := reached_recordStatus valid reconciled recorded
        rw [recorded]
        apply wp_mono (commitResolution_returns (p := ⟨p.host.atTime time, p.state⟩)
          (working.later rfl later) submits configured pursues.host.takes sound) _ (fun _ _ => id) (fun _ => id)
        intro shown _ projected
        exact own ▸ leadsTo_of_reached sound reached projected
    | abandonAfterReconciliation acknowledgement =>
        have named : acknowledgement.operationId = ledger.operationId := pursues.host.names
        obtain ⟨op⟩ := acknowledgement
        subst named
        have recorded : ledger.recordAbandonedUnknown = .ok _ :=
          CloudLifecycleLedger.append_eq_ok.mpr ⟨accounted.short.room, by rw [unknown]; rfl, rfl⟩
        obtain ⟨sound, own, -, reached⟩ :=
          reached_recordAbandonedUnknown ⟨ledger.operationId⟩ valid unknown reconciled recorded
        rw [wp_congr (resolveUnknown_abandon_eq found unknown reconciled), recorded]
        apply wp_mono (commitResolution_returns working submits configured pursues.host.takes sound) _
          (fun _ _ => id) (fun _ => id)
        intro shown _ projected
        exact own ▸ leadsTo_of_reached sound reached projected
  · subst own
    obtain ⟨-, -, settled⟩ := Reached.settled reached
    obtain ⟨shown, projected, -⟩ := valid.lifecycle
    rw [resolveUnknown, wp_bind]
    apply wp_currentLedger _ fun missing => by simp [found] at missing
    intro other held
    cases found.symm.trans held
    rw [wp_ite, if_neg (by simp), wp_ite, if_pos settled,
      replayResolution_reached valid reached pursues.host.names reconciled projected]
    exact leadsTo_of_reached valid reached projected

/-! ## A decision that has passed -/

/-- The decision passes every check that is made on the record in memory and on the submit ledger. -/
structure Accepted (op : CloudSubmitOperationId) (decision : UnknownSubmitDecision) (p : Process)
    (ledger : CloudLifecycleLedger) : Prop where
  undecided : Undecided op p ledger
  permits : ledger.Permits decision
  names : decision.Names op
  takes : Takes op decision.resolution p.host.submitFile

/-- An accepted decision is pursued from the record in memory, and after a crash from the one in the
file if that is the same. -/
theorem Accepted.pursues (accepted : Accepted op decision p ledger) (file : p.host.lifecycleFile = some ledger) :
    ProcessPursues op decision p := by
  obtain ⟨⟨found, own, unknown, reconciled⟩, permits, names, takes⟩ := accepted
  have underway : Underway op decision ledger p.host.submitFile := ⟨own, reconciled, .inl ⟨unknown, permits⟩⟩
  exact ⟨⟨names, takes, ledger, file, underway⟩, ledger, found, underway⟩

theorem commitResolution_accepted (decision : UnknownSubmitDecision) (valid : SubmitFileValid p.host)
    (reaches : ∀ next, recorded = .ok next → next.Valid ∧ next.operationId = ledger.operationId ∧
      next.reconciliationGeneration ≠ 0 ∧ next.Reached decision) :
    (commitResolution runner ledger decision.resolution expected recorded).wp
      (fun shown _ => Takes ledger.operationId decision.resolution p.host.submitFile ∧
        decision.LeadsTo ledger.operationId shown) (fun _ _ => True) (fun _ => True) p := by
  apply wp_commitResolution
  apply wp_mono (resolveUnknown_evidence _ _ valid) _ (fun _ _ _ => trivial) (fun _ _ => trivial)
  rintro observation h' ⟨-, -, resolves, took⟩
  refine ⟨fun _ => trivial, fun next _ outcome => ?_⟩
  obtain ⟨sound, own, -, reached⟩ := reaches next outcome
  refine ⟨sound, fun shown projected => ?_⟩
  apply wp_mono persistAfterEffect_stored _ (fun _ _ => id) (fun _ => id)
  intro _ _ _
  exact ⟨resolves.takes took, own ▸ leadsTo_of_reached sound reached projected⟩

/-- A call that returns for an unknown submit had an accepted decision, and shows where it leads. -/
theorem resolveUnknown_accepted (inv : ProcessInv decisive runner p) (found : p.state.ledger = some ledger)
    (unknown : ledger.phase = .outcomeUnknown) :
    (resolveUnknown runner op decision).wp
      (fun shown _ => Accepted op decision p ledger ∧ decision.LeadsTo op shown) (fun _ _ => True)
      (fun _ => True) p := by
  have submits := inv.host.tidy.valid
  have valid := (inv.accounted found).valid
  apply wp_lifecycleResolveUnknown
  · exact fun _ _ => trivial
  · exact fun _ => trivial
  · intro other shown held _ settled _
    cases found.symm.trans held
    simp [unknown] at settled
  · intro other task status time undecided asked complete listed _
    cases found.symm.trans undecided.found
    obtain ⟨-, rfl, -, reconciled⟩ := id undecided
    subst asked
    apply wp_mono (commitResolution_accepted (.adoptListedTask task)
      (p := ⟨p.host.atTime time, p.state⟩) submits
      fun next recorded => reached_recordStatus valid reconciled recorded) _ (fun _ _ => id) (fun _ => id)
    rintro shown _ ⟨takes, leads⟩
    exact ⟨⟨undecided, ⟨complete, listed⟩, trivial, takes⟩, leads⟩
  · intro other undecided asked
    cases found.symm.trans undecided.found
    obtain ⟨-, rfl, -, reconciled⟩ := id undecided
    subst asked
    apply wp_mono (commitResolution_accepted (.abandonAfterReconciliation ⟨ledger.operationId⟩)
      submits fun next recorded => reached_recordAbandonedUnknown _ valid unknown reconciled recorded) _
      (fun _ _ => id) (fun _ => id)
    rintro shown _ ⟨takes, leads⟩
    exact ⟨⟨undecided, trivial, rfl, takes⟩, leads⟩

/-- The invariants do not look at what the storage will answer. -/
theorem ProcessInv.withStorage (inv : ProcessInv False runner p) :
    ProcessInv False runner p.withStorage := by
  have accounts : ∀ record, Accounts False p.host record → Accounts False p.withStorage.host record := by
    intro record accounts
    cases record with
    | none => exact accounts
    | some ledger =>
        obtain ⟨valid, short, issued, coherent⟩ := id accounts
        exact ⟨valid, short, issued, coherent⟩
  refine ⟨⟨False.elim, ?_, accounts _ inv.host.file⟩, accounts _ inv.memory⟩
  intro submit found
  obtain ⟨valid, issued, environment, branch⟩ := inv.host.tidy submit found
  exact ⟨valid, issued, environment, branch⟩

/-- The decision of a call that returns, or that only the storage keeps from returning, is accepted. -/
theorem accepted_of_persists (inv : ProcessInv False runner p)
    (found : p.state.ledger = some ledger) (unknown : ledger.phase = .outcomeUnknown)
    (persists : Persists runner op decision p) : Accepted op decision p ledger := by
  rcases persists with ⟨shown, p', ran⟩ | ⟨shown, p', ran⟩
  · exact (wp_ok (resolveUnknown_accepted inv found unknown) ran).1
  · have inv' := inv.withStorage
    obtain ⟨⟨⟨_, own, _, reconciled⟩, permits, names, takes⟩, -⟩ :=
      wp_ok (resolveUnknown_accepted inv' found unknown) ran
    exact ⟨⟨found, own, unknown, reconciled⟩, permits, names, takes⟩

/-! ## Another decision -/

/-- The submit ledger ends with one decision at most. -/
theorem TookIn.decides (took : TookIn op decision.resolution file) (names : decision.Names op)
    (took' : TookIn op other.resolution file) (names' : other.Names op) : other = decision := by
  obtain ⟨submit, found, -, ended⟩ := took
  obtain ⟨submit', found', -, ended'⟩ := took'
  cases found.symm.trans found'
  cases decision with
  | adoptListedTask task =>
      cases other with
      | adoptListedTask task' =>
          rw [Option.some.inj (ended'.2.symm.trans ended.2)]
      | abandonAfterReconciliation acknowledgement' =>
          exact absurd (ended.1.symm.trans ended') (by simp)
  | abandonAfterReconciliation acknowledgement =>
      cases other with
      | adoptListedTask task' => exact absurd (ended.symm.trans ended'.1) (by simp)
      | abandonAfterReconciliation acknowledgement' =>
          obtain ⟨own⟩ := acknowledgement
          obtain ⟨own'⟩ := acknowledgement'
          have same : own' = own := Eq.trans names' (Eq.symm names)
          rw [same]

/-- What a replayed decision finds: a record that it leads to. -/
theorem reached_of_replayed (valid : ledger.Valid) (replayed : replayResolution ledger decision = .ok shown) :
    ledger.Reached decision ∧ decision.Names ledger.operationId := by
  obtain ⟨_, projected, own, phase, task⟩ := valid.lifecycle
  have replays : replaysDecision decision shown = true := by
    simp only [replayResolution, replayResolution_eq_ok replayed, bind, Except.bind] at replayed
    split at replayed
    · rename_i passed
      exact passed.2
    · cases replayed
  cases (replayResolution_eq_ok replayed).symm.trans projected
  cases decision with
  | adoptListedTask asked =>
      have led : shown.taskId = some asked ∧ Polled shown.phase := by
        cases shown with
        | pending op named => exact ⟨congrArg some (beq_iff_eq.mp replays).symm, .pending, rfl⟩
        | ready op named => exact ⟨congrArg some (beq_iff_eq.mp replays).symm, .ready, rfl⟩
        | applied op named => exact ⟨congrArg some (beq_iff_eq.mp replays).symm, .applied, rfl⟩
        | providerError op named => exact ⟨congrArg some (beq_iff_eq.mp replays).symm, .error, rfl⟩
        | _ => cases replays
      exact ⟨⟨task.symm.trans led.1, phase ▸ led.2⟩, trivial⟩
  | abandonAfterReconciliation acknowledgement =>
      cases shown with
      | abandonedUnknown op => exact ⟨phase.symm, (beq_iff_eq.mp replays).trans own⟩
      | _ => cases replays

/-- A record that a decision leads to names the one in the submit ledger. -/
theorem tookIn_of_reached (accounted : Accounted False p.host ledger) (trails : Trails ledger p.host.submitFile)
    (took : TookIn ledger.operationId resolution p.host.submitFile)
    (reached : ledger.Reached decision) : TookIn ledger.operationId decision.resolution p.host.submitFile := by
  obtain ⟨submit, found, own, ended⟩ := took
  cases decision with
  | adoptListedTask task =>
      obtain ⟨named, status, phase⟩ := reached
      obtain ⟨task', named', submit', found', -, recorded, latest⟩ :=
        accounted.coherent.task (by rw [phase]; cases status <;> rfl)
      cases named.symm.trans named'
      cases found.symm.trans found'
      refine ⟨submit, found, own, ?_, recorded⟩
      rcases latest with direct | adopted
      · cases resolution with
        | adoptListedTask other => exact ended.1
        | explicitlyAbandon => exact absurd (direct.symm.trans ended) (by simp)
      · exact adopted
  | abandonAfterReconciliation acknowledgement =>
      exact ⟨submit, found, own, trails.abandoned reached submit found own⟩

/-- What a refused decision leaves: both files as they were. -/
def SameFiles (h h' : Host) : Prop := h'.submitFile = h.submitFile ∧ h'.lifecycleFile = h.lifecycleFile

theorem commitResolution_conflict {resolution other : CloudUnknownResolution} (valid : SubmitFileValid p.host)
    (took : TookIn ledger.operationId resolution p.host.submitFile)
    (different : ¬ TookIn ledger.operationId other p.host.submitFile) :
    (commitResolution runner ledger other expected recorded).wp (fun _ _ => False)
      (fun _ p' => SameFiles p.host p'.host ∧ p'.state = p.state) (fun p' => SameFiles p.host p'.host) p := by
  apply wp_commitResolution
  apply wp_mono (wp_and (resolveUnknown_evidence _ _ valid)
    (runner_frame p.host fun _ beyond => keeps_resolveUnknown beyond runner _ _))
  · rintro observation h' ⟨⟨-, -, resolves, applied⟩, -⟩
    rw [took.kept resolves] at applied
    exact absurd applied different
  · intro error h' spec
    exact ⟨⟨took.kept spec.1, spec.2.2⟩, rfl⟩
  · intro h' spec
    exact ⟨took.kept spec.1, spec.2.2⟩

/-- A decision other than the one in the submit ledger is refused, and neither ledger changes. -/
theorem resolveUnknown_conflict (inv : ProcessInv False runner p) (trails : ProcessTrails p)
    (took : TookIn op decision.resolution p.host.submitFile) (names : decision.Names op)
    (different : other ≠ decision) :
    (resolveUnknown runner op other).wp (fun _ _ => False)
      (fun _ p' => SameFiles p.host p'.host ∧ p'.state = p.state) (fun p' => SameFiles p.host p'.host) p := by
  have apart : other.Names op → ¬ TookIn op other.resolution p.host.submitFile := fun named applied =>
    different (took.decides names applied named)
  have submits := inv.host.tidy.valid
  apply wp_lifecycleResolveUnknown
  · exact fun _ _ => ⟨⟨rfl, rfl⟩, rfl⟩
  · exact fun _ => ⟨rfl, rfl⟩
  · intro ledger shown found own _ replayed
    subst own
    have accounted := inv.accounted found
    obtain ⟨reached, named⟩ := reached_of_replayed accounted.valid replayed
    exact apart named (tookIn_of_reached accounted (trails.memory ledger found) took reached)
  · intro ledger task status time undecided asked _ _ _
    obtain ⟨-, rfl, -, -⟩ := undecided
    subst asked
    exact commitResolution_conflict (p := ⟨p.host.atTime time, p.state⟩) submits took (apart trivial)
  · intro ledger undecided asked
    obtain ⟨-, rfl, -, -⟩ := undecided
    subst asked
    exact commitResolution_conflict submits took (apart rfl)

end

/-! ## Runs -/

namespace Machine

section

variable {runner : CloudTaskRunner} {env : Nat → Answers} {op : CloudSubmitOperationId}
  {decision : UnknownSubmitDecision} {machine machine' : Machine} {p : Process} {flight : Option Flight}

def Pursuing (op : CloudSubmitOperationId) (decision : UnknownSubmitDecision) : Machine → Prop
  | .down h => HostPursues op decision h
  | .up p _ => ProcessPursues op decision p

theorem pursuing_step {call : Call} (inv : MachineInv False runner machine)
    (pursuing : machine.Pursuing op decision) (between : call.Between op decision)
    (stepped : machine.step runner call = some machine') : machine'.Pursuing op decision := by
  rcases between with rfl | rfl | rfl
  · cases machine with
    | down h => cases stepped
    | up p flight =>
        cases stepped
        exact pursuing.host
  · cases machine with
    | down h =>
        refine restart_spec ?_ stepped
        exact fromRunner_pursuing (p := ⟨h, ⟨none, none, 0⟩⟩) inv pursuing
    | up p flight => cases stepped
  · cases machine with
    | down h => cases stepped
    | up p flight =>
        cases stepped
        apply Machine.after_spec
        exact resolveUnknown_pursuing inv.1 pursuing

theorem pursuing_run {calls : List Call} (reach : (system runner env).Reachable machine)
    (pursuing : machine.Pursuing op decision) (between : ∀ call ∈ calls, call.Between op decision)
    (ran : (system runner env).run machine calls = some machine') : machine'.Pursuing op decision := by
  induction calls generalizing machine with
  | nil =>
      cases ran
      exact pursuing
  | cons call calls ih =>
      obtain ⟨next, stepped, rest⟩ := Option.bind_eq_some_iff.mp ran
      apply ih (.step reach trivial stepped) _ _ rest
      · exact pursuing_step (machineInv_reachable False.elim reach) pursuing
          (between call (List.mem_cons_self ..)) stepped
      · exact fun later inside => between later (List.mem_cons_of_mem call inside)

/-- A decision on an unknown submit can be repeated. Let the record in memory be the one in the file
when the decision is made, and let the call return or be kept from it by the storage. Whatever
crashes, new processes and further attempts follow, once the files work and the status can be read
the decision returns and leads where it leads. And in every state in which the submit ledger has
applied a decision, every other decision is refused and changes neither ledger. -/
theorem resolution_repeats (reach : (system runner env).Reachable (.up p flight)) :
    (∀ ledger, p.state.ledger = some ledger → ledger.phase = .outcomeUnknown → p.Synced →
      Persists runner op decision p →
      (∀ shown p', resolveUnknown runner op decision p = (.ok shown, p') → decision.LeadsTo op shown) ∧
      ∀ calls p' flight', (∀ call ∈ calls, call.Between op decision) →
        (system runner env).run (.up p flight) (.resolveUnknown op decision :: calls) = some (.up p' flight') →
        Working p'.host →
        ∃ shown p'', resolveUnknown runner op decision p' = (.ok shown, p'') ∧ decision.LeadsTo op shown) ∧
    ∀ other, Applied op decision p.host → other ≠ decision →
      ∀ outcome p', resolveUnknown runner op other p = (outcome, p') →
        (outcome = .crashed ∨ ∃ error, outcome = .error error ∧ p'.state = p.state) ∧
        SameFiles p.host p'.host := by
  have inv := machineInv_reachable False.elim reach
  constructor
  · intro ledger found unknown synced persists
    have accepted := accepted_of_persists inv.1 found unknown persists
    constructor
    · intro shown p' ran
      exact (wp_ok (resolveUnknown_accepted inv.1 found unknown) ran).2
    · intro calls p' flight' between ran working
      have pursuing : Pursuing op decision (.up p flight) :=
        accepted.pursues (synced ledger found (.inr unknown))
      have pursuing' : Pursuing op decision (.up p' flight') := by
        apply pursuing_run reach pursuing _ ran
        intro call inside
        rcases List.mem_cons.mp inside with rfl | later
        · exact .inr (.inr rfl)
        · exact between call later
      have inv' := machineInv_reachable False.elim (reach.run ran)
      have returns := resolveUnknown_returns inv'.1 working pursuing'
      exact wp_returns returns
  · intro other applied different outcome p' ran
    have refused := resolveUnknown_conflict inv.1 (trails_reachable reach) applied.2 applied.1 different
    simp only [Proc.wp, ran] at refused
    rcases outcome with shown | error | _
    · exact refused.elim
    · exact ⟨.inr ⟨error, rfl, refused.2⟩, refused.1⟩
    · exact ⟨.inl rfl, refused⟩

/-! The adoption of the one listed task, repeated. -/

/-- The process that is asked first and the one that is asked again. -/
def repeated (env : Nat → Answers) (calls later : List Call) : Option (Process × Process) := do
  let first ← (system ⟨⟨[]⟩, ⟨[]⟩⟩ env).run (.down (Host.fresh env)) calls
  let second ← (system ⟨⟨[]⟩, ⟨[]⟩⟩ env).run first (adoption :: later)
  match first, second with
  | .up p _, .up p' _ => return (p, p')
  | _, _ => none

theorem repeated_runs {calls later : List Call} {p' : Process} (ran : repeated env calls later = some (p, p')) :
    ∃ flight flight', (system ⟨⟨[]⟩, ⟨[]⟩⟩ env).Reachable (.up p flight) ∧
      (system ⟨⟨[]⟩, ⟨[]⟩⟩ env).run (.up p flight) (adoption :: later) = some (.up p' flight') := by
  simp only [repeated, Option.bind_eq_bind, Option.bind_eq_some_iff] at ran
  obtain ⟨first, reached, second, reached', same⟩ := ran
  split at same <;> cases same
  exact ⟨_, _, .run (.initial rfl) reached, reached'⟩

/-- From a time on, all is well. -/
theorem working_listsOneTask {time : Nat} (reach : (system runner env).Reachable (.up p flight))
    (later : time ≤ p.host.tick) (answers : ∀ now, time ≤ now → env now = listsOneTask) : Working p.host := by
  have same : p.host.env = env := env_reachable reach
  intro now after
  rw [same, answers now (Nat.le_trans later after)]
  exact ⟨rfl, rfl, rfl, fun _ => rfl, fun _ => rfl, rfl, rfl, ⟨_, rfl⟩, rfl, rfl, rfl⟩

/-- The adoption is made, the process dies, and the next one returns the same; it abandons nothing. -/
theorem adoption_repeats :
    ∃ p flight p' flight' shown p'', (system ⟨⟨[]⟩, ⟨[]⟩⟩ fun _ => listsOneTask).Reachable (.up p flight) ∧
      p.Synced ∧ Persists ⟨⟨[]⟩, ⟨[]⟩⟩ adoptedOperation (.adoptListedTask adoptedTask) p ∧
      (system ⟨⟨[]⟩, ⟨[]⟩⟩ fun _ => listsOneTask).run (.up p flight) [adoption, .crash, .restart] =
        some (.up p' flight') ∧ Working p'.host ∧
      resolveUnknown ⟨⟨[]⟩, ⟨[]⟩⟩ adoptedOperation (.adoptListedTask adoptedTask) p' = (.ok shown, p'') ∧
      shown.operationId = adoptedOperation ∧ shown.taskId = some adoptedTask ∧
      Applied adoptedOperation (.adoptListedTask adoptedTask) p'.host ∧
      ∀ outcome last, resolveUnknown ⟨⟨[]⟩, ⟨[]⟩⟩ adoptedOperation (.abandonAfterReconciliation ⟨adoptedOperation⟩)
        p' = (outcome, last) → SameFiles p'.host last.host := by
  have found : (repeated (fun _ => listsOneTask) [.restart, .startBegin ⟨['p']⟩, .startSubmit, .startCommit,
      .reconcileUnknown] [.crash, .restart]).map (fun states =>
        (states.1.state.ledger.map (·.phase), decide (states.1.host.lifecycleFile = states.1.state.ledger),
          decide (Persists ⟨⟨[]⟩, ⟨[]⟩⟩ adoptedOperation (.adoptListedTask adoptedTask) states.1),
          decide (states.2.host.submitFile.map (fun submit => (submit.operationId, submit.latest, submit.taskId)) =
            some (adoptedOperation, .taskAdopted, some adoptedTask)))) =
      some (some .outcomeUnknown, true, true, true) := by
    decide +kernel
  obtain ⟨⟨p, p'⟩, ran, seen⟩ := Option.map_eq_some_iff.mp found
  simp only [Prod.mk.injEq, decide_eq_true_eq] at seen
  obtain ⟨unknown, file, persists, took⟩ := seen
  obtain ⟨ledger, held, unknown⟩ := Option.map_eq_some_iff.mp unknown
  obtain ⟨submit, stored, took⟩ := Option.map_eq_some_iff.mp took
  simp only [Prod.mk.injEq] at took
  obtain ⟨own, adopted, named⟩ := took
  obtain ⟨flight, flight', reach, again⟩ := repeated_runs ran
  have synced : p.Synced := fun _ here _ => file.trans here
  have reach' := reach.run again
  have working : Working p'.host := working_listsOneTask reach' (Nat.zero_le _) fun _ _ => rfl
  have applied : Applied adoptedOperation (.adoptListedTask adoptedTask) p'.host :=
    ⟨trivial, submit, stored, own, adopted, named⟩
  obtain ⟨shown, p'', returned, leads⟩ := ((resolution_repeats reach).1 ledger held unknown synced persists).2
    [.crash, .restart] p' flight' (by simp [Call.Between]) again working
  refine ⟨p, flight, p', flight', shown, p'', reach, synced, persists, again, working, returned, leads.1,
    leads.2, applied, ?_⟩
  intro outcome last refused
  exact ((resolution_repeats reach').2 _ applied (by simp) outcome last refused).2

/-- The answers up to and with a first reconciliation, which is complete; a second one that is not and
whose copy is stored while the write is reported to have failed; a decision that the submit ledger
cannot store; and then all is well. -/
def unsyncedCopy (time : Nat) : Answers :=
  if time < 32 then listsOneTask
  else if time < 43 then { interruptedListing (39 ≤ time) with writeLifecycle := fun _ => .storedUnsynced }
  else if time < 51 then { listsOneTask with writeSubmit := fun _ => .refused }
  else listsOneTask

/-- The decision passes on the copy in memory and fails to be stored; the new process has the other
copy and refuses it. -/
theorem adoption_lost_in_restart :
    ∃ p flight p' flight' ledger, (system ⟨⟨[]⟩, ⟨[]⟩⟩ unsyncedCopy).Reachable (.up p flight) ∧
      p.state.ledger = some ledger ∧ ledger.phase = .outcomeUnknown ∧
      Persists ⟨⟨[]⟩, ⟨[]⟩⟩ adoptedOperation (.adoptListedTask adoptedTask) p ∧
      (system ⟨⟨[]⟩, ⟨[]⟩⟩ unsyncedCopy).run (.up p flight) [adoption, .crash, .restart] = some (.up p' flight') ∧
      Working p'.host ∧
      ¬ ∃ shown p'', resolveUnknown ⟨⟨[]⟩, ⟨[]⟩⟩ adoptedOperation (.adoptListedTask adoptedTask) p' =
        (.ok shown, p'') := by
  have found : (repeated unsyncedCopy [.restart, .startBegin ⟨['p']⟩, .startSubmit, .startCommit,
      .reconcileUnknown, .reconcileUnknown] [.crash, .restart]).map (fun states =>
        (states.1.state.ledger.map (·.phase),
          decide (Persists ⟨⟨[]⟩, ⟨[]⟩⟩ adoptedOperation (.adoptListedTask adoptedTask) states.1),
          states.2.host.tick,
          decide (Proc.Succeeds (resolveUnknown ⟨⟨[]⟩, ⟨[]⟩⟩ adoptedOperation (.adoptListedTask adoptedTask))
            states.2))) = some (some .outcomeUnknown, true, 55, false) := by
    decide +kernel
  obtain ⟨⟨p, p'⟩, ran, seen⟩ := Option.map_eq_some_iff.mp found
  simp only [Prod.mk.injEq, decide_eq_true_eq, decide_eq_false_iff_not] at seen
  obtain ⟨unknown, persists, tick, lost⟩ := seen
  obtain ⟨ledger, held, unknown⟩ := Option.map_eq_some_iff.mp unknown
  obtain ⟨flight, flight', reach, again⟩ := repeated_runs ran
  have well : ∀ now, 51 ≤ now → unsyncedCopy now = listsOneTask := by
    intro now later
    rw [unsyncedCopy, if_neg (by omega), if_neg (by omega), if_neg (by omega)]
  exact ⟨p, flight, p', flight', ledger, reach, held, unknown, persists, again,
    working_listsOneTask (reach.run again) (by omega) well, lost⟩

end

end Machine

end Codebox.Cloud
