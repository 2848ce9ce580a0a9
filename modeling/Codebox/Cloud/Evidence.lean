import Codebox.Cloud.Memory
import Codebox.Cloud.Recovery

/-! # The evidence that an adoption rests on

A reconciliation is recorded twice: in the submit ledger and then, as a copy, in the lifecycle
ledger. An adoption looks for the task in both and for completeness in the copy only. The copy
counts the reconciliations it has seen, and the history of the submit ledger has one entry for each,
so that it can be told whether the copy is the last one.
-/

namespace Codebox.Cloud

open Codebox.Support Proc Codebox.Host

/-- How many reconciliations the record has seen. -/
def CloudSubmitLedger.reconciliations (submit : CloudSubmitLedger) : Nat :=
  submit.history.count .reconciliationObserved

/-- The lifecycle record has seen no reconciliation that the submit record has not; and if it has
seen them all, it has the tasks and the completeness of the last one. -/
structure CopyOf (ledger : CloudLifecycleLedger) (submit : CloudSubmitLedger) : Prop where
  behind : ledger.reconciliationGeneration ≤ submit.reconciliations
  same : ledger.reconciliationGeneration = submit.reconciliations → ledger.reconciliationGeneration ≠ 0 →
    ledger.candidateTaskIds = submit.candidateTaskIds ∧
      ledger.reconciliationComplete = submit.reconciliationComplete

/-- What a lifecycle record takes from the submit file: the reconciliations of an unknown submit, and
the end of an abandoned one. -/
structure Trails (ledger : CloudLifecycleLedger) (file : Option CloudSubmitLedger) : Prop where
  copy : ledger.phase = .outcomeUnknown → ∀ submit, file = some submit → CopyOf ledger submit
  abandoned : ledger.phase = .abandonedUnknown → ∀ submit, file = some submit →
    submit.operationId = ledger.operationId → submit.latest = .explicitlyAbandoned

/-- A later record of the operation: it has seen another reconciliation, or it shows the last one as
before; and an abandonment is final. -/
structure CloudSubmitLedger.GrowsTo (submit submit' : CloudSubmitLedger) : Prop where
  own : submit'.operationId = submit.operationId
  closed : submit.latest = .explicitlyAbandoned → submit'.latest = .explicitlyAbandoned
  evidence : submit.reconciliations < submit'.reconciliations ∨
    submit'.reconciliations = submit.reconciliations ∧
      submit'.candidateTaskIds = submit.candidateTaskIds ∧
      submit'.reconciliationComplete = submit.reconciliationComplete

def Grows (before after : Option CloudSubmitLedger) : Prop :=
  ∀ submit', after = some submit' → ∃ submit, before = some submit ∧ submit.GrowsTo submit'

section

variable {ledger : CloudLifecycleLedger} {submit submit' : CloudSubmitLedger} {a b c : Option CloudSubmitLedger}

theorem Grows.refl (file : Option CloudSubmitLedger) : Grows file file := by
  intro submit found
  exact ⟨submit, found, rfl, id, .inr ⟨rfl, rfl, rfl⟩⟩

theorem Trails.grows (trails : Trails ledger a) (grows : Grows a b) : Trails ledger b := by
  constructor
  · intro unknown after found
    obtain ⟨before, start, -, -, step⟩ := grows after found
    obtain ⟨behind, same⟩ := trails.copy unknown before start
    rcases step with more | ⟨count, tasks, complete⟩
    · exact ⟨by omega, by omega⟩
    · constructor
      · rw [count]
        exact behind
      · rw [count, tasks, complete]
        exact same
  · intro abandoned after found own
    obtain ⟨before, start, same, closed, -⟩ := grows after found
    exact closed (trails.abandoned abandoned before start (same ▸ own))

/-- An entry that is no reconciliation leaves the evidence as it is. -/
theorem grows_entry {phase : CloudLedgerPhase} (other : phase ≠ .reconciliationObserved)
    (unclosed : submit.latest ≠ .explicitlyAbandoned)
    (same : submit'.operationId = submit.operationId) (history : submit'.history = submit.history ++ [phase])
    (tasks : submit'.candidateTaskIds = submit.candidateTaskIds)
    (complete : submit'.reconciliationComplete = submit.reconciliationComplete) :
    Grows (some submit) (some submit') := by
  rintro _ ⟨⟩
  refine ⟨submit, rfl, same, fun closed => absurd closed unclosed, .inr ⟨?_, tasks, complete⟩⟩
  rw [CloudSubmitLedger.reconciliations, history, List.count_append, List.count_singleton]
  simp [CloudSubmitLedger.reconciliations, other]

/-- Another reconciliation is in the file, after everything that was there before. -/
theorem Grows.reconciled (grows : Grows a (some submit)) (unknown : submit.latest.isUnknown = true)
    (same : submit'.operationId = submit.operationId)
    (history : submit'.history = submit.history ++ [.reconciliationObserved]) :
    Grows a (some submit') ∧ ∀ first, a = some first → first.reconciliations < submit'.reconciliations := by
  have next : submit'.reconciliations = submit.reconciliations + 1 := by
    rw [CloudSubmitLedger.reconciliations, history, List.count_append, List.count_singleton_self]
    rfl
  obtain ⟨first, start, own, closed, step⟩ := grows submit rfl
  have more : first.reconciliations < submit'.reconciliations := by
    rcases step with more | ⟨count, -, -⟩ <;> omega
  constructor
  · rintro _ ⟨⟩
    refine ⟨first, start, same.trans own, ?_, .inl more⟩
    intro abandoned
    rw [closed abandoned] at unknown
    cases unknown
  · intro other here
    cases start.symm.trans here
    exact more

theorem grows_classify (unfinished : submit.latest.isOpen = true) : Grows (some submit) (some submit.classify) := by
  refine grows_entry ?_ ?_ rfl (rfl : _ = submit.history ++ [submit.latest.classified]) rfl rfl
  · cases phase : submit.latest <;> simp [phase, CloudLedgerPhase.classified] at unfinished ⊢
  · cases phase : submit.latest <;> simp [phase] at unfinished ⊢

theorem Classified.grows {h h' : Host} (classified : Classified h h') : Grows h.submitFile h'.submitFile := by
  cases classified with
  | same time later => exact .refl _
  | closed submit time later current unfinished => exact current ▸ grows_classify unfinished

end

/-! ## What the runner's calls do to the evidence -/

/-- A reconciliation that returns has made the entry that it reports. -/
def NewlyReconciled (before after : Option CloudSubmitLedger) (reported : CloudReconciliation) : Prop :=
  ∃ submit', after = some submit' ∧ submit'.candidateTaskIds = reported.tasks.map CloudTaskSummary.id ∧
    submit'.reconciliationComplete = some reported.complete ∧
    ∀ submit, before = some submit → submit.reconciliations < submit'.reconciliations

/-- The file records the adoption of a task, and it did not before. -/
def Adopts (before after : Option CloudSubmitLedger) (op : CloudSubmitOperationId) (task : CloudTaskId) : Prop :=
  (∀ submit, before = some submit → submit.latest ≠ .taskAdopted) ∧
    ∃ submit', after = some submit' ∧ submit'.operationId = op ∧ submit'.latest = .taskAdopted ∧
      submit'.taskId = some task

variable {op : CloudSubmitOperationId} {file : Option CloudSubmitLedger} {ledger : CloudLifecycleLedger}
  {task : CloudTaskId} {observation : CloudSubmitObservation}

theorem adopts_iff {before after : Option CloudSubmitLedger} :
    Adopts before after op task ↔ before.map CloudSubmitLedger.latest ≠ some .taskAdopted ∧
      after.map (fun submit => (submit.operationId, submit.latest, submit.taskId)) =
        some (op, .taskAdopted, some task) := by
  simp [Adopts, Option.map_eq_some_iff, Prod.ext_iff]

instance (before after : Option CloudSubmitLedger) (op : CloudSubmitOperationId) (task : CloudTaskId) :
    Decidable (Adopts before after op task) :=
  decidable_of_iff' _ adopts_iff

section

variable {runner : CloudTaskRunner} {h h' : Host}

theorem reconcileUnknown_evidence (valid : SubmitFileValid h) :
    runner.reconcileUnknown.wp
      (fun reported h' => Grows h.submitFile h'.submitFile ∧ NewlyReconciled h.submitFile h'.submitFile reported)
      (fun _ h' => Grows h.submitFile h'.submitFile) (fun h' => Grows h.submitFile h'.submitFile) h := by
  apply wp_reconcileUnknown runner valid (fun _ _ classified => classified.grows)
    (fun _ classified => classified.grows)
  intro h' submit next tasks complete classified current _ unknown recorded _
  obtain ⟨-, -, -, -, shape⟩ := CloudSubmitLedger.recordReconciliation_eq_ok.mp recorded
  have entered : next.history = submit.history ++ [.reconciliationObserved] := by rw [shape]
  obtain ⟨grown, more⟩ := Grows.reconciled (current ▸ classified.grows) unknown (by rw [shape]) entered
  exact ⟨⟨grown, next, rfl, by rw [shape], by rw [shape], more⟩, fun _ => grown⟩

/-- An operation is observed as abandoned only on a file that says so. -/
def ShowsAbandoned (observation : CloudSubmitObservation) (file : Option CloudSubmitLedger) : Prop :=
  observation = .explicitlyAbandoned → ∀ submit, file = some submit → submit.latest = .explicitlyAbandoned

theorem classifyObservation_abandoned (classified : CloudTaskRunner.classifyObservation op file = .ok observation) :
    ShowsAbandoned observation file := by
  rintro rfl submit rfl
  unfold CloudTaskRunner.classifyObservation at classified
  simp only at classified
  split at classified
  · split at classified <;> cases classified
  · cases phase : submit.latest <;> simp only [phase] at classified <;> try cases classified
    case taskRecorded | taskAdopted =>
      cases recorded : CloudTaskRunner.recordedTaskOrInvalid submit <;>
        simp [recorded, Except.map] at classified
    rfl

theorem observeSubmit_evidence (op : CloudSubmitOperationId) (valid : SubmitFileValid h) :
    (runner.observeSubmit op).wp
      (fun observation h' => Grows h.submitFile h'.submitFile ∧ ShowsAbandoned observation h'.submitFile)
      (fun _ h' => Grows h.submitFile h'.submitFile) (fun h' => Grows h.submitFile h'.submitFile) h := by
  apply recovered_spec runner valid
  · intro _ _ _ classified
    exact classified.grows
  · intro _ classified
    exact classified.grows
  · intro h' classified _
    cases outcome : CloudTaskRunner.classifyObservation op h'.submitFile with
    | error _ => exact classified.grows
    | ok observation => exact ⟨classified.grows, classifyObservation_abandoned outcome⟩

/-- The file of the operation ends with this resolution. -/
def TookIn (op : CloudSubmitOperationId) (resolution : CloudUnknownResolution)
    (file : Option CloudSubmitLedger) : Prop :=
  ∃ submit, file = some submit ∧ submit.operationId = op ∧ submit.Took resolution

/-- What a resolution does to the file: nothing, or it classifies an open submit, or it records
itself. -/
inductive Resolves (op : CloudSubmitOperationId) (resolution : CloudUnknownResolution)
    (before : Option CloudSubmitLedger) : Option CloudSubmitLedger → Prop where
  | same : Resolves op resolution before before
  | classified (submit : CloudSubmitLedger) (current : before = some submit)
      (unfinished : submit.latest.isOpen = true) : Resolves op resolution before (some submit.classify)
  | decided (submit next : CloudSubmitLedger) (current : before = some submit)
      (own : submit.operationId = op) (recorded : submit.recordResolution resolution = .ok next) :
      Resolves op resolution before (some next)

section

variable {resolution : CloudUnknownResolution} {submit next : CloudSubmitLedger}
  {before after : Option CloudSubmitLedger}

theorem Classified.resolves (classified : Classified h h') :
    Resolves op resolution h.submitFile h'.submitFile := by
  cases classified with
  | same time later => exact .same
  | closed submit time later current unfinished => exact .classified submit current unfinished

theorem Resolves.grows (resolves : Resolves op resolution before after) : Grows before after := by
  cases resolves with
  | same => exact .refl _
  | classified submit current unfinished => exact current ▸ grows_classify unfinished
  | decided submit next current own recorded =>
      rw [current]
      have observed := recordResolution_observed recorded
      cases resolution with
      | adoptListedTask task =>
          obtain ⟨-, -, -, -, rfl⟩ := CloudSubmitLedger.recordAdoptedTask_eq_ok.mp recorded
          exact grows_entry (by simp) (by simp [observed]) rfl rfl rfl rfl
      | explicitlyAbandon =>
          obtain ⟨-, -, -, rfl⟩ := CloudSubmitLedger.recordExplicitlyAbandoned_eq_ok.mp recorded
          exact grows_entry (by simp) (by simp [observed]) rfl rfl rfl rfl

/-- An adoption is of the task asked for, by an operation whose last reconciliation listed it. -/
theorem Resolves.adopts {own : CloudSubmitOperationId} (resolves : Resolves op resolution before after)
    (adopts : Adopts before after own task) :
    own = op ∧ resolution = .adoptListedTask task ∧
      ∃ submit, before = some submit ∧ submit.operationId = op ∧ task ∈ submit.candidateTaskIds := by
  obtain ⟨unadopted, submit', found, same, adopted, named⟩ := adopts
  cases resolves with
  | same => exact absurd adopted (unadopted submit' found)
  | classified submit current unfinished =>
      cases found
      rw [CloudSubmitLedger.latest_classify] at adopted
      cases phase : submit.latest <;> simp [phase, CloudLedgerPhase.classified] at unfinished adopted
  | decided submit next current owned recorded =>
      cases found
      cases resolution with
      | adoptListedTask asked =>
          obtain ⟨-, -, listed, -, rfl⟩ := CloudSubmitLedger.recordAdoptedTask_eq_ok.mp recorded
          cases named
          exact ⟨same.symm.trans owned, rfl, submit, current, owned, listed⟩
      | explicitlyAbandon =>
          have closed := (took_recordResolution recorded).2
          rw [CloudSubmitLedger.Took, adopted] at closed
          cases closed

theorem resolveUnknown_evidence (op : CloudSubmitOperationId) (resolution : CloudUnknownResolution)
    (valid : SubmitFileValid h) :
    (runner.resolveUnknown op resolution).wp
      (fun observation h' => observation = resolution.observation op ∧ Later h h' ∧
        Resolves op resolution h.submitFile h'.submitFile ∧ TookIn op resolution h'.submitFile)
      (fun _ h' => Resolves op resolution h.submitFile h'.submitFile)
      (fun h' => Resolves op resolution h.submitFile h'.submitFile) h := by
  apply wp_resolveUnknown runner op resolution valid (fun _ _ classified => classified.resolves)
    (fun _ classified => classified.resolves)
  · intro h' submit classified current own took
    exact ⟨rfl, classified.toLater, classified.resolves, submit, current, own, took⟩
  · intro h' submit next classified current _ own recorded
    have start := classified.observed current (recordResolution_observed recorded)
    have decided : Resolves op resolution h.submitFile (some next) := .decided submit next start own recorded
    obtain ⟨same, took⟩ := took_recordResolution recorded
    exact ⟨⟨rfl, classified.toLater.store next, decided, next, rfl, same.trans own, took⟩, fun _ => decided⟩

end

end

/-! ## Both copies trail the submit file -/

/-- The record, if there is one, trails the submit file. -/
def Trailing (h : Host) (record : Option CloudLifecycleLedger) : Prop :=
  ∀ ledger, record = some ledger → Trails ledger h.submitFile

structure ProcessTrails (p : Process) : Prop where
  file : Trailing p.host p.host.lifecycleFile
  memory : Trailing p.host p.state.ledger

def MachineTrails : Machine → Prop
  | .down h => Trailing h h.lifecycleFile
  | .up p _ => ProcessTrails p

/-- A phase that says nothing of the submit file's evidence or end. -/
def Untied (phase : CloudLifecyclePhase) : Prop := phase ≠ .outcomeUnknown ∧ phase ≠ .abandonedUnknown

theorem untied_status (status : CloudTaskStatus) : Untied (phaseForStatus status) := by
  cases status <;> simp [Untied]

theorem trails_untied (untied : Untied ledger.phase) : Trails ledger file :=
  ⟨fun unknown => absurd unknown untied.1, fun abandoned => absurd abandoned untied.2⟩

theorem trails_unreconciled (none : ledger.reconciliationGeneration = 0)
    (unabandoned : ledger.phase ≠ .abandonedUnknown) : Trails ledger file := by
  constructor
  · intro _ submit _
    exact ⟨by omega, fun _ reconciled => absurd none reconciled⟩
  · intro abandoned
    exact absurd abandoned unabandoned

theorem trails_abandoned (phase : ledger.phase = .abandonedUnknown)
    (closed : ∀ submit, file = some submit → submit.latest = .explicitlyAbandoned) : Trails ledger file := by
  constructor
  · intro unknown
    rw [phase] at unknown
    cases unknown
  · intro _ submit found _
    exact closed submit found

section

variable {decisive : Prop} {runner : CloudTaskRunner} {p p' : Process} {h h' : Host} {next : CloudLifecycleLedger}
  {allowed : CloudLifecyclePhase → Prop}

theorem Trailing.grows {record : Option CloudLifecycleLedger} (trailing : Trailing h record)
    (grows : Grows h.submitFile h'.submitFile) : Trailing h' record := by
  intro ledger found
  exact (trailing ledger found).grows grows

theorem ProcessTrails.grows (trails : ProcessTrails p) (grows : Grows p.host.submitFile h.submitFile)
    (file : h.lifecycleFile = p.host.lifecycleFile) : ProcessTrails { p with host := h } := by
  constructor
  · rw [file]
    exact trails.file.grows grows
  · exact trails.memory.grows grows

theorem ProcessTrails.time (trails : ProcessTrails p) (time : Nat) :
    ProcessTrails { p with host := p.host.atTime time } := trails.grows (.refl _) rfl

/-- Whatever a call does, both copies trail the submit file afterwards. -/
def StaysTrailing {α : Type} (proc : OrchestratorProc α) (p : Process) : Prop :=
  proc.wp (fun _ => ProcessTrails) (fun _ => ProcessTrails) (fun p' => Trailing p'.host p'.host.lifecycleFile) p

/-- Writing a record that trails the submit file, however the write ends. -/
theorem wp_persist_trailing {onOk : Unit → Process → Prop} {onError : CloudLifecycleError → Process → Prop}
    {onCrash : Process → Prop} (trails : ProcessTrails p) (own : Trails next p.host.submitFile)
    (stored : ∀ host, host.submitFile = p.host.submitFile →
      ProcessTrails ⟨host, { p.state with ledger := some next }⟩ → onOk () { p with host := host })
    (failed : ∀ error host, host.submitFile = p.host.submitFile → ProcessTrails { p with host := host } →
      onError error { p with host := host })
    (died : ∀ host, host.submitFile = p.host.submitFile → Trailing host host.lifecycleFile →
      onCrash { p with host := host }) :
    (persist next).wp onOk onError onCrash p := by
  have newest : Trailing p.host (some next) := by
    rintro _ ⟨⟩
    exact own
  apply wp_persist_hosts
  · intro _ _
    exact stored _ rfl ⟨newest, newest⟩
  · intro error _
    exact failed error _ rfl ⟨newest, trails.memory⟩
  · intro error time
    exact failed error _ rfl (trails.time time)
  · intro time
    exact died _ rfl (trails.time time).file

/-- Every call that advances a record ends this way. -/
theorem ProcessTrails.commits (trails : ProcessTrails p) (own : Trails next p.host.submitFile) :
    Commits next ProcessTrails (fun _ => ProcessTrails) (fun p' => Trailing p'.host p'.host.lifecycleFile) p := by
  rw [Commits, persistAfterEffect, wp_mapError]
  exact wp_persist_trailing trails own (fun _ _ => id) (fun _ _ _ => id) fun _ _ => id

theorem inspect_trailing (inv : ProcessInv decisive runner p) (trails : ProcessTrails p) :
    StaysTrailing inspect p := by
  apply wp_inspect fun _ found => (inv.accounted found).valid
  · exact fun _ _ _ _ _ _ => trails
  · exact fun _ time _ => trails.time time
  · exact fun time => (trails.time time).file
  · intro ledger next task status shown time found _ _ recorded _
    have reached := (CloudLifecycleLedger.advances_recordStatus (inv.accounted found).valid recorded).2
    exact (trails.time time).commits (trails_untied (reached ▸ untied_status status))

theorem cancel_trailing (inv : ProcessInv decisive runner p) (trails : ProcessTrails p) :
    StaysTrailing cancel p := by
  apply wp_cancel fun _ found => (inv.accounted found).valid
  · exact fun _ _ _ _ _ _ => trails
  · exact fun _ => trails
  · exact fun _ _ _ _ _ => ⟨trails.file, trails.memory⟩
  · intro ledger next shown found _ known appended _
    have reached :=
      (CloudLifecycleLedger.advances_append (inv.accounted found).valid (by simp [known]) appended).2
    exact trails.commits (trails_untied (by simp [Untied, reached]))

/-- The reconciliation that the submit file has just recorded is the one that is copied. -/
theorem Trails.reconciled {reported : CloudReconciliation} {before after : Option CloudSubmitLedger}
    (trails : Trails ledger before) (unknown : ledger.phase = .outcomeUnknown) (present : before.isSome = true)
    (reconciled : NewlyReconciled before after reported)
    (recorded : ledger.recordReconciliation (reported.tasks.map CloudTaskSummary.id) reported.complete = .ok next) :
    Trails next after := by
  obtain ⟨submit, found⟩ := Option.isSome_iff_exists.mp present
  obtain ⟨submit', stored, tasks, complete, more⟩ := reconciled
  have behind := (trails.copy unknown submit found).behind
  have counted := more submit found
  obtain ⟨-, -, -, -, rfl⟩ := CloudLifecycleLedger.recordReconciliation_eq_ok.mp recorded
  constructor
  · intro _ last here
    cases stored.symm.trans here
    constructor
    · simp only
      omega
    · intro _ _
      exact ⟨tasks.symm, complete.symm⟩
  · intro abandoned
    rw [unknown] at abandoned
    cases abandoned

theorem reconcileUnknown_trailing (inv : ProcessInv decisive runner p) (trails : ProcessTrails p) :
    StaysTrailing (reconcileUnknown runner) p := by
  apply wp_lifecycleReconcileUnknown fun _ => trails
  intro ledger found unknown
  apply wp_mono (wp_and (reconcileUnknown_evidence inv.host.tidy.valid)
    (runner_frame p.host fun _ beyond => keeps_reconcileUnknown beyond runner))
  · rintro reported h' ⟨⟨grows, reconciled⟩, frame⟩
    have later := trails.grows grows frame.2
    refine ⟨fun _ => later, fun next _ recorded => ?_⟩
    obtain ⟨submit, owned, -⟩ := (inv.accounted found).coherent.unknown unknown
    exact later.commits
      ((trails.memory ledger found).reconciled unknown (by simp [owned]) reconciled recorded)
  · intro _ h' spec
    exact trails.grows spec.1 spec.2.2
  · intro h' spec
    exact (trails.grows spec.1 spec.2.2).file

/-- What a restart writes agrees with the file that it observed. -/
theorem repairedLedger_trails (accounted : Accounted decisive h ledger) (shows_ : ShowsAbandoned observation file)
    (repaired : repairedLedger ledger observation = .ok (some next)) : Trails next file := by
  have appended : ∀ {record : CloudLifecycleLedger} {phase : CloudLifecyclePhase},
      record.append phase = .ok next → next.phase = phase := by
    intro record phase grown
    obtain ⟨-, -, rfl⟩ := CloudLifecycleLedger.append_eq_ok.mp grown
    rfl
  cases repaired_of_ok repaired with
  | failed phase unsent grown => exact trails_untied (by simp [Untied, appended grown])
  | unknown phase grown =>
      obtain ⟨-, -, rfl⟩ := CloudLifecycleLedger.append_eq_ok.mp grown
      exact trails_unreconciled (accounted.valid.unreconciled_submitting accounted.short phase) (by simp)
  | named recorded =>
      have reached := (CloudLifecycleLedger.advances_recordStatus accounted.valid recorded).2
      exact trails_untied (reached ▸ untied_status .pending)
  | abandoned first grown => exact trails_abandoned (appended grown) (shows_ rfl)

theorem repairInterruptedState_trailing (inv : ProcessInv decisive runner p) (trails : ProcessTrails p) :
    StaysTrailing (repairInterruptedState runner) p := by
  apply wp_repairInterruptedState trails
  intro current found _
  apply wp_mono (wp_and (observeSubmit_evidence _ inv.host.tidy.valid)
    (runner_frame p.host fun _ beyond => keeps_observeSubmit beyond runner _))
  · intro observation h' spec
    have later := trails.grows spec.1.1 spec.2.2
    refine ⟨fun _ => later, later, fun repaired outcome => ?_⟩
    apply wp_persist_trailing later (repairedLedger_trails (inv.accounted found) spec.1.2 outcome)
    · exact fun _ _ => id
    · exact fun _ _ _ => id
    · exact fun _ _ => id
  · intro _ h' spec
    exact trails.grows spec.1 spec.2.2
  · intro h' spec
    exact (trails.grows spec.1 spec.2.2).file

theorem startBegin_trailing (inv : ProcessInv decisive runner p) (trails : ProcessTrails p) :
    StaysTrailing (startBegin runner) p := by
  apply wp_startBegin fun _ _ => trails
  intro _
  have later : ∀ h' : Host, Grows p.host.submitFile h'.submitFile →
      h'.lifecycleFile = p.host.lifecycleFile → ProcessTrails { p with host := h' } :=
    fun _ => trails.grows
  have valid : SubmitFileValid { p.host with issued := p.host.issued + 1 } := inv.host.tidy.valid
  apply wp_mono (wp_and (observeSubmit_evidence p.nextOperation valid)
    (runner_frame _ fun _ beyond => keeps_observeSubmit beyond runner p.nextOperation))
  · intro observation h' spec
    have later := later h' spec.1.1 spec.2.2
    refine ⟨fun _ _ => later, fun _ => ?_⟩
    apply wp_persist_trailing later (trails_untied (by simp [Untied, CloudLifecycleLedger.submitting]))
    · intro _ _ claimed
      exact ⟨claimed.file, claimed.memory⟩
    · exact fun _ _ _ => id
    · exact fun _ _ => id
  · intro _ h' spec
    exact later h' spec.1 spec.2.2
  · intro h' spec
    exact (later h' spec.1 spec.2.2).file

theorem startSubmit_trailing (ticket : StartTicket) (prompt : CloudPrompt) (claimed : Claimed ticket p) :
    (startSubmit runner ticket prompt).wp (fun _ => ProcessTrails) (fun _ _ => False)
      (fun p' => Trailing p'.host p'.host.lifecycleFile) p := by
  -- both copies are submitting, so nothing is looked at
  have unlooked : ∀ h' : Host, h'.lifecycleFile = p.host.lifecycleFile → ProcessTrails { p with host := h' } := by
    intro h' same
    constructor
    · intro ledger found
      cases (same.trans claimed.file).symm.trans found
      exact trails_untied (by simp [Untied, CloudLifecycleLedger.submitting])
    · intro ledger found
      cases claimed.memory.symm.trans found
      exact trails_untied (by simp [Untied, CloudLifecycleLedger.submitting])
  rw [startSubmit, wp_bind, wp_getState, wp_attempt, wp_onHost]
  apply wp_mono (runner_frame p.host fun _ beyond => keeps_submit beyond runner _ _)
  · intro _ h' frame
    exact unlooked h' frame.2
  · intro _ h' frame
    exact unlooked h' frame.2
  · intro h' frame
    exact (unlooked h' frame.2).file

theorem committed_unabandoned (result : Except CloudRunnerError CloudSubmission) :
    committedPhase result ≠ .abandonedUnknown := by
  unfold committedPhase
  split
  · simp
  · split
    · simp
    · split <;> simp

theorem startCommit_trailing {ticket : StartTicket} {result : Except CloudRunnerError CloudSubmission}
    (inv : ProcessInv decisive runner p) (answered : Answered decisive ticket result p) (trails : ProcessTrails p) :
    StaysTrailing (startCommit ticket result) p := by
  obtain ⟨projected, shown, -⟩ := (answered.accounted inv).valid.lifecycle
  rw [StaysTrailing, wp_congr (startCommit_eq answered)]
  simp only [commitStart, wp_bind, wp_ofExcept_ok, wp_attempt, persistAfterEffect,
    wp_mapError]
  apply wp_persist_trailing trails (trails_unreconciled rfl (committed_unabandoned result))
  · intro host _ committed
    simp only [shown, wp_ofExcept_ok]
    exact ⟨committed.file, committed.memory⟩
  · intro _ host _ kept
    exact ⟨kept.file, kept.memory⟩
  · exact fun _ _ => id

theorem fromRunner_trailing (inv : HostInv decisive runner p.host) (trailing : Trailing p.host p.host.lifecycleFile) :
    (fromRunner runner).wp (fun _ => ProcessTrails) (fun _ p' => Trailing p'.host p'.host.lifecycleFile)
      (fun p' => Trailing p'.host p'.host.lifecycleFile) p := by
  apply wp_fromRunner
  · intro time
    have kept : HostInv decisive runner (p.host.atTime time) := inv.onward (.time _ time)
    have loaded : ProcessInv decisive runner ⟨p.host.atTime time, ⟨p.host.lifecycleFile, none, 0⟩⟩ :=
      ⟨kept, kept.file⟩
    exact wp_mono (repairInterruptedState_trailing loaded ⟨trailing, trailing⟩) (fun _ _ => id)
      (fun _ _ repaired => repaired.file) (fun _ => id)
  · exact fun _ _ => trailing
  · exact fun _ => trailing

/-! ## Resolutions -/

/-- What the call has looked at when it adopts a task: completeness in memory, the task in both. -/
structure Backed (memory : Option CloudLifecycleLedger) (file : Option CloudSubmitLedger)
    (op : CloudSubmitOperationId) (task : CloudTaskId) : Prop where
  copy : ∃ ledger, memory = some ledger ∧ ledger.phase = .outcomeUnknown ∧
    ledger.reconciliationGeneration ≠ 0 ∧ ledger.reconciliationComplete = some true
  listed : ∃ submit, file = some submit ∧ submit.operationId = op ∧ task ∈ submit.candidateTaskIds

/-- An adoption since `p` was backed there. -/
def BackedSince (p p' : Process) (op : CloudSubmitOperationId) : Prop :=
  ∀ own task, Adopts p.host.submitFile p'.host.submitFile own task →
    own = op ∧ Backed p.state.ledger p.host.submitFile op task

theorem not_adopts : ¬ Adopts file file op task := by
  rintro ⟨before, submit, found, -, adopted, -⟩
  exact before submit found adopted

theorem backedSince_same (same : p'.host.submitFile = p.host.submitFile) : BackedSince p p' op := by
  intro own task adopts
  rw [same] at adopts
  exact absurd adopts not_adopts

theorem commitResolution_backed {resolution : CloudUnknownResolution} {expected : CloudSubmitObservation}
    {recorded : Except CloudLifecycleError CloudLifecycleLedger} (inv : ProcessInv decisive runner p)
    (trails : ProcessTrails p)
    (decided : ∀ next, recorded = .ok next → next.Valid ∧
      ∀ file, TookIn ledger.operationId resolution file → Trails next file)
    (backed : ∀ task, resolution = .adoptListedTask task → ∃ ledger, p.state.ledger = some ledger ∧
      ledger.phase = .outcomeUnknown ∧ ledger.reconciliationGeneration ≠ 0 ∧
      ledger.reconciliationComplete = some true) :
    (commitResolution runner ledger resolution expected recorded).wp
      (fun _ p' => ProcessTrails p' ∧ BackedSince p p' ledger.operationId)
      (fun _ p' => ProcessTrails p' ∧ BackedSince p p' ledger.operationId)
      (fun p' => Trailing p'.host p'.host.lifecycleFile ∧ BackedSince p p' ledger.operationId) p := by
  have since : ∀ h' : Host, Resolves ledger.operationId resolution p.host.submitFile h'.submitFile →
      ∀ p' : Process, p'.host.submitFile = h'.submitFile → BackedSince p p' ledger.operationId := by
    intro h' resolves p' same own task adopts
    rw [same] at adopts
    obtain ⟨rfl, asked, listed⟩ := resolves.adopts adopts
    exact ⟨rfl, backed task asked, listed⟩
  apply wp_commitResolution
  apply wp_mono (wp_and (resolveUnknown_evidence _ _ inv.host.tidy.valid)
    (runner_frame p.host fun _ beyond => keeps_resolveUnknown beyond runner _ _))
  · rintro observation h' ⟨⟨-, -, resolves, took⟩, frame⟩
    have later := trails.grows resolves.grows frame.2
    refine ⟨fun _ => ⟨later, since h' resolves { p with host := h' } rfl⟩, fun next _ outcome => ?_⟩
    obtain ⟨valid, agrees⟩ := decided next outcome
    refine ⟨valid, fun _ _ => ?_⟩
    rw [Commits, persistAfterEffect, wp_mapError]
    apply wp_persist_trailing later (agrees _ took)
    · intro _ same committed
      exact ⟨committed, since h' resolves _ same⟩
    · intro _ _ same kept
      exact ⟨kept, since h' resolves _ same⟩
    · intro _ same kept
      exact ⟨kept, since h' resolves _ same⟩
  · intro _ h' spec
    exact ⟨trails.grows spec.1.grows spec.2.2, since h' spec.1 _ rfl⟩
  · intro h' spec
    exact ⟨(trails.grows spec.1.grows spec.2.2).file, since h' spec.1 _ rfl⟩

theorem resolveUnknown_backed (op : CloudSubmitOperationId) (decision : UnknownSubmitDecision)
    (inv : ProcessInv decisive runner p) (trails : ProcessTrails p) :
    (resolveUnknown runner op decision).wp (fun _ p' => ProcessTrails p' ∧ BackedSince p p' op)
      (fun _ p' => ProcessTrails p' ∧ BackedSince p p' op)
      (fun p' => Trailing p'.host p'.host.lifecycleFile ∧ BackedSince p p' op) p := by
  have same : ProcessTrails p ∧ BackedSince p p op := ⟨trails, backedSince_same rfl⟩
  apply wp_lifecycleResolveUnknown
  · exact fun _ time => ⟨trails.time time, backedSince_same rfl⟩
  · exact fun time => ⟨(trails.time time).file, backedSince_same rfl⟩
  · exact fun _ _ _ _ _ _ => same
  · intro ledger task status time undecided _ complete _ _
    obtain ⟨found, rfl, unknown, reconciled⟩ := undecided
    refine wp_mono (commitResolution_backed (p := ⟨p.host.atTime time, p.state⟩)
      (inv.time time) (trails.time time) ?_ ?_) (fun _ _ spec => spec) (fun _ _ spec => spec)
      (fun _ spec => spec)
    · intro next recorded
      obtain ⟨advances, reached⟩ :=
        CloudLifecycleLedger.advances_recordStatus (inv.accounted found).valid recorded
      exact ⟨advances.valid, fun _ _ => trails_untied (reached ▸ untied_status status)⟩
    · intro _ _
      exact ⟨ledger, found, unknown, reconciled, complete⟩
  · intro ledger undecided _
    obtain ⟨found, rfl, unknown, -⟩ := undecided
    have valid := (inv.accounted found).valid
    apply commitResolution_backed inv trails
    · intro next recorded
      obtain ⟨advances, reached⟩ :=
        CloudLifecycleLedger.advances_append valid (valid.taskless unknown) recorded
      refine ⟨advances.valid, ?_⟩
      rintro file ⟨submit, stored, -, closed⟩
      apply trails_abandoned reached
      intro other found
      cases stored.symm.trans found
      exact closed
    · intro _ asked
      cases asked

end

/-! ## Runs -/

namespace Machine

/-- The record in memory has seen every reconciliation that the submit file has. -/
def CopyCurrent : Machine → Prop
  | .down _ => True
  | .up p _ => ∀ ledger submit, p.state.ledger = some ledger → ledger.phase = .outcomeUnknown →
      p.host.submitFile = some submit → ledger.reconciliationGeneration = submit.reconciliations

/-- The file of the machine shows no adoption since `p` that was not backed there. -/
def BackedFrom (p : Process) (op : CloudSubmitOperationId) (machine : Machine) : Prop :=
  BackedSince p ⟨machine.host, p.state⟩ op

section

variable {runner : CloudTaskRunner} {env : Nat → Answers} {machine machine' : Machine} {p : Process}
  {flight : Option Flight}

/-- A call that leaves both copies behind the file does so whether or not a submit is in flight. -/
theorem trails_after {α : Type} {proc : OrchestratorProc α} {next : Except CloudLifecycleError α → Option Flight}
    (stays : StaysTrailing proc p) : MachineTrails (after (proc p) next) := by
  apply Machine.after_spec
  exact wp_mono stays (fun _ _ => id) (fun _ _ => id) (fun _ => id)

theorem trails_step {call : Call} (inv : MachineInv False runner machine) (trails : MachineTrails machine)
    (stepped : machine.step runner call = some machine') : MachineTrails machine' := by
  have restarted : ∀ host, machine = .down host → call = .restart → MachineTrails machine' := by
    rintro host rfl rfl
    refine Machine.restart_spec ?_ stepped
    exact fromRunner_trailing (p := ⟨host, ⟨none, none, 0⟩⟩) inv trails
  unfold Machine.step at stepped
  split at stepped
  · exact restarted _ rfl rfl
  · cases stepped
    exact trails.file
  · cases stepped
    exact trails_after (startBegin_trailing inv.1 trails)
  · cases stepped
    apply Machine.after_spec
    exact wp_mono (startSubmit_trailing _ _ inv.2) (fun _ _ => id) (fun _ _ => False.elim) (fun _ => id)
  · cases stepped
    exact trails_after (startCommit_trailing inv.1 inv.2 trails)
  · cases stepped
    exact trails_after (inspect_trailing inv.1 trails)
  · cases stepped
    exact trails_after (reconcileUnknown_trailing inv.1 trails)
  · cases stepped
    apply trails_after
    exact wp_mono (resolveUnknown_backed _ _ inv.1 trails) (fun _ _ => And.left) (fun _ _ => And.left)
      (fun _ => And.left)
  · cases stepped
    exact trails_after (cancel_trailing inv.1 trails)
  · cases stepped

theorem trails_reachable (reach : (system runner env).Reachable machine) : MachineTrails machine := by
  apply System.Reach.invariant reach
  · intro start begins
    cases begins
    exact nofun
  · intro before call next reached trails _ stepped
    exact trails_step (machineInv_reachable False.elim reached) trails stepped

/-- In every run with crashes, new processes and writes that fail in any way: a call of
`resolve_unknown` that finds in memory a copy of the last reconciliation durably adopts a task only
if that reconciliation, as the submit ledger records it, was complete and listed the task. -/
theorem adopts_on_last_reconciliation {op own : CloudSubmitOperationId} {decision : UnknownSubmitDecision}
    {task : CloudTaskId} (reach : (system runner env).Reachable machine) (current : machine.CopyCurrent)
    (stepped : machine.step runner (.resolveUnknown op decision) = some machine')
    (adopts : Adopts machine.host.submitFile machine'.host.submitFile own task) :
    own = op ∧ ∃ submit, machine.host.submitFile = some submit ∧ submit.operationId = op ∧
      submit.reconciliationComplete = some true ∧ task ∈ submit.candidateTaskIds := by
  have inv := machineInv_reachable False.elim reach
  have trails := trails_reachable reach
  cases machine with
  | down host => cases stepped
  | up p flight =>
      cases stepped
      have backed : BackedFrom p op (after (Cloud.resolveUnknown runner op decision p) fun _ => flight) := by
        apply Machine.after_spec
        exact wp_mono (resolveUnknown_backed op decision inv.1 trails) (fun _ _ spec => spec.2)
          (fun _ _ spec => spec.2) (fun _ spec => spec.2)
      obtain ⟨same, ⟨ledger, found, unknown, reconciled, complete⟩, submit, file, owned, listed⟩ :=
        backed own task adopts
      have counted := current ledger submit found unknown file
      have copied := ((trails.memory ledger found).copy unknown submit file).same counted reconciled
      exact ⟨same, submit, file, owned, copied.2 ▸ complete, listed⟩

/-! An unknown submit of one listed task, and a decision to adopt it. -/

def adoptedOperation : CloudSubmitOperationId := ⟨1, Nat.one_ne_zero⟩

theorem adoptedTask_wellFormed : isTaskIdText "task_1".toList = true := rfl

def adoptedTask : CloudTaskId := ⟨"task_1".toList, adoptedTask_wellFormed⟩

def adoption : Call := .resolveUnknown adoptedOperation (.adoptListedTask adoptedTask)

/-- The provider names no task for a submit and lists one task on its only page. -/
def listsOneTask : Answers where
  listOutput := some ⟨[⟨adoptedTask⟩], none, Nat.le_of_ble_eq_true rfl, List.pairwise_singleton _ _⟩
  statusOutput := some .pending

/-- The state before a decision and the one after it. -/
def decided (env : Nat → Answers) (calls : List Call) : Option (Machine × Machine) := do
  let before ← (system ⟨⟨[]⟩, ⟨[]⟩⟩ env).run (.down (Host.fresh env)) calls
  let after ← before.step ⟨⟨[]⟩, ⟨[]⟩⟩ adoption
  return (before, after)

theorem decided_reachable {calls : List Call} (ran : decided env calls = some (machine, machine')) :
    (system ⟨⟨[]⟩, ⟨[]⟩⟩ env).Reachable machine ∧ machine.step ⟨⟨[]⟩, ⟨[]⟩⟩ adoption = some machine' := by
  simp only [decided, Option.bind_eq_bind, Option.bind_eq_some_iff, Option.pure_def, Option.some.injEq,
    Prod.mk.injEq] at ran
  obtain ⟨before, first, after, second, rfl, rfl⟩ := ran
  exact ⟨.run (.initial rfl) first, second⟩

/-- The task is adopted on the reconciliation that listed it. -/
theorem adopts_listed_task :
    ∃ machine machine' submit, (system ⟨⟨[]⟩, ⟨[]⟩⟩ fun _ => listsOneTask).Reachable machine ∧
      machine.CopyCurrent ∧ machine.step ⟨⟨[]⟩, ⟨[]⟩⟩ adoption = some machine' ∧
      Adopts machine.host.submitFile machine'.host.submitFile adoptedOperation adoptedTask ∧
      machine.host.submitFile = some submit ∧ submit.reconciliationComplete = some true := by
  have found : (decided (fun _ => listsOneTask) [.restart, .startBegin ⟨['p']⟩, .startSubmit, .startCommit,
      .reconcileUnknown]).map (fun states => (states.1.ledger.map (·.reconciliationGeneration),
        states.1.host.submitFile.map (·.reconciliations), decide (Adopts states.1.host.submitFile
          states.2.host.submitFile adoptedOperation adoptedTask))) = some (some 1, some 1, true) := by
    decide +kernel
  obtain ⟨⟨machine, machine'⟩, ran, seen⟩ := Option.map_eq_some_iff.mp found
  simp only [Prod.mk.injEq, decide_eq_true_eq] at seen
  obtain ⟨generation, counted, adopts⟩ := seen
  obtain ⟨reach, stepped⟩ := decided_reachable ran
  have current : machine.CopyCurrent := by
    cases machine with
    | down host => trivial
    | up p flight =>
        intro ledger submit held _ file
        have held : (Machine.up p flight).ledger = some ledger := held
        have file : (Machine.up p flight).host.submitFile = some submit := file
        rw [held, Option.map_some, Option.some.injEq] at generation
        rw [file, Option.map_some, Option.some.injEq] at counted
        rw [generation, counted]
  obtain ⟨-, submit, file, -, complete, -⟩ := adopts_on_last_reconciliation reach current stepped adopts
  exact ⟨machine, machine', submit, reach, current, stepped, adopts, file, complete⟩

/-- The page goes on and the time runs out; the copy of what was read cannot be written. -/
def interruptedListing (late : Bool) : Answers where
  listOutput := some ⟨[⟨adoptedTask⟩], some ⟨['c']⟩, Nat.le_of_ble_eq_true rfl, List.pairwise_singleton _ _⟩
  deadlinePassed := late
  writeLifecycle := fun _ => .refused

/-- The second reconciliation of the run is the interrupted one. -/
def lostCopy (time : Nat) : Answers :=
  if time < 32 then listsOneTask else if time < 43 then interruptedListing (39 ≤ time) else listsOneTask

/-- A complete reconciliation lists the task; the next one, which is incomplete, is recorded in the
submit ledger only. The adoption goes through on the copy of the first. -/
theorem adopts_on_incomplete_reconciliation :
    ∃ machine machine' submit, (system ⟨⟨[]⟩, ⟨[]⟩⟩ lostCopy).Reachable machine ∧
      machine.step ⟨⟨[]⟩, ⟨[]⟩⟩ adoption = some machine' ∧
      Adopts machine.host.submitFile machine'.host.submitFile adoptedOperation adoptedTask ∧
      machine.host.submitFile = some submit ∧ submit.reconciliationComplete = some false := by
  have found : (decided lostCopy [.restart, .startBegin ⟨['p']⟩, .startSubmit, .startCommit, .reconcileUnknown,
      .reconcileUnknown]).map (fun states => (states.1.host.submitFile.map (·.reconciliationComplete),
        decide (Adopts states.1.host.submitFile states.2.host.submitFile adoptedOperation adoptedTask))) =
      some (some (some false), true) := by
    decide +kernel
  obtain ⟨⟨machine, machine'⟩, ran, seen⟩ := Option.map_eq_some_iff.mp found
  simp only [Prod.mk.injEq, decide_eq_true_eq] at seen
  obtain ⟨incomplete, adopts⟩ := seen
  obtain ⟨submit, file, incomplete⟩ := Option.map_eq_some_iff.mp incomplete
  obtain ⟨reach, stepped⟩ := decided_reachable ran
  exact ⟨machine, machine', submit, reach, stepped, adopts, file, incomplete⟩

/-- A lifecycle record on file trails the submit file, and if its submit is unknown, that file says
that it may have run. -/
theorem unresolved_record_backed {ledger : CloudLifecycleLedger} (reach : (system runner env).Reachable machine)
    (file : machine.host.lifecycleFile = some ledger) : Trails ledger machine.host.submitFile ∧
      (ledger.phase = .outcomeUnknown → MaySubmit ledger.operationId machine.host.submitFile) := by
  have inv := machineInv_reachable False.elim reach
  have trails := trails_reachable reach
  obtain ⟨trails, accounted⟩ : Trails ledger machine.host.submitFile ∧ Accounts False machine.host (some ledger) := by
    cases machine with
    | down host => exact ⟨trails ledger file, file ▸ HostInv.file inv⟩
    | up p flight => exact ⟨trails.file ledger file, file ▸ inv.1.host.file⟩
  exact ⟨trails, (Accounted.coherent accounted).unknown⟩

theorem nameless_submit_backed : ∃ machine ledger, (system ⟨⟨[]⟩, ⟨[]⟩⟩ fun _ => listsOneTask).Reachable machine ∧
    machine.host.lifecycleFile = some ledger ∧ MaySubmit ledger.operationId machine.host.submitFile := by
  have ran : (system ⟨⟨[]⟩, ⟨[]⟩⟩ fun _ => listsOneTask).run (.down (Host.fresh fun _ => listsOneTask))
      [.restart, .startBegin ⟨['p']⟩, .startSubmit, .startCommit] = some (.up _ none) := rfl
  have reach := System.Reachable.run (.initial rfl) ran
  exact ⟨_, _, reach, rfl, (unresolved_record_backed reach rfl).2 rfl⟩

end

end Machine

end Codebox.Cloud
