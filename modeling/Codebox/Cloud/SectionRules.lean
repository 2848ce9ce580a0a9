import Codebox.Cloud.RunnerRules
import Codebox.Cloud.Machine

/-! # Rules for the sections of the orchestrator

One rule for each section: what it looks at, where it can fail, and the one record it may write.
The state in which it writes and what it shows afterwards are given; what becomes of the write is
for the caller to say.
-/

namespace Codebox.Cloud

open Codebox.Support Proc Codebox.Host

section

variable {runner : CloudTaskRunner} {p : Process} {next : CloudLifecycleLedger}
  {onError : CloudLifecycleError → Process → Prop} {onCrash : Process → Prop} {onOk : CloudLifecycle → Process → Prop}

/-- Writing a record, however the write ends: the file is replaced or not, and time has passed. -/
theorem wp_persist_hosts {onOk : Unit → Process → Prop}
    (stored : ∀ time, p.host.tick ≤ time → onOk () { p with host := storeLifecycle next (p.host.atTime time) })
    (unsynced : ∀ error time, onError error { p with host := storeLifecycle next (p.host.atTime time) })
    (failed : ∀ error time, onError error { p with host := p.host.atTime time })
    (died : ∀ time, onCrash { p with host := p.host.atTime time }) :
    (persist next).wp onOk onError onCrash p := by
  rw [persist, wp_bind, wp_onRunner]
  apply readOnly_acquireScope.wp
  · intro _ time later
    rw [wp_onHost, persistLifecycleLedger, wp_bind]
    cases next.validate with
    | error error => exact failed error time
    | ok _ =>
        rw [wp_ofExcept_ok]
        apply wp_replaceFile
        · exact died _
        · intro _
          exact stored _ (Nat.le_succ_of_le later)
        · intro _
          exact unsynced _ _
        · intro _
          exact failed _ _
        · intro _
          exact failed _ _
  · intro error time _ _
    exact failed _ time
  · intro time _
    exact died time

theorem wp_currentLedger {onOk : CloudLifecycleLedger → Process → Prop}
    (present : ∀ ledger, p.state.ledger = some ledger → onOk ledger p)
    (absent : p.state.ledger = none → onError ⟨.noCurrentOperation, none⟩ p) :
    currentLedger.wp onOk onError onCrash p := by
  rw [currentLedger, wp_bind, wp_getState]
  cases found : p.state.ledger with
  | none => exact absent found
  | some ledger => exact present ledger found

/-- The record is written, and then callers see it. -/
def Commits (next : CloudLifecycleLedger) (onOk : Process → Prop)
    (onError : CloudLifecycleError → Process → Prop) (onCrash : Process → Prop) (p : Process) : Prop :=
  (persistAfterEffect next).wp
    (fun _ p' => onOk { p' with state := { p'.state with ledger := some next } }) onError onCrash p

/-- An unknown outcome is an error of an inspection, and no other error looks like it. -/
theorem wp_inspect (valid : ∀ ledger, p.state.ledger = some ledger → ledger.Valid)
    (answered : ∀ ledger shown, p.state.ledger = some ledger → ledger.lifecycle = .ok shown →
      shown.phase ≠ .submitting → shown.phase ≠ .outcomeUnknown → onOk shown p)
    (failed : ∀ error time, (error.category = .outcomeUnknown → ∃ ledger op, p.state.ledger = some ledger ∧
      ledger.lifecycle = .ok (.outcomeUnknown op) ∧ error.operationId = some op) →
      onError error { p with host := p.host.atTime time })
    (died : ∀ time, onCrash { p with host := p.host.atTime time })
    (writes : ∀ ledger next task status shown time, p.state.ledger = some ledger → ledger.phase = .pending →
      ledger.taskId = some task → ledger.recordStatus task status = .ok next → next.lifecycle = .ok shown →
      Commits next (onOk shown) onError onCrash { p with host := p.host.atTime time }) :
    inspect.wp onOk onError onCrash p := by
  rw [inspect, wp_bind]
  apply wp_currentLedger _ fun _ => failed _ p.host.tick (by simp)
  intro ledger found
  obtain ⟨projected, shown, -, phase, task⟩ := (valid ledger found).lifecycle
  rw [shown, wp_bind, wp_ofExcept_ok]
  cases projected with
  | pending op named =>
      rw [wp_bind, wp_mapError, wp_onHost]
      apply (readOnly_status named).wp _ (fun _ time _ _ => failed _ time
        (by simp [mapProviderRead, CloudLifecycleError.forOperation])) (fun time _ => died time)
      intro status time _
      rw [wp_bind]
      cases recorded : ledger.recordStatus named status with
      | error error =>
          apply failed error time
          simp [CloudLifecycleLedger.recordStatus_error recorded, CloudLifecycleLedger.invalidLedger]
      | ok next =>
          obtain ⟨projected', shown', -⟩ := ((valid ledger found).recordStatus recorded).lifecycle
          simp only [wp_ofExcept_ok, wp_bind, shown', wp_setLedger, wp_pure]
          exact writes ledger next named status projected' time found phase.symm task.symm recorded shown'
  | submitting op => exact failed _ p.host.tick (by simp [CloudLifecycleError.forOperation])
  | outcomeUnknown op => exact failed _ p.host.tick fun _ => ⟨ledger, op, found, shown, rfl⟩
  | _ => exact answered ledger _ found shown (by simp) (by simp)

theorem wp_cancel {onOk : CancelPass → Process → Prop}
    (valid : ∀ ledger, p.state.ledger = some ledger → ledger.Valid)
    (answered : ∀ ledger shown, p.state.ledger = some ledger → ledger.lifecycle = .ok shown →
      shown.phase ≠ .submitting → shown.phase ≠ .pending → onOk (.answered shown) p)
    (failed : ∀ error, onError error p)
    (waits : ∀ ledger token, p.state.ledger = some ledger → ledger.phase = .submitting →
      p.state.cancellation = some token →
      onOk (.waiting ledger.operationId) { p with state := { p.state with cancellation := some ⟨true⟩ } })
    (writes : ∀ ledger next shown, p.state.ledger = some ledger → ledger.phase = .pending →
      ledger.taskId.isSome = true → ledger.append (.canceledLocally true) = .ok next →
      next.lifecycle = .ok shown → Commits next (onOk (.answered shown)) onError onCrash p) :
    cancel.wp onOk onError onCrash p := by
  rw [cancel, wp_bind]
  apply wp_currentLedger _ fun _ => failed _
  intro ledger found
  obtain ⟨projected, shown, own, phase, task⟩ := (valid ledger found).lifecycle
  rw [shown, wp_bind, wp_ofExcept_ok]
  cases projected with
  | submitting op =>
      rw [wp_bind, wp_getState]
      cases held : p.state.cancellation with
      | none => exact failed _
      | some token =>
          obtain rfl : op = ledger.operationId := own
          exact waits ledger token found phase.symm held
  | pending op named =>
      have known : ledger.taskId = some named := task.symm
      rw [wp_bind, CloudLifecycleLedger.recordCanceledWithTask, if_neg (by simp [known])]
      cases appended : ledger.append (.canceledLocally true) with
      | error error => exact failed error
      | ok next =>
          obtain ⟨projected', shown', -⟩ := ((valid ledger found).append (by simp [known]) appended).lifecycle
          simp only [wp_ofExcept_ok, wp_bind, shown', wp_setLedger, wp_pure]
          exact writes ledger next projected' found phase.symm (by simp [known]) appended shown'
  | _ => exact answered ledger _ found shown (by simp) (by simp)

/-- The runner's part of a reconciliation comes first. -/
theorem wp_lifecycleReconcileUnknown {onOk : CloudReconciliation → Process → Prop}
    (failed : ∀ error, onError error p)
    (runs : ∀ ledger, p.state.ledger = some ledger → ledger.phase = .outcomeUnknown →
      runner.reconcileUnknown.wp
        (fun reported h' => (∀ error, onError error { p with host := h' }) ∧
          ∀ next, reported.operationId = ledger.operationId →
            ledger.recordReconciliation (reported.tasks.map CloudTaskSummary.id) reported.complete = .ok next →
            Commits next (onOk reported) onError onCrash { p with host := h' })
        (fun error h' => onError (mapRunnerError error) { p with host := h' })
        (fun h' => onCrash { p with host := h' }) p.host) :
    (reconcileUnknown runner).wp onOk onError onCrash p := by
  rw [reconcileUnknown, requirePhase, wp_bind, wp_bind]
  apply wp_currentLedger _ fun _ => failed _
  intro ledger found
  rw [wp_ite]
  split
  · rename_i unknown
    rw [wp_pure, wp_bind, wp_onRunner]
    apply wp_mono (runs ledger found unknown) _ (fun _ _ => id) (fun _ => id)
    intro reported h' after
    rw [wp_ite]
    split
    · exact after.1 _
    · rename_i own
      rw [wp_bind]
      cases recorded : ledger.recordReconciliation (reported.tasks.map CloudTaskSummary.id) reported.complete with
      | error error => exact after.1 error
      | ok next =>
          simp only [wp_ofExcept_ok, wp_bind, wp_setLedger, wp_pure]
          exact after.2 next (not_not.mp own) recorded
  · exact failed _

/-- The runner's part of a resolution comes first. -/
theorem wp_commitResolution {ledger : CloudLifecycleLedger} {resolution : CloudUnknownResolution}
    {expected : CloudSubmitObservation} {recorded : Except CloudLifecycleError CloudLifecycleLedger}
    (runs : (runner.resolveUnknown ledger.operationId resolution).wp
      (fun observation h' => (∀ error, onError error { p with host := h' }) ∧
        ∀ next, observation = expected → recorded = .ok next → next.Valid ∧ ∀ shown,
          next.lifecycle = .ok shown → Commits next (onOk shown) onError onCrash { p with host := h' })
      (fun error h' => onError (mapRunnerError error) { p with host := h' })
      (fun h' => onCrash { p with host := h' }) p.host) :
    (commitResolution runner ledger resolution expected recorded).wp onOk onError onCrash p := by
  rw [commitResolution, wp_bind, wp_onRunner]
  apply wp_mono runs _ (fun _ _ => id) (fun _ => id)
  intro observation h' after
  rw [wp_ite]
  split
  · exact after.1 _
  · rename_i same
    rw [wp_bind, wp_mapError]
    cases outcome : recorded with
    | error error => exact after.1 _
    | ok next =>
        obtain ⟨valid, commits⟩ := after.2 next (not_not.mp same) outcome
        obtain ⟨projected, shown, -⟩ := valid.lifecycle
        simp only [wp_ofExcept_ok, wp_bind, shown, wp_setLedger, wp_pure]
        exact commits projected shown

/-- The current submit is unknown and has been reconciled, so a decision on it is due. -/
structure Undecided (op : CloudSubmitOperationId) (p : Process) (ledger : CloudLifecycleLedger) : Prop where
  found : p.state.ledger = some ledger
  own : ledger.operationId = op
  unknown : ledger.phase = .outcomeUnknown
  reconciled : ledger.reconciliationGeneration ≠ 0

/-- The ways a decision can go: it is refused or cannot read the status of its task, it replays an
earlier one, or it is committed. -/
theorem wp_lifecycleResolveUnknown {op : CloudSubmitOperationId} {decision : UnknownSubmitDecision}
    (failed : ∀ error time, onError error { p with host := p.host.atTime time })
    (died : ∀ time, onCrash { p with host := p.host.atTime time })
    (replayed : ∀ ledger shown, p.state.ledger = some ledger → ledger.operationId = op →
      ledger.phase.isTerminal = true ∨ ledger.phase = .pending →
      replayResolution ledger decision = .ok shown → onOk shown p)
    (adopted : ∀ ledger task status time, Undecided op p ledger → decision = .adoptListedTask task →
      ledger.reconciliationComplete = some true → task ∈ ledger.candidateTaskIds → p.host.tick ≤ time →
      (commitResolution runner ledger (.adoptListedTask task) (.taskRecorded ⟨op, task⟩)
        (ledger.recordStatus task status)).wp onOk onError onCrash { p with host := p.host.atTime time })
    (abandoned : ∀ ledger, Undecided op p ledger → decision = .abandonAfterReconciliation ⟨op⟩ →
      (commitResolution runner ledger .explicitlyAbandon .explicitlyAbandoned
        ledger.recordAbandonedUnknown).wp onOk onError onCrash p) :
    (resolveUnknown runner op decision).wp onOk onError onCrash p := by
  have refused : ∀ error, onError error p := fun error => failed error p.host.tick
  rw [resolveUnknown, wp_bind]
  apply wp_currentLedger _ fun _ => refused _
  intro ledger found
  rw [wp_ite]
  split
  · exact refused _
  rename_i own
  rw [ne_eq, not_not] at own
  rw [wp_ite]
  split
  · rename_i settled
    cases outcome : replayResolution ledger decision with
    | error error => exact refused error
    | ok shown => exact replayed ledger shown found own settled outcome
  rw [wp_ite]
  split
  · exact refused _
  rename_i ready
  rw [not_or, ne_eq, not_not] at ready
  have undecided : Undecided op p ledger := ⟨found, own, ready.1, ready.2⟩
  cases decision with
  | adoptListedTask task =>
      simp only [wp_ite]
      split
      · exact refused _
      rename_i listed
      rw [not_or, ne_eq, not_not, Bool.not_eq_false] at listed
      rw [wp_bind, wp_mapError, wp_onHost]
      apply (readOnly_status task).wp
      · intro status time later
        exact adopted ledger task status time undecided rfl listed.1 (of_decide_eq_true listed.2) later
      · intro error time _ _
        exact failed _ time
      · intro time _
        exact died time
  | abandonAfterReconciliation acknowledgement =>
      simp only [wp_ite]
      split
      · exact refused _
      rename_i named
      rw [ne_eq, not_not] at named
      obtain ⟨own⟩ := acknowledgement
      subst named
      exact abandoned ledger undecided rfl

/-- No operation is under way. -/
def Process.Free (p : Process) : Prop :=
  ∀ ledger, p.state.ledger = some ledger → ledger.phase.isTerminal = true

/-- The identifier that the next start draws. -/
def Process.nextOperation (p : Process) : CloudSubmitOperationId := ⟨p.host.issued + 1, Nat.succ_ne_zero _⟩

/-- A start that finds the slot free draws an identifier and observes it before it claims the slot. -/
theorem wp_startBegin {onOk : StartTicket → Process → Prop}
    (refused : ∀ error, error.category ≠ .operationConflict → onError error p)
    (runs : p.Free → (runner.observeSubmit p.nextOperation).wp
      (fun observation h' => (observation ≠ .absent → ∀ error, onError error { p with host := h' }) ∧
        (observation = .absent → (persist (.submitting p.nextOperation)).wp
          (fun _ p' => onOk ⟨p.nextOperation, p.state.ledger⟩ { p' with state := { p'.state with
            ledger := some (.submitting p.nextOperation)
            cancellation := some {} } }) onError onCrash { p with host := h' }))
      (fun error h' => onError (mapRunnerError error) { p with host := h' })
      (fun h' => onCrash { p with host := h' }) { p.host with issued := p.host.issued + 1 }) :
    (startBegin runner).wp onOk onError onCrash p := by
  rw [startBegin, wp_bind, wp_getState, wp_ite]
  split
  · apply refused
    cases p.state.ledger <;> simp [currentError, CloudLifecycleError.forOperation]
  rename_i busy
  have free : p.Free := by
    intro ledger found
    simpa [found] using busy
  rw [wp_bind]
  show Proc.wp _ _ _ _ { p with host := { p.host with issued := p.host.issued + 1 } }
  rw [wp_bind, wp_attempt, wp_onHost]
  apply wp_mono (runs free) _ (fun _ _ => id) (fun _ => id)
  intro observation h' after
  cases observation with
  | absent =>
      simp only [wp_bind]
      exact after.2 rfl
  | taskRecorded submission => exact after.1 nofun _
  | _ => exact after.1 nofun _

/-! ## Construction -/

theorem wp_repairInterruptedState {onOk : Unit → Process → Prop} (unchanged : onOk () p)
    (runs : ∀ current, p.state.ledger = some current →
      current.phase = .submitting ∨ current.phase = .outcomeUnknown →
      (runner.observeSubmit current.operationId).wp
        (fun observation h' => (∀ error, onError error { p with host := h' }) ∧ onOk () { p with host := h' } ∧
          ∀ repaired, repairedLedger current observation = .ok (some repaired) →
            (persist repaired).wp (fun _ p' => onOk () { p' with state := { p'.state with ledger := some repaired } })
              onError onCrash { p with host := h' })
        (fun error h' => onError (mapRunnerError error) { p with host := h' })
        (fun h' => onCrash { p with host := h' }) p.host) :
    (repairInterruptedState runner).wp onOk onError onCrash p := by
  rw [repairInterruptedState, wp_bind, wp_getState]
  cases found : p.state.ledger with
  | none => exact unchanged
  | some current =>
      simp only [wp_ite]
      split
      · exact unchanged
      rename_i interrupted
      rw [wp_bind, wp_onRunner]
      apply wp_mono (runs current found (by tauto)) _ (fun _ _ => id) (fun _ => id)
      intro observation h' after
      rw [wp_bind]
      cases outcome : repairedLedger current observation with
      | error error => exact after.1 error
      | ok result =>
          cases result with
          | none => exact after.2.1
          | some repaired =>
              simp only [wp_ofExcept_ok, wp_bind, wp_setLedger]
              exact after.2.2 repaired outcome

/-- Construction reads the lifecycle file and repairs what it read. -/
theorem wp_fromRunner {onOk : Unit → Process → Prop}
    (loaded : ∀ time, (repairInterruptedState runner).wp onOk onError onCrash
      ⟨p.host.atTime time, ⟨p.host.lifecycleFile, none, 0⟩⟩)
    (failed : ∀ error time, onError error { p with host := p.host.atTime time })
    (died : ∀ time, onCrash { p with host := p.host.atTime time }) :
    (fromRunner runner).wp onOk onError onCrash p := by
  rw [fromRunner, wp_bind, wp_onHost, loadWithRunner, wp_bind, wp_mapError]
  apply readOnly_acquireScope.wp
  · intro _ time _
    have repairs := loaded (time + 1)
    rw [loadLifecycleLedger, wp_bind]
    refine wp_readFile (died _) ?_ (failed _ _) (failed _ _)
    cases content : p.host.lifecycleFile with
    | none =>
        rw [content] at repairs
        simp only [advance_eq, atTime_lifecycleFile, atTime_atTime, content, wp_pure]
        exact repairs
    | some ledger =>
        rw [content] at repairs
        simp only [advance_eq, atTime_lifecycleFile, atTime_atTime, content, wp_bind]
        cases ledger.validate with
        | error _ => exact failed _ _
        | ok _ => exact repairs
  · intro error time _ _
    exact failed _ time
  · intro time _
    exact died time

end

end Codebox.Cloud
