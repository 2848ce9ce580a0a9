import Codebox.Cloud.DurableHistory

/-! # What a section does to the record in memory

The sections leave a coherent pair of ledgers; this is what each of them does to the record in
memory, to the signal of the submit in flight and to the lifecycle file. The record moves by one
transition of its phase at most and never changes its operation, except that a start replaces a
record that is absent or terminal.
-/

namespace Codebox.Cloud

open Codebox.Support Proc Codebox.Host

namespace CloudLifecycleLedger

variable {ledger next : CloudLifecycleLedger}

/-- The record stays in its phase or takes one transition. -/
structure Advances (ledger next : CloudLifecycleLedger) : Prop where
  follows : ledger.Follows next
  phase : next.phase = ledger.phase ∨ ledger.phase.validTransition next.phase = true
  valid : next.Valid

theorem Advances.refl (valid : ledger.Valid) : ledger.Advances ledger :=
  ⟨.refl ledger, .inl rfl, valid⟩

theorem advances_append {phase : CloudLifecyclePhase} (valid : ledger.Valid)
    (named : phase.requiresTask = ledger.taskId.isSome) (appended : ledger.append phase = .ok next) :
    ledger.Advances next ∧ next.phase = phase := by
  have valid' := valid.append named appended
  have follows := follows_append appended
  obtain ⟨-, step, rfl⟩ := append_eq_ok.mp appended
  exact ⟨⟨follows, .inr step, valid'⟩, rfl⟩

theorem advances_recordStatus {task : CloudTaskId} {status : CloudTaskStatus} (valid : ledger.Valid)
    (recorded : ledger.recordStatus task status = .ok next) :
    ledger.Advances next ∧ next.phase = phaseForStatus status := by
  have valid' := valid.recordStatus recorded
  have follows := follows_recordStatus recorded
  rcases recordStatus_eq_ok recorded with ⟨pending, -, rfl, rfl⟩ | ⟨-, step, -, -, rfl⟩
  · exact ⟨.refl valid, pending⟩
  · exact ⟨⟨follows, .inr step, valid'⟩, rfl⟩

theorem advances_recordReconciliation {tasks : List CloudTaskId} {complete : Bool} (valid : ledger.Valid)
    (recorded : ledger.recordReconciliation tasks complete = .ok next) :
    ledger.Advances next ∧ next.phase = .outcomeUnknown := by
  have valid' := valid.recordReconciliation recorded
  have follows := follows_recordReconciliation recorded
  obtain ⟨unknown, -, -, -, rfl⟩ := recordReconciliation_eq_ok.mp recorded
  exact ⟨⟨follows, .inl rfl, valid'⟩, unknown⟩

end CloudLifecycleLedger

/-! ## The lifecycle file -/

/-- What a section that may write the phases `allowed` leaves of the host. -/
structure Touched (allowed : CloudLifecyclePhase → Prop) (p : Process) (h : Host) : Prop where
  issued : h.issued = p.host.issued
  file : h.lifecycleFile = p.host.lifecycleFile ∨ ∃ ledger next, p.state.ledger = some ledger ∧
    ledger.Advances next ∧ allowed next.phase ∧ h.lifecycleFile = some next

section

variable {decisive : Prop} {runner : CloudTaskRunner} {allowed : CloudLifecyclePhase → Prop} {p : Process}
  {h : Host} {ledger next : CloudLifecycleLedger} {shown : CloudLifecycle}

theorem Touched.none (issued : h.issued = p.host.issued) (file : h.lifecycleFile = p.host.lifecycleFile) :
    Touched allowed p h :=
  ⟨issued, .inl file⟩

theorem wp_write {onOk : Unit → Process → Prop} {onError : CloudLifecycleError → Process → Prop}
    {onCrash : Process → Prop}
    (stored : ∀ host : Host, host.issued = p.host.issued → host.lifecycleFile = some next →
      onOk () { p with host := host })
    (failed : ∀ error (host : Host), host.issued = p.host.issued →
      host.lifecycleFile = p.host.lifecycleFile ∨ host.lifecycleFile = some next →
      onError error { p with host := host })
    (died : ∀ host : Host, host.issued = p.host.issued → host.lifecycleFile = p.host.lifecycleFile →
      onCrash { p with host := host }) :
    (persist next).wp onOk onError onCrash p := by
  apply wp_persist_hosts
  · intro _ _
    exact stored _ rfl rfl
  · intro error _
    exact failed error _ rfl (.inr rfl)
  · intro error _
    exact failed error _ rfl (.inl rfl)
  · intro _
    exact died _ rfl rfl

/-- A section writes the record it computed from the one in memory and then shows it. The host `h`
is the one it writes on. -/
theorem wp_advance_memory {onOk : Process → Prop} (found : p.state.ledger = some ledger)
    (advances : ledger.Advances next) (permitted : allowed next.phase) (issued : h.issued = p.host.issued)
    (file : h.lifecycleFile = p.host.lifecycleFile)
    (stored : ∀ host, Touched allowed p host → onOk ⟨host, { p.state with ledger := some next }⟩) :
    Commits next onOk (fun _ p' => Touched allowed p p'.host ∧ p'.state = p.state)
      (fun p' => Touched allowed p p'.host) { p with host := h } := by
  have written : ∀ host : Host, host.issued = h.issued → host.lifecycleFile = some next →
      Touched allowed p host :=
    fun host same stored => ⟨same.trans issued, .inr ⟨ledger, next, found, advances, permitted, stored⟩⟩
  rw [Commits, persistAfterEffect, wp_mapError]
  apply wp_write
  · intro host same here
    exact stored host (written host same here)
  · intro error host same place
    rcases place with kept | here
    · exact ⟨.none (same.trans issued) (kept.trans file), rfl⟩
    · exact ⟨written host same here, rfl⟩
  · intro host same kept
    exact .none (same.trans issued) (kept.trans file)

/-! ## Inspect and cancel -/

/-- The record in memory has become `next`, and callers see `shown`. -/
structure Shows (p p' : Process) (ledger next : CloudLifecycleLedger) (shown : CloudLifecycle) : Prop where
  before : p.state.ledger = some ledger
  advances : ledger.Advances next
  shown : next.lifecycle = .ok shown
  after : p'.state = { p.state with ledger := some next }

theorem Shows.held {p' : Process} (shows_ : Shows p p' ledger next shown) :
    ∃ ledger, p'.state.ledger = some ledger ∧ ledger.lifecycle = .ok shown :=
  ⟨next, congrArg OrchestratorState.ledger shows_.after, shows_.shown⟩

/-- A call of the runner that reads only. -/
theorem touched_time (time : Nat) : Touched allowed p (p.host.atTime time) := .none rfl rfl

/-- The phases a status read leads to. -/
def Polled (phase : CloudLifecyclePhase) : Prop := ∃ status, phase = phaseForStatus status

theorem inspect_memory (inv : ProcessInv decisive runner p) :
    inspect.wp
      (fun shown p' => Touched Polled p p'.host ∧ ∃ ledger next, Shows p p' ledger next shown ∧
        shown.phase ≠ .submitting ∧ shown.phase ≠ .outcomeUnknown)
      (fun _ p' => Touched Polled p p'.host ∧ p'.state = p.state) (fun p' => Touched Polled p p'.host) p := by
  apply wp_inspect fun _ found => (inv.accounted found).valid
  · intro ledger shown found projected decided known
    exact ⟨.none rfl rfl, ledger, ledger,
      ⟨found, .refl (inv.accounted found).valid, projected, by rw [← found]⟩, decided, known⟩
  · intro _ time _
    exact ⟨touched_time time, rfl⟩
  · exact touched_time
  · intro ledger next task status shown time found _ _ recorded projected
    obtain ⟨advances, reached⟩ :=
      CloudLifecycleLedger.advances_recordStatus (inv.accounted found).valid recorded
    apply wp_advance_memory (h := p.host.atTime time) found advances ⟨status, reached⟩ rfl rfl
    intro host touched
    refine ⟨touched, ledger, next, ⟨found, advances, projected, rfl⟩, ?_⟩
    rw [(CloudLifecycleLedger.lifecycle_eq_ok projected).2, reached]
    cases status <;> simp

/-- What a pass of `cancel` leaves. -/
def Canceled (p p' : Process) : CancelPass → Prop
  | .answered shown => ∃ ledger next, Shows p p' ledger next shown ∧ shown.phase ≠ .submitting ∧
      shown.phase ≠ .pending ∧ (next = ledger ∨ ledger.phase = .pending ∧ next.phase = .canceledLocally true)
  | .waiting op => ∃ ledger token, p.state.ledger = some ledger ∧ ledger.phase = .submitting ∧
      ledger.operationId = op ∧ p.state.cancellation = some token ∧
      p'.state = { p.state with cancellation := some ⟨true⟩ }

theorem cancel_memory (inv : ProcessInv decisive runner p) :
    cancel.wp (fun pass p' => Touched (· = .canceledLocally true) p p'.host ∧ Canceled p p' pass)
      (fun _ p' => Touched (· = .canceledLocally true) p p'.host ∧ p'.state = p.state)
      (fun p' => Touched (· = .canceledLocally true) p p'.host) p := by
  have same : Touched (· = .canceledLocally true) p p.host := .none rfl rfl
  apply wp_cancel fun _ found => (inv.accounted found).valid
  · intro ledger shown found projected decided settled
    exact ⟨same, ledger, ledger, ⟨found, .refl (inv.accounted found).valid, projected, by rw [← found]⟩,
      decided, settled, .inl rfl⟩
  · intro _
    exact ⟨same, rfl⟩
  · intro ledger token found starting held
    exact ⟨same, ledger, token, found, starting, rfl, held, rfl⟩
  · intro ledger next shown found pending known appended projected
    obtain ⟨advances, reached⟩ :=
      CloudLifecycleLedger.advances_append (inv.accounted found).valid (by simp [known]) appended
    have phase := (CloudLifecycleLedger.lifecycle_eq_ok projected).2
    apply wp_advance_memory (h := p.host) found advances reached rfl rfl
    intro host touched
    refine ⟨touched, ledger, next, ⟨found, advances, projected, rfl⟩, ?_, ?_, .inr ⟨pending, reached⟩⟩
    · simp [phase, reached]
    · simp [phase, reached]

/-! ## Reconciliation and resolution -/

/-- A call of the runner leaves the lifecycle file and the identifiers alone. -/
theorem runner_frame {α : Type} {proc : RunnerProc α} (h : Host)
    (keeps : ∀ inv, BeyondSubmit inv → Proc.Keeps inv proc) :
    proc.wp (fun _ (h' : Host) => h'.issued = h.issued ∧ h'.lifecycleFile = h.lifecycleFile)
      (fun _ (h' : Host) => h'.issued = h.issued ∧ h'.lifecycleFile = h.lifecycleFile)
      (fun h' : Host => h'.issued = h.issued ∧ h'.lifecycleFile = h.lifecycleFile) h :=
  keeps_iff.mp (keeps _ ⟨fun _ _ => id, fun _ _ => id, fun _ _ => id⟩) h ⟨rfl, rfl⟩

theorem reconcileUnknown_memory (inv : ProcessInv decisive runner p) :
    (reconcileUnknown runner).wp
      (fun reconciliation p' => Touched (· = .outcomeUnknown) p p'.host ∧
        ∃ ledger next, p.state.ledger = some ledger ∧ ledger.phase = .outcomeUnknown ∧
          reconciliation.operationId = ledger.operationId ∧ ledger.Advances next ∧
          next.phase = .outcomeUnknown ∧ p'.state = { p.state with ledger := some next })
      (fun _ p' => Touched (· = .outcomeUnknown) p p'.host ∧ p'.state = p.state)
      (fun p' => Touched (· = .outcomeUnknown) p p'.host) p := by
  apply wp_lifecycleReconcileUnknown fun _ => ⟨.none rfl rfl, rfl⟩
  intro ledger found unknown
  apply wp_mono (runner_frame p.host fun _ beyond => keeps_reconcileUnknown beyond runner)
  · intro reported h' frame
    refine ⟨fun _ => ⟨.none frame.1 frame.2, rfl⟩, ?_⟩
    intro next own recorded
    obtain ⟨advances, reached⟩ :=
      CloudLifecycleLedger.advances_recordReconciliation (inv.accounted found).valid recorded
    apply wp_advance_memory (h := h') found advances reached frame.1 frame.2
    intro host written
    exact ⟨written, ledger, next, found, unknown, own, advances, reached, rfl⟩
  · intro _ h' frame
    exact ⟨.none frame.1 frame.2, rfl⟩
  · intro h' frame
    exact .none frame.1 frame.2

/-- The phases a resolution leads to. -/
def Decided (phase : CloudLifecyclePhase) : Prop := Polled phase ∨ phase = .abandonedUnknown

theorem commitResolution_memory (resolution : CloudUnknownResolution) {expected : CloudSubmitObservation}
    {recorded : Except CloudLifecycleError CloudLifecycleLedger} (issued : h.issued = p.host.issued)
    (file : h.lifecycleFile = p.host.lifecycleFile) (found : p.state.ledger = some ledger)
    (advances : ∀ next, recorded = .ok next → ledger.Advances next ∧ Decided next.phase) :
    (commitResolution runner ledger resolution expected recorded).wp
      (fun shown p' => Touched Decided p p'.host ∧ ∃ next, Shows p p' ledger next shown ∧ Decided shown.phase)
      (fun _ p' => Touched Decided p p'.host ∧ p'.state = p.state) (fun p' => Touched Decided p p'.host)
      { p with host := h } := by
  apply wp_commitResolution
  apply wp_mono (runner_frame h fun _ beyond => keeps_resolveUnknown beyond runner _ _)
  · intro observation h' frame
    have issued' := frame.1.trans issued
    have file' := frame.2.trans file
    refine ⟨fun _ => ⟨.none issued' file', rfl⟩, ?_⟩
    intro next _ outcome
    obtain ⟨advances, decided⟩ := advances next outcome
    refine ⟨advances.valid, fun shown projected => ?_⟩
    apply wp_advance_memory (h := h') found advances decided issued' file'
    intro host touched
    have phase := (CloudLifecycleLedger.lifecycle_eq_ok projected).2
    exact ⟨touched, next, ⟨found, advances, projected, rfl⟩, by rw [phase]; exact decided⟩
  · intro _ h' frame
    exact ⟨.none (frame.1.trans issued) (frame.2.trans file), rfl⟩
  · intro h' frame
    exact .none (frame.1.trans issued) (frame.2.trans file)

/-- A replayed resolution answers with the record as it is. -/
theorem replayResolution_eq_ok {decision : UnknownSubmitDecision}
    (replayed : replayResolution ledger decision = .ok shown) : ledger.lifecycle = .ok shown := by
  unfold replayResolution at replayed
  cases projected : ledger.lifecycle with
  | error error => simp [projected, bind, Except.bind] at replayed
  | ok lifecycle =>
      simp only [projected, bind, Except.bind] at replayed
      split at replayed
      · exact replayed
      · cases replayed

theorem resolveUnknown_memory (op : CloudSubmitOperationId) (decision : UnknownSubmitDecision)
    (inv : ProcessInv decisive runner p) :
    (resolveUnknown runner op decision).wp
      (fun shown p' => Touched Decided p p'.host ∧ ∃ ledger next, Shows p p' ledger next shown ∧
        ledger.operationId = op ∧ shown.phase ≠ .submitting ∧ shown.phase ≠ .outcomeUnknown ∧
        (next = ledger ∨ ledger.phase = .outcomeUnknown))
      (fun _ p' => Touched Decided p p'.host ∧ p'.state = p.state) (fun p' => Touched Decided p p'.host) p := by
  have same : Touched Decided p p.host := .none rfl rfl
  have final : ∀ phase, Decided phase → phase ≠ .submitting ∧ phase ≠ .outcomeUnknown := by
    rintro phase (⟨status, rfl⟩ | rfl)
    · cases status <;> simp
    · simp
  have committed : ∀ ledger (h : Host) resolution expected recorded, Undecided op p ledger →
      h.issued = p.host.issued → h.lifecycleFile = p.host.lifecycleFile →
      (∀ next, recorded = .ok next → ledger.Advances next ∧ Decided next.phase) →
      (commitResolution runner ledger resolution expected recorded).wp
        (fun shown p' => Touched Decided p p'.host ∧ ∃ ledger next, Shows p p' ledger next shown ∧
          ledger.operationId = op ∧ shown.phase ≠ .submitting ∧ shown.phase ≠ .outcomeUnknown ∧
          (next = ledger ∨ ledger.phase = .outcomeUnknown))
        (fun _ p' => Touched Decided p p'.host ∧ p'.state = p.state)
        (fun p' => Touched Decided p p'.host) { p with host := h } := by
    intro ledger h resolution expected recorded undecided issued file advances
    apply wp_mono (commitResolution_memory resolution issued file undecided.found advances)
    · rintro shown p' ⟨touched, next, shows_, decided⟩
      exact ⟨touched, ledger, next, shows_, undecided.own, (final _ decided).1, (final _ decided).2,
        .inr undecided.unknown⟩
    · intro _ _ kept
      exact kept
    · intro _ kept
      exact kept
  apply wp_lifecycleResolveUnknown
  · intro _ time
    exact ⟨touched_time time, rfl⟩
  · exact touched_time
  · intro ledger shown found own settled replayed
    have projected := replayResolution_eq_ok replayed
    have phase := (CloudLifecycleLedger.lifecycle_eq_ok projected).2
    refine ⟨same, ledger, ledger, ⟨found, .refl (inv.accounted found).valid, projected, by rw [← found]⟩, own,
      ?_, ?_, .inl rfl⟩
    · intro starting
      simp [← phase, starting] at settled
    · intro unknown
      simp [← phase, unknown] at settled
  · intro ledger task status time undecided _ _ _ _
    apply committed ledger (p.host.atTime time) _ _ _ undecided rfl rfl
    intro next recorded
    obtain ⟨advances, reached⟩ :=
      CloudLifecycleLedger.advances_recordStatus (inv.accounted undecided.found).valid recorded
    exact ⟨advances, .inl ⟨status, reached⟩⟩
  · intro ledger undecided _
    apply committed ledger p.host _ _ _ undecided rfl rfl
    intro next recorded
    have valid := (inv.accounted undecided.found).valid
    obtain ⟨advances, reached⟩ :=
      CloudLifecycleLedger.advances_append valid (valid.taskless undecided.unknown) recorded
    exact ⟨advances, .inr reached⟩

/-! ## Starts -/

/-- A start that has claimed the slot. -/
structure Began (p p' : Process) (ticket : StartTicket) : Prop where
  free : p.Free
  own : ticket.operationId = p.nextOperation
  issued : p'.host.issued = p.host.issued + 1
  file : p'.host.lifecycleFile = some (.submitting ticket.operationId)
  state : p'.state = { p.state with
    ledger := some (.submitting ticket.operationId)
    cancellation := some {} }

/-- A start that was refused: at once, or after it had drawn an identifier. -/
structure Refused (p p' : Process) : Prop where
  state : p'.state = p.state
  issued : p'.host.issued = p.host.issued ∨ p'.host.issued = p.host.issued + 1
  file : p'.host.lifecycleFile = p.host.lifecycleFile ∨
    p.Free ∧ p'.host.issued = p.host.issued + 1 ∧
      p'.host.lifecycleFile = some (.submitting p.nextOperation)

theorem startBegin_memory :
    (startBegin runner).wp (fun ticket p' => Began p p' ticket) (fun _ p' => Refused p p')
      (fun _ => True) p := by
  apply wp_startBegin fun _ _ => ⟨rfl, .inl rfl, .inl rfl⟩
  intro free
  apply wp_mono (runner_frame _ fun _ beyond => keeps_observeSubmit beyond runner p.nextOperation)
  · intro observation h' frame
    refine ⟨fun _ _ => ⟨rfl, .inr frame.1, .inl frame.2⟩, fun _ => ?_⟩
    apply wp_write
    · intro host' issued stored
      exact ⟨free, rfl, issued.trans frame.1, stored, rfl⟩
    · intro error host' issued place
      refine ⟨rfl, .inr (issued.trans frame.1), ?_⟩
      rcases place with kept | stored
      · exact .inl (kept.trans frame.2)
      · exact .inr ⟨free, issued.trans frame.1, stored⟩
    · intro _ _ _
      trivial
  · intro error h' frame
    exact ⟨rfl, .inr frame.1, .inl frame.2⟩
  · intro _ _
    trivial

theorem startSubmit_memory (ticket : StartTicket) (prompt : CloudPrompt) :
    (startSubmit runner ticket prompt).wp
      (fun _ p' => p'.state = p.state ∧ p'.host.issued = p.host.issued ∧
        p'.host.lifecycleFile = p.host.lifecycleFile)
      (fun _ _ => False) (fun _ => True) p := by
  rw [startSubmit, wp_bind, wp_getState, wp_attempt, wp_onHost]
  apply wp_mono (runner_frame p.host fun _ beyond => keeps_submit beyond runner _ _)
  · intro _ _ frame
    exact ⟨rfl, frame⟩
  · intro _ _ frame
    exact ⟨rfl, frame⟩
  · intro _ _
    trivial

/-- The end of a start, with `ledger` in memory. -/
structure Ended (p p' : Process) (op : CloudSubmitOperationId)
    (result : Except CloudRunnerError CloudSubmission) (ledger : Option CloudLifecycleLedger) : Prop where
  state : p'.state = ⟨ledger, none, p.state.notifications + 1⟩
  issued : p'.host.issued = p.host.issued
  file : p'.host.lifecycleFile = p.host.lifecycleFile ∨
    p'.host.lifecycleFile = some (committedLedger op result)

theorem startCommit_memory {ticket : StartTicket} {result : Except CloudRunnerError CloudSubmission}
    (inv : ProcessInv decisive runner p) (answered : Answered decisive ticket result p) :
    (startCommit ticket result).wp
      (fun shown p' => Ended p p' ticket.operationId result (some (committedLedger ticket.operationId result)) ∧
        (committedLedger ticket.operationId result).lifecycle = .ok shown)
      (fun _ p' => Ended p p' ticket.operationId result p.state.ledger) (fun _ => True) p := by
  obtain ⟨projected, shown, -⟩ := (answered.accounted inv).valid.lifecycle
  rw [wp_congr (startCommit_eq answered)]
  simp only [commitStart, wp_bind, wp_ofExcept_ok, wp_attempt, persistAfterEffect,
    wp_mapError]
  apply wp_write
  · intro host issued stored
    simp only [shown, wp_ofExcept_ok]
    exact ⟨⟨rfl, issued, .inr stored⟩, rfl⟩
  · intro error host issued place
    exact ⟨rfl, issued, place⟩
  · intro _ _ _
    trivial

/-- A new process has no submit in flight. -/
theorem fromRunner_memory :
    (fromRunner runner).wp (fun _ p' => p'.state.cancellation = none) (fun _ _ => True) (fun _ => True) p := by
  have repaired : ∀ p : Process, p.state.cancellation = none → (repairInterruptedState runner).wp
      (fun _ p' => p'.state.cancellation = none) (fun _ _ => True) (fun _ => True) p := by
    intro p unsignaled
    apply wp_repairInterruptedState unsignaled
    intro current _ _
    apply wp_any _ (fun _ _ => trivial) (fun _ => trivial)
    intro observation h'
    refine ⟨fun _ => trivial, unsignaled, fun repaired _ => ?_⟩
    exact wp_write (fun _ _ _ => unsignaled) (fun _ _ _ _ => trivial) fun _ _ _ => trivial
  rw [fromRunner, wp_bind, wp_onHost]
  refine wp_any ?_ (fun _ _ => trivial) (fun _ => trivial)
  intro ledger h'
  rw [wp_bind, wp_modify]
  exact repaired _ rfl

end

end Codebox.Cloud
