import Codebox.Session.Sections

/-! # What a lock section can do

One inversion lemma for each section: either it changes nothing that matters, or it found the
state it needs and leaves exactly one new state. The proofs about runs use these and never unfold
a section again.
-/

namespace Codebox.Session

open Codebox.Cloud

namespace RuntimeState

variable {inner : Inner} {state state' : RuntimeState} {turn : TurnId} {record : TurnRecord}
  {projected : P0CloudLifecycle} {completed : Bool}

/-! ## Events -/

/-- An event about a turn is in the log. -/
def Logged (state : RuntimeState) (turn : TurnId) (payload : P0SessionEvent) : Prop :=
  ∃ event ∈ state.log, event.turnId = some turn ∧ event.payload = payload

/-- The cancellation of a turn was requested. -/
def Requested (state : RuntimeState) (turn : TurnId) : Prop :=
  ∃ actor, state.Logged turn (.cancelRequested actor)

section

variable (inner state) (about : Option TurnId) (payload : P0SessionEvent) (reason : CloseReason)

@[simp] theorem appendEvent_work : (appendEvent inner state about payload).work = state.work := rfl

@[simp] theorem logged_appendEvent {other : P0SessionEvent} :
    (appendEvent inner state about payload).Logged turn other ↔
      state.Logged turn other ∨ (about = some turn ∧ payload = other) := by
  simp [Logged, appendEvent, or_and_right, exists_or]

@[simp] theorem logged_closeSubscribers :
    (closeSubscribers state reason).Logged turn payload ↔ state.Logged turn payload := Iff.rfl

end

/-! ## Checks -/

@[simp] theorem requireRunningWorker_eq_ok : state.requireRunningWorker = .ok () ↔
    state.workerStopped = false ∧ state.shutdownRequested = false := by
  unfold requireRunningWorker
  cases state.workerStopped <;> cases state.shutdownRequested <;> simp

@[simp] theorem reserveEvents_eq_ok {count : Nat} :
    state.reserveEvents count = .ok () ↔ state.highWaterSeq + count ≤ maxSeq := by
  unfold reserveEvents
  split <;> simp_all

@[simp] theorem requireCurrentOperation_eq_ok {op : CloudSubmitOperationId} :
    state.requireCurrentOperation op = .ok () ↔ state.currentOperation = some op := by
  unfold requireCurrentOperation
  split <;> simp_all

@[simp] theorem turnNamed_eq_some : state.turnNamed turn = some record ↔
    state.currentTurn = some record ∧ record.turnId = turn := by
  simp [turnNamed, Option.filter_eq_some_iff]

theorem turnNamed_eq_none : state.turnNamed turn = none ↔
    ∀ record, state.currentTurn = some record → record.turnId ≠ turn := by
  simp [turnNamed, Option.filter_eq_none_iff]

theorem updateTurn_other (other : state.turnNamed turn = none) (f : TurnRecord → TurnRecord) :
    state.updateTurn turn f = state := by
  cases state with
  | mk _ current =>
      cases current with
      | none => rfl
      | some record => simp [updateTurn, turnNamed_eq_none.mp other record rfl]

theorem updateTurn_current (current : state.currentTurn = some record) (named : record.turnId = turn)
    (f : TurnRecord → TurnRecord) :
    state.updateTurn turn f = { state with currentTurn := some (f record) } := by
  simp [updateTurn, current, named]

/-! ## Stopping -/

/-- What a stop leaves of the current turn. -/
def turnAtStop (reason : P0RuntimeStopReason) (record : TurnRecord) : TurnRecord :=
  if reason = .shutdown ∧ startNotAdmitted record = true then
    { record with projection := .stoppedBeforeCloudStart }
  else record

theorem stopWorker_stopped (stopped : state.workerStopped = true) (reason : P0RuntimeStopReason) :
    stopWorker inner state reason = state := by
  simp [stopWorker, stopped]

/-- `state'` is what a stop leaves of `state`. -/
structure Halted (reason : P0RuntimeStopReason) (state state' : RuntimeState) : Prop where
  workerStopped : state'.workerStopped = true
  work : state'.work = none
  sessionState : state'.sessionState = .stopped
  shutdownRequested : state'.shutdownRequested = state.shutdownRequested
  currentTurn : state'.currentTurn = state.currentTurn.map (turnAtStop reason)
  logged : ∀ {turn payload}, payload ≠ .runtimeStopped reason →
    (state'.Logged turn payload ↔ state.Logged turn payload)

theorem stopWorker_running (inner : Inner) (state : RuntimeState) (running : state.workerStopped = false)
    (reason : P0RuntimeStopReason) : Halted reason state (stopWorker inner state reason) := by
  have turn : (if reason = .shutdown then state.currentTurn.map fun turn =>
        if startNotAdmitted turn then { turn with projection := .stoppedBeforeCloudStart } else turn
      else state.currentTurn) = state.currentTurn.map (turnAtStop reason) := by
    cases reason <;> cases state.currentTurn <;> simp [turnAtStop]
  simp only [stopWorker, running, Bool.false_eq_true, if_false, turn]
  split
  · refine ⟨rfl, rfl, rfl, rfl, rfl, fun other => ?_⟩
    simp only [logged_closeSubscribers, logged_appendEvent, other.symm, and_false, or_false]
    exact Iff.rfl
  · exact ⟨rfl, rfl, rfl, rfl, rfl, fun _ => Iff.rfl⟩

theorem stopWorker_stops (inner : Inner) (state : RuntimeState) (reason : P0RuntimeStopReason) :
    (stopWorker inner state reason).workerStopped = true := by
  obtain stopped | up := state.workerStopped.eq_false_or_eq_true
  · rw [stopWorker_stopped stopped]
    exact stopped
  · exact (stopWorker_running inner state up reason).workerStopped

theorem stopAfterLowerFailure_stopped (inner : Inner) (state : RuntimeState) (stopped : state.workerStopped = true)
    (other : state.turnNamed turn = none) : stopAfterLowerFailure inner state turn = state := by
  rw [stopAfterLowerFailure, updateTurn_other other, stopWorker_stopped stopped]

theorem stopAfterLowerFailure_running (inner : Inner) (state : RuntimeState)
    (running : state.workerStopped = false) (turn : TurnId) :
    Halted .lowerFailure (state.updateTurn turn fun record =>
      { record with projection := .stoppedAfterLowerFailure }) (stopAfterLowerFailure inner state turn) := by
  apply stopWorker_running
  exact running

/-! ## Showing a lifecycle -/

/-- The lifecycle a turn shows may be replaced by the given one. -/
def Replaceable (record : TurnRecord) (projected : P0CloudLifecycle) : Prop :=
  ∀ current, record.projection.lifecycle = some current →
    current.operationId = projected.operationId ∧ lifecycleTransitionAllowed current projected = true

theorem replaceable_iff : Replaceable record projected ↔ invalidTransition record projected = false := by
  unfold Replaceable invalidTransition
  cases record.projection.lifecycle <;> simp

/-- The state that shows a lifecycle for the current turn. -/
def showing (state : RuntimeState) (record : TurnRecord) (projected : P0CloudLifecycle)
    (cancelCompleted : Bool) : RuntimeState :=
  { state with
    sessionState := stateForLifecycle projected
    work := if projected.isPending then state.work else none
    currentTurn := some { record with
      projection := .cloud projected record.projection.isCancelRequested
      cancelCompleted := record.cancelCompleted || cancelCompleted } }

theorem applyProjectedLifecycle_eq_ok :
    applyProjectedLifecycle state turn projected completed = .ok state' ↔
      ∃ record, state.currentTurn = some record ∧ record.turnId = turn ∧ Replaceable record projected ∧
        state' = state.showing record projected completed := by
  unfold applyProjectedLifecycle
  cases named : state.turnNamed turn with
  | none =>
      simp only [reduceCtorEq, false_iff, not_exists, not_and]
      intro record current same
      exact absurd same (turnNamed_eq_none.mp named record current)
  | some record =>
      obtain ⟨current, same⟩ := turnNamed_eq_some.mp named
      constructor
      · intro applied
        dsimp only at applied
        split at applied
        · cases applied
        · rename_i valid
          cases applied
          exact ⟨record, current, same, replaceable_iff.mpr (by simpa using valid), rfl⟩
      · rintro ⟨other, current', -, valid, rfl⟩
        cases current.symm.trans current'
        simp [replaceable_iff.mp valid, showing]

@[simp] theorem showing_currentTurn (state : RuntimeState) (record : TurnRecord)
    (projected : P0CloudLifecycle) (completed : Bool) :
    (state.showing record projected completed).currentTurn = some { record with
      projection := .cloud projected record.projection.isCancelRequested
      cancelCompleted := record.cancelCompleted || completed } := rfl

/-- Publish a lifecycle if it is a new one. -/
def reporting (inner : Inner) (changed : Bool) (turn : TurnId) (projected : P0CloudLifecycle)
    (state : RuntimeState) : RuntimeState :=
  if changed then appendEvent inner state (some turn) (.lifecycleChanged projected) else state

@[simp] theorem reporting_currentTurn (inner : Inner) (changed : Bool) (turn : TurnId)
    (projected : P0CloudLifecycle) (state : RuntimeState) :
    (reporting inner changed turn projected state).currentTurn = state.currentTurn := by
  unfold reporting
  split <;> rfl

@[simp] theorem reporting_workerStopped (inner : Inner) (changed : Bool) (turn : TurnId)
    (projected : P0CloudLifecycle) (state : RuntimeState) :
    (reporting inner changed turn projected state).workerStopped = state.workerStopped := by
  unfold reporting
  split <;> rfl

/-! ## Commands -/

theorem startTurn_cases (inner : Inner) (state : RuntimeState) (turn : TurnId) (prompt : CloudPrompt) :
    (startTurn inner turn prompt state).2 = state ∨
      state.workerStopped = false ∧ state.shutdownRequested = false ∧ state.sessionState = .ready ∧
        state.highWaterSeq < maxSeq ∧ (startTurn inner turn prompt state).2 = appendEvent inner { state with
          sessionState := .running
          currentTurn := some { turnId := turn, projection := .queued }
          work := some (.start turn prompt) } (some turn) .turnAccepted := by
  unfold startTurn
  split
  · exact .inl rfl
  · rename_i running
    obtain ⟨up, live⟩ := requireRunningWorker_eq_ok.mp running
    split
    · exact .inl rfl
    · rename_i ready
      split
      · exact .inl rfl
      · rename_i room
        exact .inr ⟨up, live, not_not.mp ready, reserveEvents_eq_ok.mp room, rfl⟩

theorem requestCancel_cases {actor : P0Actor} (requested : requestCancel inner actor record state = .ok state') :
    record.projection.isCancelRequested = true ∧ state' = state ∨
      record.projection.isCancelRequested = false ∧ state.highWaterSeq < maxSeq ∧ state' = appendEvent inner { state with
        currentTurn := some { record with projection := record.projection.requestCancel } }
        (some record.turnId) (.cancelRequested actor) := by
  unfold requestCancel at requested
  split at requested
  · rename_i already
    cases requested
    exact .inl ⟨already, rfl⟩
  · rename_i fresh
    split at requested
    · cases requested
    · rename_i room
      cases requested
      exact .inr ⟨by simpa using fresh, reserveEvents_eq_ok.mp room, rfl⟩

theorem latchCancel_cases (inner : Inner) (current : state.currentTurn = some record) :
    (∀ turn pending, (latchCancel inner state).1 ≠ .ok (.proceed turn pending)) ∧
        (latchCancel inner state).2 = state ∨
      record.cancelCompleted = false ∧ record.cancelInProgress = false ∧
        ∃ pending, (latchCancel inner state).1 = .ok (.proceed record.turnId pending) ∧
          (latchCancel inner state).2 = { state with
            currentTurn := some { record with cancelInProgress := true }
            work := if pending then state.work else none } := by
  simp only [latchCancel, current]
  split
  · exact .inl ⟨by simp, rfl⟩
  · rename_i open'
    split
    · exact .inl ⟨by simp, rfl⟩
    · rename_i free
      exact .inr ⟨by simpa using open', by simpa using free, _, rfl, rfl⟩

theorem cancelTurn_cases (inner : Inner) (state : RuntimeState) (actor : P0Actor) :
    (∀ turn pending, (cancelTurn inner actor state).1 ≠ .ok (.proceed turn pending)) ∧
        (cancelTurn inner actor state).2 = state ∨
      state.workerStopped = false ∧ state.shutdownRequested = false ∧
      (state.sessionState = .running ∨ state.sessionState = .monitoringDegraded) ∧
      ∃ record, state.currentTurn = some record ∧
        (record.projection = .queued ∧
            (∀ turn pending, (cancelTurn inner actor state).1 ≠ .ok (.proceed turn pending)) ∧
            state.highWaterSeq < maxSeq ∧ (cancelTurn inner actor state).2 = appendEvent inner { state with
              work := none
              sessionState := .ready
              currentTurn := some { record with
                projection := .canceledBeforeCloudStart, cancelCompleted := true } }
              (some record.turnId) .turnCanceledBeforeCloudStart ∨
          record.projection ≠ .queued ∧ ∃ requested,
            requestCancel inner actor record state = .ok requested ∧
            cancelTurn inner actor state = latchCancel inner requested) := by
  unfold cancelTurn
  split
  · exact .inl ⟨by simp, rfl⟩
  · rename_i running
    obtain ⟨up, live⟩ := requireRunningWorker_eq_ok.mp running
    split
    · exact .inl ⟨by simp, rfl⟩
    · split
      · exact .inl ⟨by simp, rfl⟩
      · rename_i active
        have active : state.sessionState = .running ∨ state.sessionState = .monitoringDegraded := by
          by_cases run : state.sessionState = .running
          · exact .inl run
          · exact .inr (not_not.mp fun other => active ⟨run, other⟩)
        split
        · exact .inl ⟨by simp, rfl⟩
        · rename_i record current
          split
          · rename_i queued
            unfold cancelQueued
            split
            · exact .inl ⟨by simp, rfl⟩
            · rename_i room
              exact .inr ⟨up, live, active, record, current, .inl ⟨queued, by simp, reserveEvents_eq_ok.mp room, rfl⟩⟩
          · rename_i claimed
            split
            · exact .inl ⟨by simp, rfl⟩
            · rename_i requested asked
              exact .inr ⟨up, live, active, record, current, .inr ⟨claimed, requested, asked, rfl⟩⟩

/-- Room is asked for only if there is something new to say. -/
theorem room_of_changed {shown : Option P0CloudLifecycle}
    (room : (if (shown != some projected) = true then state.reserveEvents 1 else .ok ()) = .ok ()) :
    shown ≠ some projected → state.highWaterSeq < maxSeq := by
  intro changed
  rw [if_pos (by simpa using changed)] at room
  exact reserveEvents_eq_ok.mp room

theorem commitCancelResult_cases (inner : Inner) (state : RuntimeState) (turn : TurnId) (projected : P0CloudLifecycle) :
    (commitCancelResult inner turn projected state).2 = state ∨
      state.workerStopped = false ∧ ∃ record, state.currentTurn = some record ∧ record.turnId = turn ∧
        (∀ op, record.projection.operation = some op → op = projected.operationId) ∧
        Replaceable record projected ∧
        (record.projection.lifecycle ≠ some projected → state.highWaterSeq < maxSeq) ∧
        (commitCancelResult inner turn projected state).2 =
          reporting inner (record.projection.lifecycle != some projected) turn projected
            (finishCancel (state.showing record projected true)) := by
  unfold commitCancelResult
  split
  · exact .inl rfl
  · rename_i up
    split
    · exact .inl rfl
    · rename_i record named
      obtain ⟨current, same⟩ := turnNamed_eq_some.mp named
      split
      · exact .inl rfl
      · rename_i agrees
        dsimp only
        split
        · exact .inl rfl
        · rename_i room
          split
          · exact .inl rfl
          · rename_i applied shown
            obtain ⟨other, current', -, valid, rfl⟩ := applyProjectedLifecycle_eq_ok.mp shown
            cases current.symm.trans current'
            refine .inr ⟨by simpa using up, record, current, same, ?_, valid, room_of_changed room, rfl⟩
            intro op has
            simpa [has] using agrees

theorem commitResolve_cases (inner : Inner) (state : RuntimeState) (now : Nat) (actor : P0Actor) (op : CloudSubmitOperationId)
    (decision : UnknownSubmitDecision) (projected : P0CloudLifecycle) :
    (commitResolve inner now actor op decision projected state).2 = state ∨
      state.workerStopped = false ∧ state.shutdownRequested = false ∧
      state.highWaterSeq + 2 ≤ maxSeq ∧ ∃ record,
        state.currentTurn = some record ∧ record.projection.operation = some op ∧
        Replaceable record projected ∧
        (commitResolve inner now actor op decision projected state).2 =
          queueMonitor inner now record.turnId projected
            (appendEvent inner (appendEvent inner (state.showing record projected false)
              (some record.turnId) (.recoveryResolved actor op (decisionKind decision)))
              (some record.turnId) (.lifecycleChanged projected)) := by
  unfold commitResolve
  split
  · exact .inl rfl
  · rename_i named
    split
    · exact .inl rfl
    · rename_i running
      obtain ⟨up, live⟩ := requireRunningWorker_eq_ok.mp running
      split
      · exact .inl rfl
      · rename_i room
        split
        · exact .inl rfl
        · rename_i record current
          split
          · exact .inl rfl
          · rename_i applied shown
            obtain ⟨other, current', -, valid, rfl⟩ := applyProjectedLifecycle_eq_ok.mp shown
            cases current.symm.trans current'
            have has := requireCurrentOperation_eq_ok.mp named
            rw [currentOperation, current] at has
            exact .inr ⟨up, live, reserveEvents_eq_ok.mp room, record, current, has, valid, rfl⟩

theorem requestShutdown_cases (inner : Inner) (state : RuntimeState) :
    (requestShutdown inner state).2 = state ∨
      (requestShutdown inner state).2 = { state with shutdownRequested := true } ∨
      ∃ record, state.currentTurn = some record ∧ record.projection = .queued ∧ state.highWaterSeq < maxSeq ∧
        (requestShutdown inner state).2 = closeSubscribers (appendEvent inner { state with
          shutdownRequested := true
          work := none
          sessionState := .stopped
          workerStopped := true
          currentTurn := some { record with projection := .stoppedBeforeCloudStart } }
          (some record.turnId) (.runtimeStopped .shutdown)) .runtimeStopped := by
  unfold requestShutdown
  split
  · exact .inl rfl
  · dsimp only
    split
    · exact .inr (.inl rfl)
    · rename_i record waiting
      split
      · exact .inr (.inl rfl)
      · rename_i room
        obtain ⟨current, queued⟩ := Option.filter_eq_some_iff.mp waiting
        exact .inr (.inr ⟨record, current, by simpa using queued, reserveEvents_eq_ok.mp room, rfl⟩)

/-- The sections that only hand out or record information leave the turn, the work and the
worker's state alone, and publish neither a lifecycle nor a cancellation. -/
structure Quiet (state state' : RuntimeState) : Prop where
  currentTurn : state'.currentTurn = state.currentTurn
  sessionState : state'.sessionState = state.sessionState
  work : state'.work = state.work
  shutdownRequested : state'.shutdownRequested = state.shutdownRequested
  workerStopped : state'.workerStopped = state.workerStopped
  requested : ∀ {turn actor}, state'.Logged turn (.cancelRequested actor) ↔
    state.Logged turn (.cancelRequested actor)
  published : ∀ {turn lifecycle}, state'.Logged turn (.lifecycleChanged lifecycle) ↔
    state.Logged turn (.lifecycleChanged lifecycle)

theorem Quiet.refl (state : RuntimeState) : Quiet state state :=
  ⟨rfl, rfl, rfl, rfl, rfl, Iff.rfl, Iff.rfl⟩

theorem commitReconcile_quiet (inner : Inner) (state : RuntimeState) (actor : P0Actor) (expected : CloudSubmitOperationId)
    (candidates : P0RecoveryCandidates) :
    Quiet state (commitReconcile inner actor expected candidates state).2 := by
  unfold commitReconcile
  split
  · exact .refl state
  · split
    · exact .refl state
    · exact ⟨rfl, rfl, rfl, rfl, rfl, by simp, by simp⟩

theorem subscribe_quiet (inner : Inner) (state : RuntimeState) (session : SessionId) (afterSeq : Nat) :
    Quiet state (subscribe inner session afterSeq state).2 := by
  unfold subscribe
  split
  · exact .refl state
  · split
    · exact .refl state
    · split
      · exact .refl state
      · split
        · exact .refl state
        · split
          · exact .refl state
          · exact ⟨rfl, rfl, rfl, rfl, rfl, Iff.rfl, Iff.rfl⟩

theorem subscribe_log (inner : Inner) (state : RuntimeState) (session : SessionId) (afterSeq : Nat) :
    (subscribe inner session afterSeq state).2.log = state.log := by
  unfold subscribe
  repeat' split
  all_goals rfl

theorem receive_quiet (state : RuntimeState) (subscriber : Nat) : Quiet state (receive subscriber state) :=
  ⟨rfl, rfl, rfl, rfl, rfl, Iff.rfl, Iff.rfl⟩

theorem dropReceiver_quiet (state : RuntimeState) (subscriber : Nat) : Quiet state (dropReceiver subscriber state) :=
  ⟨rfl, rfl, rfl, rfl, rfl, Iff.rfl, Iff.rfl⟩

/-! ## The worker -/

theorem nextWorkerAction_cases {now : Nat} {action : WorkerAction}
    (chosen : nextWorkerAction inner now state = some (action, state')) :
    state.shutdownRequested = true ∧ action = .stop ∧ state' = stopWorker inner state .shutdown ∨
    (∃ record, state.shutdownRequested = false ∧ state.currentTurn = some record ∧
      cancellationDue record = true ∧ action = .cancel record.turnId ∧
      state' = { state with currentTurn := some { record with cancelInProgress := true }, work := none }) ∨
    (∃ record prompt, state.shutdownRequested = false ∧ state.currentTurn = some record ∧
      state.work = some (.start record.turnId prompt) ∧ action = .start record.turnId prompt ∧
      state' = { state with
        work := none
        currentTurn := some { record with projection := .starting false, lowerStartAdmitted := false } }) ∨
    (∃ turn prompt, state.work = some (.start turn prompt) ∧ state.turnNamed turn = none ∧
      state' = stopWorker inner { state with work := none } .lowerFailure) ∨
    ∃ turn due failures, state.shutdownRequested = false ∧ state.work = some (.monitor turn due failures) ∧
      action = .monitor turn failures ∧ state' = { state with work := none } := by
  unfold nextWorkerAction at chosen
  split at chosen
  · rename_i down
    cases chosen
    exact .inl ⟨down, rfl, rfl⟩
  · rename_i live
    have live : state.shutdownRequested = false := by simpa using live
    split at chosen
    · rename_i record waiting
      cases chosen
      obtain ⟨current, due⟩ := Option.filter_eq_some_iff.mp waiting
      exact .inr (.inl ⟨record, live, current, due, rfl, rfl⟩)
    · unfold claimWork at chosen
      split at chosen
      · rename_i turn prompt queued
        dsimp only at chosen
        split at chosen
        · rename_i record named
          obtain ⟨current, rfl⟩ := turnNamed_eq_some.mp named
          cases chosen
          exact .inr (.inr (.inl ⟨record, prompt, live, current, queued, rfl, rfl⟩))
        · rename_i missing
          cases chosen
          exact .inr (.inr (.inr (.inl ⟨turn, prompt, queued, missing, rfl⟩)))
      · rename_i turn due failures queued
        split at chosen
        · cases chosen
        · cases chosen
          exact .inr (.inr (.inr (.inr ⟨turn, due, failures, live, queued, rfl, rfl⟩)))
      · cases chosen

theorem admitStart_cases (inner : Inner) (state : RuntimeState) (turn : TurnId) :
    state.shutdownRequested = true ∧ admitStart inner turn state = (false, stopWorker inner state .shutdown) ∨
    admitStart inner turn state = (false, stopAfterLowerFailure inner state turn) ∨
    ∃ record, state.shutdownRequested = false ∧ state.currentTurn = some record ∧ record.turnId = turn ∧
      (record.projection.isCancelRequested = true ∧ state.highWaterSeq < maxSeq ∧ admitStart inner turn state =
          (false, appendEvent inner { state with
            sessionState := .ready
            currentTurn := some { record with
              projection := .canceledBeforeCloudStart
              cancelInProgress := false
              cancelCompleted := true } } (some turn) .turnCanceledBeforeCloudStart) ∨
        record.projection.isCancelRequested = false ∧ admitStart inner turn state =
          (true, { state with currentTurn := some { record with lowerStartAdmitted := true } })) := by
  unfold admitStart
  split
  · rename_i down
    exact .inl ⟨down, rfl⟩
  · rename_i live
    have live : state.shutdownRequested = false := by simpa using live
    split
    · exact .inr (.inl rfl)
    · rename_i record named
      obtain ⟨current, same⟩ := turnNamed_eq_some.mp named
      split
      · rename_i asked
        split
        · exact .inr (.inl rfl)
        · rename_i room
          exact .inr (.inr ⟨record, live, current, same, .inl ⟨asked, reserveEvents_eq_ok.mp room, rfl⟩⟩)
      · rename_i unasked
        exact .inr (.inr ⟨record, live, current, same, .inr ⟨by simpa using unasked, rfl⟩⟩)

/-- An unknown outcome makes the session ask for recovery before anything is checked. -/
def latchUnknown (state : RuntimeState) (projected : P0CloudLifecycle) : RuntimeState :=
  if projected.isUnknown then { state with sessionState := .recoveryRequired } else state

/-- The current turn still needs a lower cancellation that nobody makes. -/
def OwesCancel (record : TurnRecord) : Prop :=
  record.projection.isCancelRequested = true ∧ record.cancelInProgress = false ∧
    record.cancelCompleted = false

theorem handleStartResult_error (inner : Inner) (state : RuntimeState) (now : Nat) (turn : TurnId)
    (error : CloudLifecycleError) : handleStartResult inner now turn (.error error) state =
      (false, stopAfterLowerFailure inner state turn) := rfl

theorem showing_latchUnknown :
    (state.latchUnknown projected).showing record projected completed =
      state.showing record projected completed := by
  unfold latchUnknown
  split <;> rfl

theorem handleStartResult_ok (inner : Inner) (state : RuntimeState) (now : Nat) (turn : TurnId) (projected : P0CloudLifecycle) :
    handleStartResult inner now turn (.ok projected) state =
        (false, stopAfterLowerFailure inner (state.latchUnknown projected) turn) ∨
    ∃ record, state.currentTurn = some record ∧ record.turnId = turn ∧ Replaceable record projected ∧
      state.highWaterSeq < maxSeq ∧ (state.shutdownRequested = true → state.highWaterSeq + 1 < maxSeq) ∧
      handleStartResult inner now turn (.ok projected) state = afterStartShown inner now turn projected
        (appendEvent inner (state.showing record projected false) (some turn)
          (.lifecycleChanged projected)) := by
  have latched : (if projected.isUnknown then { state with sessionState := .recoveryRequired } else state) =
      state.latchUnknown projected := rfl
  have kept : (state.latchUnknown projected).currentTurn = state.currentTurn ∧
      (state.latchUnknown projected).highWaterSeq = state.highWaterSeq ∧
      (state.latchUnknown projected).shutdownRequested = state.shutdownRequested := by
    unfold latchUnknown
    split <;> exact ⟨rfl, rfl, rfl⟩
  obtain ⟨turns, counter, down⟩ := kept
  simp only [handleStartResult, latched]
  split
  · exact .inl rfl
  · rename_i room
    split
    · exact .inl rfl
    · rename_i applied shown
      obtain ⟨record, current, same, valid, rfl⟩ := applyProjectedLifecycle_eq_ok.mp shown
      rw [reserveEvents_eq_ok, counter, down] at room
      refine .inr ⟨record, turns ▸ current, same, valid, ?_, fun shutting => ?_, by rw [showing_latchUnknown]⟩
      · split at room <;> omega
      · rwa [if_pos shutting] at room

theorem afterStartShown_cases (inner : Inner) (now : Nat) (projected : P0CloudLifecycle)
    (current : state.currentTurn = some record) (same : record.turnId = turn) :
    state.shutdownRequested = true ∧ afterStartShown inner now turn projected state =
        (false, closeSubscribers (appendEvent inner { state with
          sessionState := .stopped, workerStopped := true } (some turn) (.runtimeStopped .shutdown))
          .runtimeStopped) ∨
    state.shutdownRequested = false ∧ OwesCancel record ∧ projected.isPending = true ∧
      afterStartShown inner now turn projected state =
        (true, { state with currentTurn := some { record with cancelInProgress := true } }) ∨
    state.shutdownRequested = false ∧ ¬(OwesCancel record ∧ projected.isPending = true) ∧
      afterStartShown inner now turn projected state =
        (false, queueMonitor inner now turn projected state) := by
  unfold afterStartShown
  split
  · rename_i down
    exact .inl ⟨down, rfl⟩
  · rename_i live
    have live : state.shutdownRequested = false := by simpa using live
    split
    · rename_i owing found
      obtain ⟨named, owes⟩ := Option.filter_eq_some_iff.mp found
      obtain ⟨current', -⟩ := turnNamed_eq_some.mp named
      cases current.symm.trans current'
      simp only [Bool.and_eq_true, Bool.not_eq_true'] at owes
      exact .inr (.inl ⟨live, ⟨owes.1.1.1, owes.1.1.2, owes.1.2⟩, owes.2, rfl⟩)
    · rename_i missing
      refine .inr (.inr ⟨live, ?_, rfl⟩)
      rintro ⟨⟨asked, free, undone⟩, pending⟩
      have named := turnNamed_eq_some.mpr ⟨current, same⟩
      simp [named, asked, free, undone, pending] at missing

theorem commitWorkerCancel_eq_ok (done : commitWorkerCancel inner turn projected state = .ok state') :
    ∃ record, state.currentTurn = some record ∧ record.turnId = turn ∧ Replaceable record projected ∧
      state.highWaterSeq < maxSeq ∧ state' = appendEvent inner (finishCancel (state.showing record projected true)) (some turn)
        (.lifecycleChanged projected) := by
  unfold commitWorkerCancel at done
  split at done
  · cases done
  · rename_i room
    split at done
    · cases done
    · rename_i applied shown
      obtain ⟨record, current, same, valid, rfl⟩ := applyProjectedLifecycle_eq_ok.mp shown
      cases done
      exact ⟨record, current, same, valid, reserveEvents_eq_ok.mp room, rfl⟩

/-- A failed read keeps the last pending lifecycle on show. -/
def degraded (state : RuntimeState) (record : TurnRecord) (lastKnownPending : P0CloudLifecycle) :
    RuntimeState :=
  { state with
    sessionState := .monitoringDegraded
    currentTurn := some { record with
      projection := .monitoringDegraded lastKnownPending.operationId lastKnownPending
        record.projection.isCancelRequested } }

theorem degradeMonitoring_cases (inner : Inner) (state : RuntimeState) (now failures : Nat) (turn : TurnId) :
    degradeMonitoring inner now turn failures state = stopAfterLowerFailure inner state turn ∨
    ∃ record pending due, state.currentTurn = some record ∧ record.projection.lifecycle = some pending ∧
      pending.isPending = true ∧ ∃ failures' reported,
        (reported = state.degraded record pending ∨ state.highWaterSeq < maxSeq ∧ reported = appendEvent inner
          (state.degraded record pending) (some turn) .monitoringDegraded) ∧
        degradeMonitoring inner now turn failures state =
          { reported with work := some (.monitor turn due failures') } := by
  unfold degradeMonitoring
  split
  · rename_i record pending current shown
    obtain ⟨shown, waits⟩ := Option.filter_eq_some_iff.mp shown
    rw [currentLifecycle, current] at shown
    cases state.sessionState == .monitoringDegraded with
    | true => exact .inr ⟨record, pending, _, current, shown, waits, _, _, .inl rfl, rfl⟩
    | false =>
        cases room : state.reserveEvents 1 with
        | error error => exact .inl rfl
        | ok =>
            have room := reserveEvents_eq_ok.mp room
            exact .inr ⟨record, pending, _, current, shown, waits, _, _, .inr ⟨room, rfl⟩, rfl⟩
  · exact .inl rfl

theorem showInspected_cases (inner : Inner) (state : RuntimeState) (now : Nat) (turn : TurnId) (projected : P0CloudLifecycle) :
    showInspected inner now turn projected state = stopAfterLowerFailure inner state turn ∨
    ∃ record, state.currentTurn = some record ∧ record.turnId = turn ∧ Replaceable record projected ∧
      (record.projection.lifecycle ≠ some projected → state.highWaterSeq < maxSeq) ∧
      showInspected inner now turn projected state = queueMonitor inner now turn projected
        (reporting inner (record.projection.lifecycle != some projected) turn projected
          (state.showing record projected false)) := by
  unfold showInspected
  dsimp only
  split
  · exact .inl rfl
  · rename_i room
    split
    · exact .inl rfl
    · rename_i applied shown
      obtain ⟨record, current, same, valid, rfl⟩ := applyProjectedLifecycle_eq_ok.mp shown
      have shown : state.currentLifecycle = record.projection.lifecycle := by
        rw [currentLifecycle, current]
        rfl
      rw [shown] at room ⊢
      exact .inr ⟨record, current, same, valid, room_of_changed room, rfl⟩

theorem showThenStop_cases (inner : Inner) (state : RuntimeState) (turn : TurnId)
    (result : Except CloudLifecycleError P0CloudLifecycle) :
    showThenStop inner turn result state = stopWorker inner state .shutdown ∨
    ∃ record projected, result = .ok projected ∧ state.currentTurn = some record ∧
      record.turnId = turn ∧ Replaceable record projected ∧ state.highWaterSeq + 2 ≤ maxSeq ∧
      showThenStop inner turn result state = stopWorker inner
        (appendEvent inner (state.showing record projected false) (some turn)
          (.lifecycleChanged projected)) .shutdown := by
  unfold showThenStop
  cases result with
  | error error => exact .inl rfl
  | ok projected =>
      dsimp only
      split
      · rename_i applied room shown
        obtain ⟨record, current, same, valid, rfl⟩ := applyProjectedLifecycle_eq_ok.mp shown
        exact .inr ⟨record, projected, rfl, current, same, valid, reserveEvents_eq_ok.mp room, rfl⟩
      · exact .inl rfl

theorem handleMonitorResult_cases (inner : Inner) (state : RuntimeState) (now failures : Nat) (turn : TurnId)
    (result : Except CloudLifecycleError P0CloudLifecycle) :
    (∃ shown, state.currentLifecycle = some shown ∧ shown.isTerminal = true ∧
      handleMonitorResult inner now turn failures result state = { state with work := none }) ∨
    (∀ shown, state.currentLifecycle = some shown → shown.isTerminal = false) ∧
      (state.shutdownRequested = true ∧ handleMonitorResult inner now turn failures result state =
          showThenStop inner turn result state ∨
        state.shutdownRequested = false ∧
          ((∃ projected, result = .ok projected ∧
              handleMonitorResult inner now turn failures result state =
                showInspected inner now turn projected state) ∨
            (∃ error, result = .error error ∧ handleMonitorResult inner now turn failures result state =
                degradeMonitoring inner now turn failures state) ∨
            handleMonitorResult inner now turn failures result state =
              stopAfterLowerFailure inner state turn)) := by
  unfold handleMonitorResult
  split
  · rename_i done
    cases shows : state.currentLifecycle with
    | none => simp [shows] at done
    | some shown => exact .inl ⟨shown, rfl, by simpa [shows] using done, rfl⟩
  · rename_i going
    refine .inr ⟨fun shown shows => by simpa [shows] using going, ?_⟩
    split
    · rename_i down
      exact .inl ⟨down, rfl⟩
    · rename_i live
      refine .inr ⟨by simpa using live, ?_⟩
      cases result with
      | ok projected => exact .inl ⟨projected, rfl, rfl⟩
      | error error =>
          dsimp only
          split
          · exact .inr (.inl ⟨error, rfl, rfl⟩)
          · exact .inr (.inr rfl)

end RuntimeState

end Codebox.Session
