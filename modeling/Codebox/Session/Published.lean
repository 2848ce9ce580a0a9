import Codebox.Session.ControlRuns
import Codebox.Session.Feed

/-! # The lifecycles a turn publishes

Six sections publish a lifecycle of the current turn, and all of them replace the one on show by
the same rule. What a section does to the turn and to its published lifecycles is one of four
things: nothing, a new turn, a failure, or one more lifecycle on show.
-/

namespace Codebox.Session

open Codebox.Support Codebox.Cloud

def P0SessionEvent.lifecycle : P0SessionEvent → Option P0CloudLifecycle
  | .lifecycleChanged lifecycle => some lifecycle
  | .turnAccepted | .turnCanceledBeforeCloudStart | .cancelRequested _ | .monitoringDegraded | .recoveryObserved _ _
  | .recoveryResolved _ _ _ | .runtimeStopped _ => none

def P0SessionEventEnvelope.lifecycleOf (turn : TurnId) (event : P0SessionEventEnvelope) : Option P0CloudLifecycle :=
  if event.turnId = some turn then event.payload.lifecycle else none

/-- What matters of a turn for its lifecycles: the one on show, and whether a failure took it off. -/
structure Shown where
  turnId : TurnId
  lifecycle : Option P0CloudLifecycle
  failed : Bool
  deriving Repr, DecidableEq

def TurnRecord.shown (record : TurnRecord) : Shown :=
  ⟨record.turnId, record.projection.lifecycle, record.projection == .stoppedAfterLowerFailure⟩

namespace RuntimeState

/-- The lifecycles published for a turn, oldest first. -/
def published (rt : RuntimeState) (turn : TurnId) : List P0CloudLifecycle :=
  rt.log.filterMap (P0SessionEventEnvelope.lifecycleOf turn)

def shown (rt : RuntimeState) : Option Shown := rt.currentTurn.map TurnRecord.shown

variable {inner : Inner} {rt rt' mid : RuntimeState} {turn : TurnId} {record : TurnRecord} {projected : P0CloudLifecycle}

@[simp] theorem published_appendEvent (about : Option TurnId) (payload : P0SessionEvent) :
    (rt.appendEvent inner about payload).published turn =
      rt.published turn ++ (if about = some turn then payload.lifecycle.toList else []) := by
  unfold published appendEvent
  dsimp only
  rw [List.filterMap_append]
  congr 1
  by_cases same : about = some turn
  · cases kind : payload.lifecycle <;> simp [P0SessionEventEnvelope.lifecycleOf, same, kind]
  · simp [P0SessionEventEnvelope.lifecycleOf, same]

@[simp] theorem published_closeSubscribers (reason : CloseReason) :
    (rt.closeSubscribers reason).published turn = rt.published turn := rfl

/-! ## What a section does -/

/-- The turn shows what it showed, and nothing is published about its lifecycle. -/
structure Still (rt rt' : RuntimeState) : Prop where
  shown : rt'.shown = rt.shown
  published : rt'.published = rt.published

inductive Turned (fresh : TurnId) (cause : TurnRecord → P0CloudLifecycle → Bool → Prop) (rt rt' : RuntimeState) : Prop where
  | still (same : Still rt rt')
  /-- A turn that was just handed out is current. -/
  | accepted (up : rt.workerStopped = false) (ready : rt.sessionState = .ready)
      (shown : rt'.shown = some ⟨fresh, none, false⟩) (published : rt'.published = rt.published)
  | failed (record : TurnRecord) (current : rt.currentTurn = some record)
      (shown : rt'.shown = some ⟨record.turnId, none, true⟩) (published : rt'.published = rt.published)
  | shows (record : TurnRecord) (projected : P0CloudLifecycle) (reported : Bool)
      (current : rt.currentTurn = some record) (up : rt.workerStopped = false)
      (valid : Replaceable record projected) (why : cause record projected reported)
      (silent : reported = false → record.projection.lifecycle = some projected)
      (shown : rt'.shown = some ⟨record.turnId, some projected, false⟩)
      (published : ∀ turn, rt'.published turn =
        rt.published turn ++ if record.turnId = turn ∧ reported = true then [projected] else [])

variable {fresh : TurnId} {cause cause' : TurnRecord → P0CloudLifecycle → Bool → Prop} {now : Nat} {actor : P0Actor}
  {completed : Bool}

theorem Still.refl (rt : RuntimeState) : Still rt rt := ⟨rfl, rfl⟩

theorem Still.trans (first : Still rt mid) (second : Still mid rt') : Still rt rt' :=
  ⟨second.shown.trans first.shown, second.published.trans first.published⟩

/-- An event that is not about a lifecycle, and changes beside the turn. -/
theorem Still.append {about : Option TurnId} {payload : P0SessionEvent} (first : Still rt mid)
    (other : payload.lifecycle = none) : Still rt (mid.appendEvent inner about payload) := by
  refine ⟨first.shown, ?_⟩
  rw [← first.published]
  funext turn
  rw [published_appendEvent, other]
  simp

theorem Still.close {reason : CloseReason} (first : Still rt mid) : Still rt (mid.closeSubscribers reason) :=
  ⟨first.shown, first.published⟩

theorem Still.quiet (quiet : rt'.currentTurn = rt.currentTurn) (log : rt'.log = rt.log) : Still rt rt' := by
  refine ⟨?_, ?_⟩
  · unfold RuntimeState.shown
    rw [quiet]
  · unfold RuntimeState.published
    rw [log]

/-- The current turn is changed beside what it shows. -/
theorem Still.update {record' : TurnRecord} (current : rt.currentTurn = some record)
    (current' : rt'.currentTurn = some record') (same : record'.shown = record.shown) (log : rt'.log = rt.log) :
    Still rt rt' := by
  refine ⟨?_, ?_⟩
  · unfold RuntimeState.shown
    rw [current, current', Option.map_some, Option.map_some, same]
  · unfold RuntimeState.published
    rw [log]

theorem Turned.then_still (turned : Turned fresh cause rt mid) (after : Still mid rt') : Turned fresh cause rt rt' := by
  cases turned with
  | still same => exact .still (same.trans after)
  | accepted up ready shown published =>
      exact .accepted up ready (after.shown.trans shown) (after.published.trans published)
  | failed record current shown published =>
      exact .failed record current (after.shown.trans shown) (after.published.trans published)
  | shows record projected reported current up valid why silent shown published =>
      refine .shows record projected reported current up valid why silent (after.shown.trans shown) ?_
      intro turn
      rw [after.published, published]

/-! ## Stopping -/

theorem shown_turnAtStop (reason : P0RuntimeStopReason) (record : TurnRecord) :
    (turnAtStop reason record).shown = record.shown := by
  unfold turnAtStop
  split
  · rename_i waiting
    have unclaimed := waiting.2
    unfold startNotAdmitted at unclaimed
    split at unclaimed
    · rename_i queued
      simp [TurnRecord.shown, queued]
    · rename_i starting
      simp [TurnRecord.shown, starting]
    · cases unclaimed
  · rfl

theorem stopWorker_still (reason : P0RuntimeStopReason) : Still rt (stopWorker inner rt reason) := by
  obtain stopped | running := rt.workerStopped.eq_false_or_eq_true
  · rw [stopWorker_stopped stopped]
    exact .refl rt
  · have halted := stopWorker_running inner rt running reason
    refine ⟨?_, ?_⟩
    · unfold RuntimeState.shown
      rw [halted.currentTurn, Option.map_map]
      congr 1
      funext record
      exact shown_turnAtStop reason record
    · funext turn
      simp only [stopWorker, running, Bool.false_eq_true, if_false]
      split
      · rw [published_closeSubscribers, published_appendEvent]
        simp [P0SessionEvent.lifecycle, published]
      · rfl

/-- A failed lower call, also when an unknown outcome was latched before. -/
theorem failed_turned (turn : TurnId) (session : P0SessionState) :
    Turned fresh cause rt (stopAfterLowerFailure inner { rt with sessionState := session } turn) := by
  cases named : rt.turnNamed turn with
  | none =>
      have other : turnNamed { rt with sessionState := session } turn = none := named
      rw [stopAfterLowerFailure, updateTurn_other other]
      have latched : Still rt { rt with sessionState := session } := .quiet rfl rfl
      exact .still (latched.trans (stopWorker_still _))
  | some record =>
      obtain ⟨current, same⟩ := turnNamed_eq_some.mp named
      have current' : RuntimeState.currentTurn { rt with sessionState := session } = some record := current
      rw [stopAfterLowerFailure, updateTurn_current current' same]
      obtain ⟨shown, published⟩ : Still { rt with
          sessionState := session
          currentTurn := some { record with projection := .stoppedAfterLowerFailure } } _ := stopWorker_still .lowerFailure
      exact .failed record current shown published

theorem stopAfterLowerFailure_turned (turn : TurnId) : Turned fresh cause rt (stopAfterLowerFailure inner rt turn) :=
  failed_turned turn rt.sessionState

/-! ## Commands -/

theorem startTurn_turned (prompt : CloudPrompt) : Turned fresh cause rt (rt.startTurn inner fresh prompt).2 := by
  obtain same | ⟨up, -, ready, -, accepted⟩ := startTurn_cases inner rt fresh prompt
  · rw [same]
    exact .still (.refl rt)
  · rw [accepted]
    refine .accepted up ready rfl ?_
    funext other
    rw [published_appendEvent]
    simp [P0SessionEvent.lifecycle, published]

theorem shown_requestCancel (record : TurnRecord) :
    ({ record with projection := record.projection.requestCancel } : TurnRecord).shown = record.shown := by
  unfold TurnRecord.shown
  dsimp only
  rw [P0TurnProjection.lifecycle_requestCancel]
  cases record.projection <;> rfl

theorem requestCancel_still (current : rt.currentTurn = some record)
    (requested : requestCancel inner actor record rt = .ok rt') : Still rt rt' := by
  obtain ⟨-, same⟩ | ⟨-, -, same⟩ := requestCancel_cases requested
  · rw [same]
    exact .refl rt
  · rw [same]
    have marked : Still rt { rt with
        currentTurn := some { record with projection := record.projection.requestCancel } } :=
      .update current rfl (shown_requestCancel record) rfl
    exact marked.append rfl

theorem latchCancel_still : Still rt (rt.latchCancel inner).2 := by
  cases current : rt.currentTurn with
  | none =>
      unfold latchCancel
      rw [current]
      exact .refl rt
  | some record =>
      obtain ⟨-, same⟩ | ⟨-, -, pending, -, latched⟩ := latchCancel_cases inner current
      · rw [same]
        exact .refl rt
      · rw [latched]
        exact .update current rfl rfl rfl

theorem cancelTurn_still (actor : P0Actor) : Still rt (rt.cancelTurn inner actor).2 := by
  obtain ⟨-, same⟩ | ⟨-, -, -, record, current, ⟨queued, -, -, canceled⟩ | ⟨-, requested, asked, latched⟩⟩ :=
    cancelTurn_cases inner rt actor
  · rw [same]
    exact .refl rt
  · rw [canceled]
    have marked : Still rt { rt with
        work := none
        sessionState := .ready
        currentTurn := some { record with projection := .canceledBeforeCloudStart, cancelCompleted := true } } := by
      refine .update current rfl ?_ rfl
      simp [TurnRecord.shown, queued]
    exact marked.append rfl
  · rw [latched]
    exact (requestCancel_still current asked).trans latchCancel_still

theorem releaseCancel_still (turn : TurnId) : Still rt (rt.releaseCancel turn) := by
  unfold releaseCancel
  cases named : rt.turnNamed turn with
  | none =>
      rw [updateTurn_other named]
      exact .refl rt
  | some record =>
      obtain ⟨current, same⟩ := turnNamed_eq_some.mp named
      rw [updateTurn_current current same]
      exact .update current rfl rfl rfl

/-! ## Showing a lifecycle -/

/-- A state that shows a lifecycle and publishes it, or shows the one it showed. -/
theorem shows_reporting {reported : Bool} (current : rt.currentTurn = some record) (up : rt.workerStopped = false)
    (valid : Replaceable record projected) (why : cause record projected reported)
    (silent : reported = false → record.projection.lifecycle = some projected)
    (after : Still (rt.showing record projected completed) mid) :
    Turned fresh cause rt (reporting inner reported record.turnId projected mid) := by
  have published : ∀ turn, mid.published turn = rt.published turn := fun turn => congrFun after.published turn
  refine .shows record projected reported current up valid why silent ?_ ?_
  · have same : (reporting inner reported record.turnId projected mid).shown = mid.shown := by
      unfold RuntimeState.shown
      rw [reporting_currentTurn]
    exact same.trans after.shown
  · intro turn
    unfold reporting
    cases reported with
    | false => simp [published]
    | true => simp [published, P0SessionEvent.lifecycle]

/-- The same with an unconditional event. -/
theorem shows_append (current : rt.currentTurn = some record) (up : rt.workerStopped = false)
    (valid : Replaceable record projected) (why : cause record projected true)
    (after : Still (rt.showing record projected completed) mid) :
    Turned fresh cause rt (mid.appendEvent inner (some record.turnId) (.lifecycleChanged projected)) := by
  have reports : mid.appendEvent inner (some record.turnId) (.lifecycleChanged projected) =
      reporting inner true record.turnId projected mid := rfl
  rw [reports]
  exact shows_reporting current up valid why (fun silent => by cases silent) after

theorem finishCancel_still (current : rt.currentTurn = some record) : Still rt (finishCancel rt) := by
  have finished : (finishCancel rt).currentTurn =
      some { record with cancelInProgress := false, cancelCompleted := true } := by
    unfold finishCancel
    rw [current]
    rfl
  exact .update current finished rfl rfl

theorem queueMonitor_still (now : Nat) : Still rt (queueMonitor inner now turn projected rt) := by
  unfold queueMonitor
  split
  · exact .quiet rfl rfl
  · exact .refl rt

theorem commitCancelResult_turned
    (why : ∀ record, record.turnId = turn → cause record projected (record.projection.lifecycle != some projected)) :
    Turned fresh cause rt (rt.commitCancelResult inner turn projected).2 := by
  obtain same | ⟨up, record, current, named, -, valid, -, committed⟩ := commitCancelResult_cases inner rt turn projected
  · rw [same]
    exact .still (.refl rt)
  · rw [committed, ← named]
    apply shows_reporting current up valid (why record named)
    · intro unchanged
      simpa using unchanged
    · exact finishCancel_still (rt.showing_currentTurn record projected true)

theorem commitReconcile_still {expected : CloudSubmitOperationId} {candidates : P0RecoveryCandidates} :
    Still rt (rt.commitReconcile inner actor expected candidates).2 := by
  unfold commitReconcile
  split
  · exact .refl rt
  · split
    · exact .refl rt
    · exact (Still.refl rt).append rfl

theorem commitResolve_turned {op : CloudSubmitOperationId} {decision : UnknownSubmitDecision}
    (why : ∀ record, record.projection.operation = some op → cause record projected true) :
    Turned fresh cause rt (rt.commitResolve inner now actor op decision projected).2 := by
  obtain same | ⟨up, -, -, record, current, has, valid, committed⟩ :=
    commitResolve_cases inner rt now actor op decision projected
  · rw [same]
    exact .still (.refl rt)
  · rw [committed]
    have resolved : Still (rt.showing record projected false) (appendEvent inner (rt.showing record projected false)
        (some record.turnId) (.recoveryResolved actor op (decisionKind decision))) := (Still.refl _).append rfl
    exact (shows_append current up valid (why record has) resolved).then_still (queueMonitor_still now)

theorem requestShutdown_still : Still rt (rt.requestShutdown inner).2 := by
  obtain same | same | ⟨record, current, queued, -, stopped⟩ := requestShutdown_cases inner rt
  · rw [same]
    exact .refl rt
  · rw [same]
    exact .quiet rfl rfl
  · rw [stopped]
    have marked : Still rt { rt with
        shutdownRequested := true
        work := none
        sessionState := .stopped
        workerStopped := true
        currentTurn := some { record with projection := .stoppedBeforeCloudStart } } := by
      refine .update current rfl ?_ rfl
      simp [TurnRecord.shown, queued]
    exact (marked.append rfl).close

/-! ## The worker -/

theorem nextWorkerAction_still {action : WorkerAction} (queued : ∀ turn prompt, rt.work = some (.start turn prompt) →
      ∃ record, rt.currentTurn = some record ∧ record.turnId = turn ∧ record.projection = .queued)
    (taken : rt.nextWorkerAction inner now = some (action, rt')) : Still rt rt' := by
  obtain ⟨-, -, stops⟩ | ⟨record, -, current, -, -, claims⟩ | ⟨record, prompt, -, current, work, -, claims⟩ |
    ⟨turn, prompt, work, missing, -⟩ | ⟨turn, due, failures, -, -, -, claims⟩ := nextWorkerAction_cases taken
  · rw [stops]
    exact stopWorker_still _
  · rw [claims]
    exact .update current rfl rfl rfl
  · rw [claims]
    obtain ⟨other, current', -, waiting⟩ := queued _ _ work
    cases current.symm.trans current'
    refine .update current rfl ?_ rfl
    simp [TurnRecord.shown, waiting]
  · obtain ⟨record, current, same, -⟩ := queued _ _ work
    exact absurd same (turnNamed_eq_none.mp missing record current)
  · rw [claims]
    exact .quiet rfl rfl

/-- A turn that asked for its cancellation before the lower call shows no lifecycle yet. -/
theorem admitStart_turned
    (bare : ∀ record, rt.currentTurn = some record → record.turnId = turn →
      record.projection = .starting false ∨ record.projection = .starting true) :
    Turned fresh cause rt (rt.admitStart inner turn).2 := by
  obtain ⟨-, stops⟩ | fails | ⟨record, -, current, same, ⟨-, -, canceled⟩ | ⟨-, admitted⟩⟩ := admitStart_cases inner rt turn
  · rw [stops]
    exact .still (stopWorker_still _)
  · rw [fails]
    exact stopAfterLowerFailure_turned turn
  · rw [canceled]
    have marked : Still rt { rt with
        sessionState := .ready
        currentTurn := some { record with
          projection := .canceledBeforeCloudStart
          cancelInProgress := false
          cancelCompleted := true } } := by
      refine .update current rfl ?_ rfl
      obtain starting | starting := bare record current same <;> simp [TurnRecord.shown, starting]
    exact .still (marked.append rfl)
  · rw [admitted]
    exact .still (.update current rfl rfl rfl)

/-- A worker that works on the current turn has not been stopped. -/
theorem up_of_apart (apart : rt.workerStopped = true → rt.turnNamed turn = none)
    (current : rt.currentTurn = some record) (same : record.turnId = turn) : rt.workerStopped = false := by
  rw [Bool.eq_false_iff]
  intro stopped
  exact turnNamed_eq_none.mp (apart stopped) record current same

theorem afterStartShown_still (current : rt.currentTurn = some record) (same : record.turnId = turn) :
    Still rt (rt.afterStartShown inner now turn projected).2 := by
  obtain ⟨-, stops⟩ | ⟨-, -, -, cancels⟩ | ⟨-, -, waits⟩ := afterStartShown_cases inner now projected current same
  · rw [stops]
    have marked : Still rt { rt with sessionState := .stopped, workerStopped := true } := .quiet rfl rfl
    exact (marked.append rfl).close
  · rw [cancels]
    exact .update current rfl rfl rfl
  · rw [waits]
    exact queueMonitor_still now

variable {result : Except CloudLifecycleError P0CloudLifecycle}

theorem handleStartResult_turned (apart : rt.workerStopped = true → rt.turnNamed turn = none)
    (why : ∀ record projected, record.turnId = turn → result = .ok projected → cause record projected true) :
    Turned fresh cause rt (rt.handleStartResult inner now turn result).2 := by
  cases result with
  | error error =>
      rw [handleStartResult_error]
      exact stopAfterLowerFailure_turned turn
  | ok projected =>
      obtain fails | ⟨record, current, same, valid, -, -, shown⟩ := handleStartResult_ok inner rt now turn projected
      · rw [fails, latchUnknown]
        split
        · exact failed_turned turn .recoveryRequired
        · exact stopAfterLowerFailure_turned turn
      · rw [shown]
        have up := up_of_apart apart current same
        rw [← same]
        exact (shows_append current up valid (why record projected same rfl) (.refl _)).then_still
          (afterStartShown_still rfl rfl)

theorem showInspected_turned (apart : rt.workerStopped = true → rt.turnNamed turn = none)
    (why : ∀ record, record.turnId = turn → cause record projected (record.projection.lifecycle != some projected)) :
    Turned fresh cause rt (rt.showInspected inner now turn projected) := by
  obtain fails | ⟨record, current, same, valid, -, shown⟩ := showInspected_cases inner rt now turn projected
  · rw [fails]
    exact stopAfterLowerFailure_turned turn
  · rw [shown, ← same]
    have up := up_of_apart apart current same
    refine (shows_reporting current up valid (why record same) ?_ (.refl _)).then_still (queueMonitor_still now)
    intro unchanged
    simpa using unchanged

theorem degradeMonitoring_turned {failures : Nat} :
    Turned fresh cause rt (rt.degradeMonitoring inner now turn failures) := by
  obtain fails | ⟨record, pending, due, current, shows, -, failures', reported, degrades, result⟩ :=
    degradeMonitoring_cases inner rt now failures turn
  · rw [fails]
    exact stopAfterLowerFailure_turned turn
  · have marked : Still rt (rt.degraded record pending) := by
      refine .update current rfl ?_ rfl
      cases projection : record.projection <;> rw [projection] at shows <;> cases shows <;> simp [TurnRecord.shown, projection]
    rw [result]
    obtain silent | ⟨-, told⟩ := degrades
    · rw [silent]
      exact .still (marked.trans (.quiet rfl rfl))
    · rw [told]
      have reports : Still rt ((rt.degraded record pending).appendEvent inner (some turn) .monitoringDegraded) :=
        marked.append rfl
      exact .still (reports.trans (.quiet rfl rfl))

theorem showThenStop_turned (apart : rt.workerStopped = true → rt.turnNamed turn = none)
    (why : ∀ record projected, record.turnId = turn → result = .ok projected → cause record projected true) :
    Turned fresh cause rt (rt.showThenStop inner turn result) := by
  obtain stops | ⟨record, projected, answered, current, same, valid, -, shown⟩ := showThenStop_cases inner rt turn result
  · rw [stops]
    exact .still (stopWorker_still _)
  · rw [shown, ← same]
    have up := up_of_apart apart current same
    exact (shows_append current up valid (why record projected same answered) (.refl _)).then_still (stopWorker_still _)

theorem handleMonitorResult_turned {failures : Nat} (apart : rt.workerStopped = true → rt.turnNamed turn = none)
    (last : ∀ record projected, rt.shutdownRequested = true → record.turnId = turn → result = .ok projected →
      cause record projected true)
    (inspected : ∀ record projected, rt.shutdownRequested = false → record.turnId = turn → result = .ok projected →
      cause record projected (record.projection.lifecycle != some projected)) :
    Turned fresh cause rt (rt.handleMonitorResult inner now turn failures result) := by
  obtain ⟨shown, -, -, drops⟩ | ⟨-, ⟨down, stops⟩ | ⟨live, ⟨projected, answered, shows⟩ | ⟨error, -, degrades⟩ | fails⟩⟩ :=
    handleMonitorResult_cases inner rt now failures turn result
  · rw [drops]
    exact .still (.quiet rfl rfl)
  · rw [stops]
    exact showThenStop_turned apart fun record projected => last record projected down
  · rw [shows]
    exact showInspected_turned apart fun record same => inspected record projected live same answered
  · rw [degrades]
    exact degradeMonitoring_turned
  · rw [fails]
    exact stopAfterLowerFailure_turned turn

theorem commitWorkerCancel_turned (apart : rt.workerStopped = true → rt.turnNamed turn = none)
    (why : ∀ record, record.turnId = turn → cause record projected true)
    (done : rt.commitWorkerCancel inner turn projected = .ok rt') : Turned fresh cause rt rt' := by
  obtain ⟨record, current, same, valid, -, shown⟩ := commitWorkerCancel_eq_ok done
  rw [shown, ← same]
  have up := up_of_apart apart current same
  exact shows_append current up valid (why record same)
    (finishCancel_still (rt.showing_currentTurn record projected true))

end RuntimeState

/-! ## Steps -/

namespace Sys

open RuntimeState

/-- Who shows a lifecycle, and whether it is published. -/
inductive Publication (sys : Sys) : Label → TurnRecord → P0CloudLifecycle → Bool → Prop where
  | startResult {record : TurnRecord} {lifecycle : P0CloudLifecycle}
      (worker : sys.worker = .started record.turnId (.ok lifecycle)) : Publication sys .worker record lifecycle true
  | inspected {record : TurnRecord} {lifecycle : P0CloudLifecycle} {failures : Nat}
      (worker : sys.worker = .monitored record.turnId failures (.ok lifecycle))
      (live : sys.runtime.shutdownRequested = false) :
      Publication sys .worker record lifecycle (record.projection.lifecycle != some lifecycle)
  | lastInspected {record : TurnRecord} {lifecycle : P0CloudLifecycle} {failures : Nat}
      (worker : sys.worker = .monitored record.turnId failures (.ok lifecycle))
      (down : sys.runtime.shutdownRequested = true) : Publication sys .worker record lifecycle true
  | workerCancel {record : TurnRecord} {lifecycle : P0CloudLifecycle} {afterStart : Bool}
      (worker : sys.worker = .canceled record.turnId afterStart (.ok lifecycle)) :
      Publication sys .worker record lifecycle true
  | operatorCancel {record : TurnRecord} {lifecycle : P0CloudLifecycle} {i : Nat} {pending : Bool} {deadline : Nat}
      (caller : sys.callers i = .canceling record.turnId pending deadline (.answered lifecycle)) :
      Publication sys (.call i) record lifecycle (record.projection.lifecycle != some lifecycle)
  | resolution {record : TurnRecord} {lifecycle : P0CloudLifecycle} {i : Nat} {actor : P0Actor}
      {op : CloudSubmitOperationId} {decision : UnknownSubmitDecision}
      (caller : sys.callers i = .resolved actor op decision (.ok lifecycle)) (own : lifecycle.operationId = op)
      (has : record.projection.operation = some op) : Publication sys (.call i) record lifecycle true

variable {inner : Inner} {runner : CloudTaskRunner} {sys sys' : Sys} {label : Label}

/-- The worker has claimed a turn that shows no lifecycle yet. -/
def Plain (sys : Sys) : Prop :=
  ∀ turn prompt record, sys.worker = .claimed turn prompt → sys.runtime.currentTurn = some record →
    record.turnId = turn → record.projection.lifecycle = none

theorem Controlled.bare_claim (control : sys.Controlled) (plain : sys.Plain) {turn : TurnId} {prompt : CloudPrompt}
    (worker : sys.worker = .claimed turn prompt) :
    ∀ record, sys.runtime.currentTurn = some record → record.turnId = turn →
      record.projection = .starting false ∨ record.projection = .starting true := by
  intro record current same
  have bare := plain turn prompt record worker current same
  obtain starting | asked := (Control.worker control).claiming _ record (congrArg Worker.role worker) current same rfl
  · exact .inl starting
  · cases projection : record.projection <;> simp_all

theorem step_turned (control : sys.Controlled) (plain : sys.Plain) (stepped : sys.step inner runner label = some sys') :
    Turned (sys.turns + 1) (sys.Publication label) sys.runtime sys'.runtime := by
  have apart : ∀ {busy}, sys.worker.role = some busy → sys.runtime.workerStopped = true →
      sys.runtime.turnNamed busy.turn = none := fun role => control.apart role
  cases step_moves stepped with
  | startTurn prompt => exact startTurn_turned prompt
  | cancelTurn actor idle => exact .still (cancelTurn_still actor)
  | shutdown idle => exact .still requestShutdown_still
  | subscribe session afterSeq =>
      exact .still (.quiet (subscribe_quiet inner _ session afterSeq).currentTurn (subscribe_log inner _ session afterSeq))
  | receive subscriber => exact .still (.quiet rfl rfl)
  | dropReceiver subscriber => exact .still (.quiet rfl rfl)
  | commitCancel caller =>
      apply commitCancelResult_turned
      intro record same
      subst same
      exact .operatorCancel caller
  | releaseCancel caller reply => exact .still (releaseCancel_still _)
  | commitReconcile caller candidates => exact .still commitReconcile_still
  | commitResolve caller own =>
      apply commitResolve_turned
      intro record has
      exact .resolution caller own has
  | nextAction worker taken =>
      exact .still (nextWorkerAction_still (Control.runtime control).start taken)
  | admitStart worker => exact admitStart_turned (control.bare_claim plain worker)
  | startResult worker =>
      apply handleStartResult_turned (apart (congrArg Worker.role worker))
      intro record projected same answered
      subst same
      rw [answered] at worker
      exact .startResult worker
  | monitorResult worker =>
      apply handleMonitorResult_turned (apart (congrArg Worker.role worker))
      · intro record projected down same answered
        subst same
        rw [answered] at worker
        exact .lastInspected worker down
      · intro record projected live same answered
        subst same
        rw [answered] at worker
        exact .inspected worker live
  | workerCommit worker committed =>
      apply commitWorkerCancel_turned (apart (congrArg Worker.role worker)) _ committed
      intro record same
      subst same
      exact .workerCancel worker
  | workerFail worker => exact stopAfterLowerFailure_turned _
  | _ => exact .still (.refl _)

end Sys

end Codebox.Session
