import Codebox.Session.Records
import Codebox.Session.StaleResults

/-! # What the sections publish

The events of a session leave the runtime through a counter, a bounded history and the channels of
the subscribers. Every section changes these in the same few ways: it appends an event for which
there is room, or it reports the stop and closes the channels. Whether a section may still append
once the runtime has stopped is asked for separately, by `final`.
-/

namespace Codebox.Session

open Codebox.Support Codebox.Cloud

def P0SessionEvent.isStop : P0SessionEvent → Bool
  | .runtimeStopped _ => true
  | .turnAccepted | .turnCanceledBeforeCloudStart | .lifecycleChanged _ | .cancelRequested _
  | .monitoringDegraded | .recoveryObserved _ _ | .recoveryResolved _ _ _ => false

/-- An event that is not about the stop, and shows only certain lifecycles. -/
def P0SessionEvent.Fine (allowed : P0CloudLifecycle → Prop) : P0SessionEvent → Prop
  | .runtimeStopped _ => False
  | .lifecycleChanged lifecycle => allowed lifecycle
  | .turnAccepted | .turnCanceledBeforeCloudStart | .cancelRequested _ | .monitoringDegraded | .recoveryObserved _ _
  | .recoveryResolved _ _ _ => True

/-- The part of the runtime's state that carries events to subscribers. -/
structure Feed where
  highWaterSeq : Nat
  history : List P0SessionEventEnvelope
  channels : List Channel
  nextSubscriberId : Nat
  log : List P0SessionEventEnvelope

variable {failures : Nat}

namespace RuntimeState

def feed (rt : RuntimeState) : Feed :=
  ⟨rt.highWaterSeq, rt.history, rt.channels, rt.nextSubscriberId, rt.log⟩

/-- How a section publishes. If `final` holds, nothing is appended to a runtime that stopped. -/
inductive Publishes (final : Prop) (inner : Inner) : RuntimeState → RuntimeState → Prop where
  | quiet {rt rt' : RuntimeState} (same : rt'.feed = rt.feed)
      (stays : rt.workerStopped = true → rt'.workerStopped = true) : Publishes final inner rt rt'
  | append {rt : RuntimeState} (about : Option TurnId) (payload : P0SessionEvent)
      (room : rt.highWaterSeq < maxSeq) (up : final → rt.workerStopped = false)
      (going : payload.isStop = false) :
      Publishes final inner rt (rt.appendEvent inner about payload)
  | stop {rt rt' : RuntimeState} (about : Option TurnId) (reason : P0RuntimeStopReason)
      (room : rt.highWaterSeq < maxSeq) (up : final → rt.workerStopped = false)
      (reported : rt'.feed =
        ((rt.appendEvent inner about (.runtimeStopped reason)).closeSubscribers .runtimeStopped).feed)
      (stopped : rt'.workerStopped = true) : Publishes final inner rt rt'
  /-- The counter is exhausted, so the stop is not reported. -/
  | stopSilently {rt rt' : RuntimeState}
      (closed : rt'.feed = (rt.closeSubscribers .runtimeStopped).feed)
      (stopped : rt'.workerStopped = true) : Publishes final inner rt rt'
  | trans {rt mid rt' : RuntimeState} (first : Publishes final inner rt mid)
      (second : Publishes final inner mid rt') : Publishes final inner rt rt'

/-- Every lifecycle in the log is an allowed one. -/
def Reports (allowed : P0CloudLifecycle → Prop) (rt : RuntimeState) : Prop :=
  ∀ event ∈ rt.log, ∀ lifecycle, event.payload = .lifecycleChanged lifecycle → allowed lifecycle

/-- A section leaves a stopped runtime stopped, in the session state it had or in `stopped`, and one
that stops the runtime makes the session state `stopped`. -/
structure Rests (rt rt' : RuntimeState) : Prop where
  stays : rt.workerStopped = true →
    rt'.workerStopped = true ∧ (rt'.sessionState = rt.sessionState ∨ rt'.sessionState = .stopped)
  stops : rt.workerStopped = false → rt'.workerStopped = true → rt'.sessionState = .stopped

/-- What a section writes: it publishes, and reports only certain lifecycles; if `settles` holds, it
leaves a stopped runtime at rest. -/
structure Writes (final settles : Prop) (allowed : P0CloudLifecycle → Prop) (inner : Inner) (rt rt' : RuntimeState) :
    Prop where
  publishes : Publishes final inner rt rt'
  reports : rt.Reports allowed → rt'.Reports allowed
  rests : settles → Rests rt rt'

/-- A section that stays with the current turn. -/
structure Carries (final settles : Prop) (allowed : P0CloudLifecycle → Prop) (inner : Inner) (rt rt' : RuntimeState) : Prop
    extends Writes final settles allowed inner rt rt' where
  evolves : Evolves allowed rt.currentTurn rt'.currentTurn

variable {final settles : Prop} {allowed : P0CloudLifecycle → Prop} {inner : Inner} {rt rt' mid : RuntimeState}
  {turn : TurnId} {record : TurnRecord} {projected : P0CloudLifecycle} {now : Nat}

theorem Reports.append {about : Option TurnId} {payload : P0SessionEvent} (reports : rt.Reports allowed)
    (fine : ∀ lifecycle, payload = .lifecycleChanged lifecycle → allowed lifecycle) :
    (rt.appendEvent inner about payload).Reports allowed := by
  intro event logged
  obtain before | new := List.mem_append.mp logged
  · exact reports event before
  · cases List.mem_singleton.mp new
    exact fine

/-- Only the log matters. -/
theorem Reports.same (reports : rt.Reports allowed) (same : rt'.feed = rt.feed) : rt'.Reports allowed := by
  have log : rt'.log = rt.log := congrArg Feed.log same
  intro event logged
  exact reports event (log ▸ logged)

namespace Rests

theorem same (stopped : rt'.workerStopped = rt.workerStopped) (session : rt'.sessionState = rt.sessionState) :
    Rests rt rt' where
  stays before := ⟨stopped.trans before, .inl session⟩
  stops up after := by
    rw [stopped, up] at after
    cases after

theorem refl (rt : RuntimeState) : Rests rt rt := .same rfl rfl

/-- A section of a running worker that does not stop it. -/
theorem running (up : rt.workerStopped = false) (up' : rt'.workerStopped = false) : Rests rt rt' where
  stays stopped := by
    rw [up] at stopped
    cases stopped
  stops _ stopped := by
    rw [up'] at stopped
    cases stopped

theorem trans (first : Rests rt mid) (second : Rests mid rt') : Rests rt rt' := by
  constructor
  · intro stopped
    obtain ⟨stopped', session⟩ := first.stays stopped
    obtain ⟨stopped'', session'⟩ := second.stays stopped'
    refine ⟨stopped'', ?_⟩
    rcases session' with same | same
    · exact same ▸ session
    · exact .inr same
  · intro up stopped''
    obtain stopped' | up' := mid.workerStopped.eq_false_or_eq_true
    · rcases (second.stays stopped').2 with same | same
      · exact same.trans (first.stops up stopped')
      · exact same
    · exact second.stops up' stopped''

end Rests

namespace Writes

/-- A change beside the feed. -/
theorem quiet (same : rt'.feed = rt.feed) (stays : rt'.workerStopped = rt.workerStopped)
    (rests : settles → Rests rt rt') : Writes final settles allowed inner rt rt' :=
  ⟨.quiet same (by rw [stays]; exact id), fun reports => reports.same same, rests⟩

/-- A change beside the feed and the session state. -/
theorem beside (same : rt'.feed = rt.feed) (stays : rt'.workerStopped = rt.workerStopped)
    (session : rt'.sessionState = rt.sessionState) : Writes final settles allowed inner rt rt' :=
  .quiet same stays fun _ => .same stays session

theorem trans (first : Writes final settles allowed inner rt mid)
    (second : Writes final settles allowed inner mid rt') : Writes final settles allowed inner rt rt' :=
  ⟨.trans first.publishes second.publishes, fun reports => second.reports (first.reports reports),
    fun asked => (first.rests asked).trans (second.rests asked)⟩

/-- An event about a state that differs only beside the feed. -/
theorem append (about : Option TurnId) (payload : P0SessionEvent) (room : rt.highWaterSeq < maxSeq)
    (up : final → rt.workerStopped = false) (fine : payload.Fine allowed) (same : mid.feed = rt.feed)
    (stays : mid.workerStopped = rt.workerStopped) (rests : settles → Rests rt mid) :
    Writes final settles allowed inner rt (mid.appendEvent inner about payload) := by
  have counter : mid.highWaterSeq = rt.highWaterSeq := congrArg Feed.highWaterSeq same
  have before : Writes final settles allowed inner rt mid := .quiet same stays rests
  apply before.trans
  refine ⟨.append about payload (by rwa [counter]) (by rwa [stays]) ?_, fun reports => reports.append ?_,
    fun _ => .same rfl rfl⟩
  · cases payload <;> first | rfl | exact fine.elim
  · rintro lifecycle rfl
    exact fine

/-- A running worker says something. -/
theorem say (about : Option TurnId) (payload : P0SessionEvent) (room : rt.highWaterSeq < maxSeq)
    (up : final ∨ settles → rt.workerStopped = false) (fine : payload.Fine allowed) (same : mid.feed = rt.feed)
    (stays : mid.workerStopped = rt.workerStopped) :
    Writes final settles allowed inner rt (mid.appendEvent inner about payload) :=
  .append about payload room (fun asked => up (.inl asked)) fine same stays fun asked =>
    .running (up (.inr asked)) (stays.trans (up (.inr asked)))

/-- The stop is reported and the channels are closed. -/
theorem stop (about : Option TurnId) (reason : P0RuntimeStopReason) (room : rt.highWaterSeq < maxSeq)
    (up : final → rt.workerStopped = false) (same : mid.feed = rt.feed) (stopped : mid.workerStopped = true)
    (session : mid.sessionState = .stopped) : Writes final settles allowed inner rt
      ((mid.appendEvent inner about (.runtimeStopped reason)).closeSubscribers .runtimeStopped) := by
  obtain ⟨counter, history, channels, next, log⟩ := Feed.mk.inj same
  refine ⟨.stop about reason room up ?_ stopped, fun reports => ?_,
    fun _ => ⟨fun _ => ⟨stopped, .inr session⟩, fun _ _ => session⟩⟩
  · simp only [feed, closeSubscribers, appendEvent, counter, history, channels, next, log]
  · have told : (mid.appendEvent inner about (.runtimeStopped reason)).Reports allowed :=
      (reports.same same).append (by simp)
    exact told

theorem stopWorker (reason : P0RuntimeStopReason) :
    Writes final settles allowed inner rt (RuntimeState.stopWorker inner rt reason) := by
  obtain stopped | up := rt.workerStopped.eq_false_or_eq_true
  · rw [stopWorker_stopped stopped]
    exact .beside rfl rfl rfl
  · simp only [RuntimeState.stopWorker, up, Bool.false_eq_true, if_false]
    split
    · rename_i room
      exact .stop _ reason (reserveEvents_eq_ok.mp room) (fun _ => up) rfl rfl rfl
    · exact ⟨.stopSilently rfl rfl, id, fun _ => ⟨fun _ => ⟨rfl, .inr rfl⟩, fun _ _ => rfl⟩⟩

end Writes

namespace Carries

theorem refl (rt : RuntimeState) : Carries final settles allowed inner rt rt := ⟨.beside rfl rfl rfl, .refl _⟩

theorem trans (first : Carries final settles allowed inner rt mid)
    (second : Carries final settles allowed inner mid rt') : Carries final settles allowed inner rt rt' :=
  ⟨first.toWrites.trans second.toWrites, first.evolves.trans second.evolves⟩

/-! ## Stopping -/

theorem stopWorker (reason : P0RuntimeStopReason) :
    Carries final settles allowed inner rt (RuntimeState.stopWorker inner rt reason) :=
  ⟨.stopWorker reason, .stopWorker reason⟩

theorem stopAfterLowerFailure (turn : TurnId) :
    Carries final settles allowed inner rt (RuntimeState.stopAfterLowerFailure inner rt turn) := by
  have marked : Carries final settles allowed inner rt (rt.updateTurn turn fun record =>
      { record with projection := .stoppedAfterLowerFailure }) := ⟨.beside rfl rfl rfl, .updateTurn fun _ => .fail⟩
  exact marked.trans (.stopWorker .lowerFailure)

/-! ## Commands -/

theorem cancelTurn (actor : P0Actor) : Carries final settles allowed inner rt (rt.cancelTurn inner actor).2 := by
  obtain ⟨-, same⟩ | ⟨up, -, -, record, current, ⟨queued, -, room, canceled⟩ | ⟨-, requested, asked, entered⟩⟩ :=
    cancelTurn_cases inner rt actor
  · rw [same]
    exact .refl rt
  · rw [canceled]
    exact ⟨.say _ _ room (fun _ => up) trivial rfl rfl, .two current (.cancelQueued queued) (.flags _ _)⟩
  · rw [entered]
    have first : Carries final settles allowed inner rt requested ∧ ∃ record', requested.currentTurn = some record' := by
      obtain ⟨-, rfl⟩ | ⟨-, room, rfl⟩ := requestCancel_cases asked
      · exact ⟨.refl _, record, current⟩
      · exact ⟨⟨.say _ _ room (fun _ => up) trivial rfl rfl, .one current .requestCancel⟩, _, rfl⟩
    obtain ⟨first, record', current'⟩ := first
    apply first.trans
    obtain ⟨-, same⟩ | ⟨-, -, pending, -, latched⟩ := latchCancel_cases inner current'
    · rw [same]
      exact .refl _
    · rw [latched]
      exact ⟨.beside rfl rfl rfl, .flagged current' rfl rfl rfl⟩

theorem releaseCancel (turn : TurnId) : Carries final settles allowed inner rt (rt.releaseCancel turn) :=
  ⟨.beside rfl rfl rfl, .updateTurn fun _ => .flags _ _⟩

/-- Showing a lifecycle publishes it if there was room for it. -/
theorem reporting (fine : allowed projected)
    (room : record.projection.lifecycle ≠ some projected → rt.highWaterSeq < maxSeq)
    (up : final ∨ settles → rt.workerStopped = false) (same : mid.feed = rt.feed)
    (stays : mid.workerStopped = rt.workerStopped) (shown : Evolves allowed rt.currentTurn mid.currentTurn) :
    Carries final settles allowed inner rt
      (RuntimeState.reporting inner (record.projection.lifecycle != some projected) turn projected mid) := by
  unfold RuntimeState.reporting
  split
  · rename_i changed
    exact ⟨.say _ _ (room (by simpa using changed)) up fine same stays, shown⟩
  · exact ⟨.quiet same stays fun asked => .running (up (.inr asked)) (stays.trans (up (.inr asked))), shown⟩

theorem commitCancelResult (fine : allowed projected) :
    Carries final settles allowed inner rt (rt.commitCancelResult inner turn projected).2 := by
  obtain same | ⟨up, record, current, -, -, -, room, shown⟩ := commitCancelResult_cases inner rt turn projected
  · rw [same]
    exact .refl rt
  · rw [shown]
    exact .reporting fine room (fun _ => up) rfl rfl
      (.two current (.display record.projection.isCancelRequested fine) (.flags _ _))

variable {actor : P0Actor} {result : Except CloudLifecycleError P0CloudLifecycle}

theorem commitReconcile {expected : CloudSubmitOperationId} {candidates : P0RecoveryCandidates}
    (orderly : final → rt.workerStopped = true → rt.currentOperation ≠ some expected) :
    Carries final settles allowed inner rt (rt.commitReconcile inner actor expected candidates).2 := by
  unfold RuntimeState.commitReconcile
  split
  · exact .refl rt
  · rename_i named
    split
    · exact .refl rt
    · rename_i room
      refine ⟨.append _ _ (reserveEvents_eq_ok.mp room) (fun asked => ?_) trivial rfl rfl fun _ => .refl rt, .refl _⟩
      rw [Bool.eq_false_iff]
      intro stopped
      exact orderly asked stopped (requireCurrentOperation_eq_ok.mp named)

theorem queueMonitor (first : Carries final settles allowed inner rt rt') :
    Carries final settles allowed inner rt (rt'.queueMonitor inner now turn projected) := by
  unfold RuntimeState.queueMonitor
  split
  · exact first.trans ⟨.beside rfl rfl rfl, .refl _⟩
  · exact first

theorem commitResolve {op : CloudSubmitOperationId} {decision : UnknownSubmitDecision} (fine : allowed projected) :
    Carries final settles allowed inner rt (rt.commitResolve inner now actor op decision projected).2 := by
  obtain same | ⟨up, -, room, record, current, -, -, shown⟩ := commitResolve_cases inner rt now actor op decision projected
  · rw [same]
    exact .refl rt
  · rw [shown]
    apply Carries.queueMonitor
    have resolved : Carries final settles allowed inner rt (appendEvent inner (rt.showing record projected false)
        (some record.turnId) (.recoveryResolved actor op (decisionKind decision))) :=
      ⟨.say _ _ (Nat.lt_of_succ_lt room) (fun _ => up) trivial rfl rfl, .showing fine current⟩
    exact resolved.trans ⟨.say _ _ room (fun _ => up) fine rfl rfl, .refl _⟩

theorem requestShutdown
    (orderly : final → rt.workerStopped = true → ∀ record, rt.currentTurn = some record →
      record.projection ≠ .queued) :
    Carries final settles allowed inner rt (rt.requestShutdown inner).2 := by
  obtain same | same | ⟨record, current, queued, room, stops⟩ := requestShutdown_cases inner rt
  · rw [same]
    exact .refl rt
  · rw [same]
    exact ⟨.beside rfl rfl rfl, .refl _⟩
  · rw [stops]
    refine ⟨.stop _ .shutdown room (fun asked => ?_) rfl rfl rfl, .one current (.stopEarly (.inl queued))⟩
    rw [Bool.eq_false_iff]
    intro stopped
    exact orderly asked stopped record current queued

/-! ## The worker -/

/-- A worker that works on the current turn has not been stopped. -/
theorem up_of_named (apart : final ∨ settles → rt.workerStopped = true → rt.turnNamed turn = none)
    (current : rt.currentTurn = some record) (same : record.turnId = turn) :
    final ∨ settles → rt.workerStopped = false := by
  intro asked
  rw [Bool.eq_false_iff]
  intro stopped
  exact turnNamed_eq_none.mp (apart asked stopped) record current same

theorem afterStartShown (current : rt.currentTurn = some record) (same : record.turnId = turn)
    (room : rt.shutdownRequested = true → rt.highWaterSeq < maxSeq) (up : final ∨ settles → rt.workerStopped = false) :
    Carries final settles allowed inner rt (rt.afterStartShown inner now turn projected).2 := by
  obtain ⟨down, stops⟩ | ⟨-, -, -, cancels⟩ | ⟨-, -, waits⟩ := afterStartShown_cases inner now projected current same
  · rw [stops]
    exact ⟨.stop _ .shutdown (room down) (fun asked => up (.inl asked)) rfl rfl rfl, .refl _⟩
  · rw [cancels]
    exact ⟨.beside rfl rfl rfl, .flagged current rfl rfl rfl⟩
  · rw [waits]
    exact .queueMonitor (.refl rt)

theorem handleStartResult (apart : final ∨ settles → rt.workerStopped = true → rt.turnNamed turn = none)
    (known : settles → (Worker.started turn result).reportsUnknown = true → rt.workerStopped = false)
    (fine : ∀ projected, result = .ok projected → allowed projected) :
    Carries final settles allowed inner rt (rt.handleStartResult inner now turn result).2 := by
  cases result with
  | error error => exact .stopAfterLowerFailure turn
  | ok projected =>
      obtain failed | ⟨record, current, same, -, room, more, shows⟩ := handleStartResult_ok inner rt now turn projected
      · rw [failed]
        have latched : Carries final settles allowed inner rt (rt.latchUnknown projected) := by
          unfold RuntimeState.latchUnknown
          split
          · rename_i unknown
            exact ⟨.quiet rfl rfl fun asked => .running (known asked unknown) (known asked unknown), .refl _⟩
          · exact .refl rt
        exact latched.trans (.stopAfterLowerFailure turn)
      · rw [shows]
        have up := up_of_named apart current same
        have shown : Carries final settles allowed inner rt (appendEvent inner (rt.showing record projected false)
            (some turn) (.lifecycleChanged projected)) :=
          ⟨.say _ _ room up (fine projected rfl) rfl rfl, .showing (fine projected rfl) current⟩
        exact shown.trans (.afterStartShown (rt.showing_currentTurn record projected false) same more up)

theorem showInspected (apart : final ∨ settles → rt.workerStopped = true → rt.turnNamed turn = none)
    (fine : allowed projected) :
    Carries final settles allowed inner rt (rt.showInspected inner now turn projected) := by
  obtain failed | ⟨record, current, same, -, room, shows⟩ := showInspected_cases inner rt now turn projected
  · rw [failed]
    exact .stopAfterLowerFailure turn
  · rw [shows]
    exact .queueMonitor (.reporting fine room (up_of_named apart current same) rfl rfl (.showing fine current))

theorem degradeMonitoring (bare : final ∨ settles → rt.workerStopped = true → rt.currentLifecycle = none) :
    Carries final settles allowed inner rt (rt.degradeMonitoring inner now turn failures) := by
  obtain failed | ⟨record, pending, due, current, shown, waits, failures', reported, report, degraded⟩ :=
    degradeMonitoring_cases inner rt now failures turn
  · rw [failed]
    exact .stopAfterLowerFailure turn
  · rw [degraded]
    have turned : Evolves allowed rt.currentTurn (rt.degraded record pending).currentTurn :=
      .one current (.degrade _ shown waits)
    have up : final ∨ settles → rt.workerStopped = false := by
      intro asked
      rw [Bool.eq_false_iff]
      intro stopped
      have none := bare asked stopped
      rw [currentLifecycle, current] at none
      cases none.symm.trans shown
    obtain rfl | ⟨room, rfl⟩ := report
    · exact ⟨.quiet rfl rfl fun asked => .running (up (.inr asked)) (up (.inr asked)), turned⟩
    · have told : Carries final settles allowed inner rt (appendEvent inner (rt.degraded record pending) (some turn)
          .monitoringDegraded) := ⟨.say _ _ room up trivial rfl rfl, turned⟩
      exact told.trans ⟨.beside rfl rfl rfl, .refl _⟩

theorem handleMonitorResult (apart : final ∨ settles → rt.workerStopped = true → rt.turnNamed turn = none)
    (bare : final ∨ settles → rt.workerStopped = true → rt.currentLifecycle = none)
    (fine : ∀ projected, result = .ok projected → allowed projected) :
    Carries final settles allowed inner rt (rt.handleMonitorResult inner now turn failures result) := by
  obtain ⟨-, -, -, cleared⟩ | ⟨-, ⟨-, stops⟩ | ⟨-, ⟨projected, answered, shows⟩ | ⟨error, -, degrades⟩ | fails⟩⟩ :=
    handleMonitorResult_cases inner rt now failures turn result
  · rw [cleared]
    exact ⟨.beside rfl rfl rfl, .refl _⟩
  · rw [stops]
    obtain stopped | ⟨record, projected, answered, current, same, -, room, stopped⟩ := showThenStop_cases inner rt turn result
    · rw [stopped]
      exact .stopWorker .shutdown
    · rw [stopped]
      have fine := fine projected answered
      have shown : Carries final settles allowed inner rt (appendEvent inner (rt.showing record projected false)
          (some turn) (.lifecycleChanged projected)) :=
        ⟨.say _ _ (Nat.lt_of_succ_lt room) (up_of_named apart current same) fine rfl rfl, .showing fine current⟩
      exact shown.trans (.stopWorker .shutdown)
  · rw [shows]
    exact .showInspected apart (fine projected answered)
  · rw [degrades]
    exact .degradeMonitoring bare
  · rw [fails]
    exact .stopAfterLowerFailure turn

theorem commitWorkerCancel (apart : final ∨ settles → rt.workerStopped = true → rt.turnNamed turn = none)
    (fine : allowed projected) (done : rt.commitWorkerCancel inner turn projected = .ok rt') : Carries final settles allowed inner rt rt' := by
  obtain ⟨record, current, same, -, room, rfl⟩ := commitWorkerCancel_eq_ok done
  exact ⟨.say _ _ room (up_of_named apart current same) fine rfl rfl,
    .two current (.display record.projection.isCancelRequested fine) (.flags _ _)⟩

end Carries

/-! ## A turn comes in and is started -/

theorem Writes.startTurn (turn : TurnId) (prompt : CloudPrompt) :
    Writes final settles allowed inner rt (rt.startTurn inner turn prompt).2 := by
  obtain same | ⟨up, -, -, room, accepted⟩ := startTurn_cases inner rt turn prompt
  · rw [same]
    exact .beside rfl rfl rfl
  · rw [accepted]
    exact .say _ _ room (fun _ => up) trivial rfl rfl

theorem Writes.nextWorkerAction {action : WorkerAction} (chosen : rt.nextWorkerAction inner now = some (action, rt')) :
    Writes final settles allowed inner rt rt' := by
  obtain ⟨-, -, rfl⟩ | ⟨record, -, -, -, -, rfl⟩ | ⟨record, prompt, -, -, -, -, rfl⟩ | ⟨turn, prompt, -, -, rfl⟩ |
    ⟨turn, due, failures, -, -, -, rfl⟩ := nextWorkerAction_cases chosen
  · exact .stopWorker .shutdown
  · exact .beside rfl rfl rfl
  · exact .beside rfl rfl rfl
  · have cleared : Writes final settles allowed inner rt { rt with work := none } := .beside rfl rfl rfl
    exact cleared.trans (.stopWorker .lowerFailure)
  · exact .beside rfl rfl rfl

theorem Writes.admitStart (apart : final ∨ settles → rt.workerStopped = true → rt.turnNamed turn = none) :
    Writes final settles allowed inner rt (rt.admitStart inner turn).2 := by
  obtain ⟨-, stops⟩ | fails | ⟨record, -, current, same, ⟨-, room, cancels⟩ | ⟨-, admits⟩⟩ := admitStart_cases inner rt turn
  · rw [stops]
    exact .stopWorker .shutdown
  · rw [fails]
    exact (Carries.stopAfterLowerFailure turn).toWrites
  · rw [cancels]
    exact .say _ _ room (Carries.up_of_named apart current same) trivial rfl rfl
  · rw [admits]
    exact .beside rfl rfl rfl

end RuntimeState

/-! ## Steps -/

/-- The calls that answer with a lifecycle. -/
inductive LowerCommand where
  | start | inspect | cancel | resolve
  deriving Repr, DecidableEq

/-- An answer that is not committed yet. -/
def Worker.held : Worker → Option (LowerCommand × CloudLifecycle)
  | .started _ (.ok lifecycle) => some (.start, lifecycle)
  | .monitored _ _ (.ok lifecycle) => some (.inspect, lifecycle)
  | .canceled _ _ (.ok lifecycle) => some (.cancel, lifecycle)
  | .started _ (.error _) | .monitored _ _ (.error _) | .canceled _ _ (.error _) | .idle | .claimed _ _ | .admitted _ _
  | .submitting _ _ _ | .submitted _ _ _ | .monitoring _ _ | .canceling _ _ | .failing _ | .exited => none

def Caller.held : Caller → Option (LowerCommand × CloudLifecycle)
  | .canceling _ _ _ (.answered lifecycle) => some (.cancel, lifecycle)
  | .resolved _ _ _ (.ok lifecycle) => some (.resolve, lifecycle)
  | .canceling _ _ _ .calling | .canceling _ _ _ (.failed _) | .canceling _ _ _ .polling
  | .canceling _ _ _ (.givingUp _) | .resolved _ _ _ (.error _) | .idle | .observing | .reconciling _ _
  | .reconciled _ _ _ | .resolving _ _ _ | .shuttingDown | .joining | .returned _ => none

/-- The labels of subscribers. -/
def Label.isSubscriber : Label → Bool
  | .subscribe _ _ | .receive _ | .dropReceiver _ => true
  | .startTurn _ | .cancelTurn _ _ | .reconcileUnknown _ _ | .resolveUnknown _ _ _ _ | .shutdown _ | .call _
  | .worker | .elapse _ => false

namespace Sys

open RuntimeState

/-- The two commands that do not ask whether the runtime has stopped find nothing to publish: a
reconciliation commits for an operation that is not on show, a shutdown meets no queued turn. -/
def Orderly (sys : Sys) : Label → Prop
  | .call i => ∀ actor expected found, sys.callers i = .reconciled actor expected (.ok found) →
      sys.runtime.workerStopped = true → sys.runtime.currentOperation ≠ some expected
  | .shutdown _ => sys.runtime.workerStopped = true → ∀ record, sys.runtime.currentTurn = some record →
      record.projection ≠ .queued
  | .startTurn _ | .cancelTurn _ _ | .reconcileUnknown _ _ | .resolveUnknown _ _ _ _ | .subscribe _ _
  | .receive _ | .dropReceiver _ | .worker | .elapse _ => True

/-- The answers that are not committed yet. -/
structure Holds (fits : LowerCommand → CloudLifecycle → Prop) (sys : Sys) : Prop where
  worker : ∀ command lifecycle, sys.worker.held = some (command, lifecycle) → fits command lifecycle
  callers : ∀ i command lifecycle, (sys.callers i).held = some (command, lifecycle) → fits command lifecycle

variable {final settles : Prop} {allowed : P0CloudLifecycle → Prop} {inner : Inner} {runner : CloudTaskRunner} {sys sys' : Sys}
  {result : Except CloudLifecycleError CloudLifecycle} {turn : TurnId} {label : Label} {busy : Role}

theorem Holds.started (holds : sys.Holds fun _ => allowed) (worker : sys.worker = .started turn result) :
    ∀ projected, result = .ok projected → allowed projected := by
  rintro projected rfl
  exact holds.worker _ _ (congrArg Worker.held worker)

theorem Holds.monitored (holds : sys.Holds fun _ => allowed) (worker : sys.worker = .monitored turn failures result) :
    ∀ projected, result = .ok projected → allowed projected := by
  rintro projected rfl
  exact holds.worker _ _ (congrArg Worker.held worker)

/-- A busy worker of a stopped runtime works on a turn that is not current. -/
theorem Controlled.apart (control : sys.Controlled) (role : sys.worker.role = some busy)
    (stopped : sys.runtime.workerStopped = true) : sys.runtime.turnNamed busy.turn = none :=
  turnNamed_eq_none.mpr fun record current =>
    (Control.worker control).stopped busy record role current stopped |>.2

theorem Controlled.bare (control : sys.Controlled) (role : sys.worker.role = some busy)
    (stopped : sys.runtime.workerStopped = true) : sys.runtime.currentLifecycle = none := by
  cases current : sys.runtime.currentTurn with
  | none => simp [currentLifecycle, current]
  | some record =>
      have other := ((Control.worker control).stopped busy record role current stopped).2
      have unclaimed := (Control.worker control).replaced busy record role current other
      simp [currentLifecycle, current, unclaimed.lifecycle]

theorem step_writes (control : final ∨ settles → sys.Controlled) (orderly : final → sys.Orderly label)
    (known : settles → label = .worker → sys.worker.reportsUnknown = true → sys.runtime.workerStopped = false)
    (holds : sys.Holds fun _ => allowed) (command : label.isSubscriber = false)
    (stepped : sys.step inner runner label = some sys') :
    Writes final settles allowed inner sys.runtime sys'.runtime := by
  have apart : ∀ {busy}, sys.worker.role = some busy → final ∨ settles → sys.runtime.workerStopped = true →
      sys.runtime.turnNamed busy.turn = none := fun role asked => (control asked).apart role
  have bare : ∀ {busy}, sys.worker.role = some busy → final ∨ settles → sys.runtime.workerStopped = true →
      sys.runtime.currentLifecycle = none := fun role asked => (control asked).bare role
  cases step_moves stepped with
  | startTurn prompt => exact .startTurn (sys.turns + 1) prompt
  | cancelTurn actor idle => exact (Carries.cancelTurn actor).toWrites
  | shutdown idle => exact (Carries.requestShutdown orderly).toWrites
  | subscribe session afterSeq => cases command
  | receive subscriber => cases command
  | dropReceiver subscriber => cases command
  | commitCancel caller => exact (Carries.commitCancelResult (holds.callers _ _ _ (congrArg Caller.held caller))).toWrites
  | releaseCancel caller reply => exact (Carries.releaseCancel _).toWrites
  | commitReconcile caller candidates =>
      exact (Carries.commitReconcile fun asked => orderly asked _ _ _ caller).toWrites
  | commitResolve caller own => exact (Carries.commitResolve (holds.callers _ _ _ (congrArg Caller.held caller))).toWrites
  | nextAction worker taken => exact .nextWorkerAction taken
  | admitStart worker => exact .admitStart (apart (congrArg Worker.role worker))
  | startResult worker =>
      exact (Carries.handleStartResult (apart (congrArg Worker.role worker)) (fun asked => worker ▸ known asked rfl)
        (holds.started worker)).toWrites
  | monitorResult worker =>
      exact (Carries.handleMonitorResult (apart (congrArg Worker.role worker)) (bare (congrArg Worker.role worker))
        (holds.monitored worker)).toWrites
  | workerCommit worker committed =>
      exact (Carries.commitWorkerCancel (apart (congrArg Worker.role worker))
        (holds.worker _ _ (congrArg Worker.held worker)) committed).toWrites
  | workerFail worker => exact (Carries.stopAfterLowerFailure _).toWrites
  | _ => exact .beside rfl rfl rfl

theorem step_publishes (control : final → sys.Controlled) (orderly : final → sys.Orderly label)
    (command : label.isSubscriber = false) (stepped : sys.step inner runner label = some sys') :
    Publishes final inner sys.runtime sys'.runtime := by
  have anything : sys.Holds fun _ _ => True := ⟨fun _ _ _ => trivial, fun _ _ _ _ => trivial⟩
  have writes : Writes final False _ inner sys.runtime sys'.runtime :=
    step_writes (fun asked => control (asked.resolve_right id)) orderly False.elim anything command stepped
  exact writes.publishes

end Sys

end Codebox.Session
