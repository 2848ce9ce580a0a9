import Codebox.Session.Steps

/-! # Control in every run

Every step keeps `Control`, whatever the orchestrator answers: the proofs look at the outcome of
a lower call only to see that it returned.
-/

namespace Codebox.Session

open Codebox.Support Codebox.Cloud

namespace RuntimeState

variable {inner : Inner} {rt rt' : RuntimeState} {turn : TurnId} {about : Option TurnId} {payload : P0SessionEvent}
  {reason : P0RuntimeStopReason}

@[simp] theorem requested_appendEvent : (rt.appendEvent inner about payload).Requested turn ↔
    rt.Requested turn ∨ (about = some turn ∧ ∃ actor, payload = .cancelRequested actor) := by
  simp [Requested, exists_or]

theorem Quiet.core (quiet : Quiet rt rt') : rt'.core = rt.core := by
  simp [RuntimeState.core, quiet.currentTurn, quiet.sessionState, quiet.work, quiet.shutdownRequested,
    quiet.workerStopped]

theorem Quiet.asked (quiet : Quiet rt rt') : rt'.Requested = rt.Requested := by
  funext turn
  exact propext (exists_congr fun _ => quiet.requested)

theorem Halted.core (halted : Halted reason rt rt') :
    rt'.core = { rt.core with
      sessionState := .stopped
      work := none
      workerStopped := true
      currentTurn := rt.currentTurn.map (turnAtStop reason) } := by
  simp [RuntimeState.core, halted.currentTurn, halted.sessionState, halted.work, halted.shutdownRequested,
    halted.workerStopped]

theorem Halted.asked (halted : Halted reason rt rt') : rt'.Requested = rt.Requested := by
  funext turn
  exact propext (exists_congr fun _ => halted.logged (by simp))

@[simp] theorem turnAtStop_lowerFailure : turnAtStop .lowerFailure = id := by
  funext record
  simp [turnAtStop]

end RuntimeState

/-- `Control` of a whole runtime. -/
def Controlled (rt : RuntimeState) (role : Option Role) (callers : Nat → Caller) (turns : Nat) : Prop :=
  Control rt.core rt.Requested role callers turns

variable {next : Caller}

namespace Controlled

open RuntimeState

variable {inner : Inner} {rt rt' : RuntimeState} {role : Option Role} {callers : Nat → Caller} {turns i : Nat}
  {turn : TurnId} {record : TurnRecord} {busy : Role} {projected : P0CloudLifecycle} {session : P0SessionState}
  {activity : Activity}

theorem append {about : Option TurnId} {payload : P0SessionEvent} (control : Controlled rt role callers turns) :
    Controlled (rt.appendEvent inner about payload) role callers turns :=
  Control.ask control fun _ asked => requested_appendEvent.mpr (.inl asked)

theorem closed {reason : CloseReason} (control : Controlled rt role callers turns) :
    Controlled (rt.closeSubscribers reason) role callers turns := control

theorem quiet (control : Controlled rt role callers turns) (quiet : Quiet rt rt') :
    Controlled rt' role callers turns := by
  unfold Controlled
  rw [quiet.core, quiet.asked]
  exact control

theorem shutdown (control : Controlled rt role callers turns) (down : rt.shutdownRequested = true) :
    Controlled (stopWorker inner rt .shutdown) none callers turns := by
  cases stopped : rt.workerStopped with
  | true =>
      rw [stopWorker_stopped stopped]
      exact Control.rest control
  | false =>
      have halted := stopWorker_running inner rt stopped .shutdown
      unfold Controlled
      rw [halted.core, halted.asked]
      exact Control.halt control down

/-- A failed lower call stops the worker, also when an unknown outcome was latched before. -/
theorem lowerFailure (control : Controlled rt (some ⟨activity, turn⟩) callers turns)
    (stays : session = rt.sessionState ∨ session = .recoveryRequired) :
    Controlled (stopAfterLowerFailure inner { rt with sessionState := session } turn) none callers turns := by
  obtain stopped | running := rt.workerStopped.eq_false_or_eq_true
  · have other : turnNamed { rt with sessionState := session } turn = none :=
      turnNamed_eq_none.mpr fun record current => (control.worker.stopped _ record rfl current stopped).2
    rw [stopAfterLowerFailure_stopped inner { rt with sessionState := session } stopped other]
    exact Control.outlive control stopped stays
  · have halted := stopAfterLowerFailure_running inner { rt with sessionState := session } running turn
    unfold Controlled
    rw [halted.core, halted.asked, turnAtStop_lowerFailure, Option.map_id]
    exact Control.fail control

theorem running (control : Controlled rt (some busy) callers turns) (current : rt.currentTurn = some record)
    (same : record.turnId = busy.turn) : rt.workerStopped = false := by
  obtain stopped | running := rt.workerStopped.eq_false_or_eq_true
  · exact absurd same (control.worker.stopped busy record rfl current stopped).2
  · exact running

theorem failed (control : Controlled rt (some ⟨activity, turn⟩) callers turns) :
    Controlled (stopAfterLowerFailure inner rt turn) none callers turns :=
  lowerFailure control (.inl rfl)

theorem requestable {projection : P0TurnProjection} (shown : projection.sessionState = some session)
    (claimed : projection ≠ .queued) (active : session = .running ∨ session = .monitoringDegraded) :
    projection.requestCancel.isCancelRequested = true := by
  obtain rfl | rfl := active <;> cases projection <;> simp_all

/-! ## Commands -/

section

variable (control : Controlled rt role callers turns)

include control

theorem startTurn (prompt : CloudPrompt) :
    Controlled (rt.startTurn inner (turns + 1) prompt).2 role callers (turns + 1) := by
  obtain same | ⟨up, -, ready, -, accepted⟩ := startTurn_cases inner rt (turns + 1) prompt
  · rw [same]
    exact Control.later control
  · rw [accepted]
    exact append (Control.accept control prompt ready up)

theorem latchCancel (current : rt.currentTurn = some record) (up : rt.workerStopped = false)
    (claimed : record.projection ≠ .queued) (requested : record.projection.isCancelRequested = true)
    (enters : ∀ turn pending, (rt.latchCancel inner).1 = .ok (.proceed turn pending) →
      next.cancels = some turn)
    (otherwise : (∀ turn pending, (rt.latchCancel inner).1 ≠ .ok (.proceed turn pending)) →
      next.cancels = none) : Controlled (rt.latchCancel inner).2 role (Function.update callers i next) turns := by
  obtain ⟨ends, same⟩ | ⟨undone, free, pending, entry, latched⟩ := latchCancel_cases inner current
  · rw [same]
    exact Control.dropCaller control (otherwise ends)
  · rw [latched]
    apply Control.latch control current up undone free claimed requested (enters _ _ entry)
    cases pending
    · exact .inr rfl
    · exact .inl rfl

/-- The first section of `cancel_turn`, with what becomes of its caller. -/
theorem cancelTurn (actor : P0Actor)
    (enters : ∀ turn pending, (rt.cancelTurn inner actor).1 = .ok (.proceed turn pending) →
      next.cancels = some turn)
    (otherwise : (∀ turn pending, (rt.cancelTurn inner actor).1 ≠ .ok (.proceed turn pending)) →
      next.cancels = none) :
    Controlled (rt.cancelTurn inner actor).2 role (Function.update callers i next) turns := by
  obtain ⟨ends, same⟩ | ⟨up, -, active, record, current, ⟨queued, ends, -, canceled⟩ |
    ⟨claimed, requested, asked, entry⟩⟩ := cancelTurn_cases inner rt actor
  · rw [same]
    exact Control.dropCaller control (otherwise ends)
  · rw [canceled]
    exact append (Control.dropCaller (Control.cancelQueued control current queued up) (otherwise ends))
  · rw [entry] at enters otherwise ⊢
    obtain ⟨already, rfl⟩ | ⟨fresh, -, rfl⟩ := requestCancel_cases asked
    · exact latchCancel control current up claimed already enters otherwise
    · have shown := control.runtime.shown record current up
      refine latchCancel ?_ rfl up (by simpa using claimed) (requestable shown claimed active) enters otherwise
      refine Control.requestCancel (Control.ask control fun _ before => ?_) current ?_
      · exact requested_appendEvent.mpr (.inl before)
      · exact requested_appendEvent.mpr (.inr ⟨rfl, actor, rfl⟩)

theorem reporting {changed : Bool} : Controlled (rt.reporting inner changed turn projected) role callers turns := by
  unfold RuntimeState.reporting
  split
  · exact append control
  · exact control

theorem showing (projected : P0CloudLifecycle) (current : rt.currentTurn = some record)
    (up : rt.workerStopped = false) (claimed : record.projection ≠ .queued)
    (free : role = none ∨ record.projection.lifecycle.isSome = true) :
    Controlled (rt.showing record projected false) role callers turns := by
  have displayed := Control.display control projected current up claimed free
  unfold Controlled RuntimeState.core
  simp only [showing_currentTurn, Bool.or_false]
  exact displayed

theorem queueMonitor (now : Nat) (projected : P0CloudLifecycle) (current : rt.currentTurn = some record)
    (same : record.turnId = turn) (up : rt.workerStopped = false) (claimed : record.projection ≠ .queued) :
    Controlled (rt.queueMonitor inner now turn projected) role callers turns := by
  subst same
  unfold RuntimeState.queueMonitor
  split
  · exact Control.watch control _ _ current up claimed
  · exact control

/-- The caller that holds the latch is the only one, and the worker is not canceling. -/
theorem alone (cancels : Cancels callers i record.turnId) (current : rt.currentTurn = some record)
    (done : next.cancels = none) :
    (∀ j, ¬Cancels (Function.update callers i next) j record.turnId) ∧
      ∀ busy, role = some busy → busy.activity ≠ .canceling ∧ busy.turn = record.turnId := by
  obtain ⟨consistent, worker, cancelers, known⟩ := control
  have current : rt.core.currentTurn = some record := current
  constructor
  · intro j
    rw [cancels_update]
    grind
  · grind

theorem commitCancelResult (cancels : Cancels callers i turn) (projected : P0CloudLifecycle)
    (done : next.cancels = none) :
    Controlled (rt.commitCancelResult inner turn projected).2 role (Function.update callers i next) turns := by
  obtain same | ⟨up, record, current, rfl, -, -, -, shown⟩ := commitCancelResult_cases inner rt turn projected
  · rw [same]
    exact Control.dropCaller control done
  · rw [shown]
    obtain ⟨nobody, own⟩ := alone control cancels current done
    have flags := control.cancelers.latched i record current cancels
    obtain ⟨claimed, requested⟩ := control.runtime.latched record current flags
    have finished := Control.finish (Control.dropCaller control done) projected current up nobody own
      claimed requested
    apply reporting
    exact finished

theorem releaseCancel (cancels : Cancels callers i turn) (done : next.cancels = none) :
    Controlled (rt.releaseCancel turn) role (Function.update callers i next) turns := by
  cases named : rt.turnNamed turn with
  | none =>
      rw [RuntimeState.releaseCancel, updateTurn_other named]
      exact Control.dropCaller control done
  | some record =>
      obtain ⟨current, rfl⟩ := turnNamed_eq_some.mp named
      rw [RuntimeState.releaseCancel, updateTurn_current current rfl]
      obtain ⟨nobody, own⟩ := alone control cancels current done
      exact Control.release (Control.dropCaller control done) current nobody fun busy working canceling =>
        absurd canceling (own busy working).1

theorem commitResolve (now : Nat) (actor : P0Actor) (op : CloudSubmitOperationId) (decision : UnknownSubmitDecision)
    (projected : P0CloudLifecycle) :
    Controlled (rt.commitResolve inner now actor op decision projected).2 role callers turns := by
  obtain same | ⟨up, -, -, record, current, names, -, shown⟩ :=
    commitResolve_cases inner rt now actor op decision projected
  · rw [same]
    exact control
  · rw [shown]
    have has : record.projection.lifecycle.isSome = true := by
      cases projection : record.projection <;> simp_all
    have claimed : record.projection ≠ .queued := by
      intro queued
      simp [queued] at has
    have displayed := showing control projected current up claimed (.inr has)
    exact queueMonitor (append (append displayed)) now projected (showing_currentTurn rt record projected false)
      rfl up (by simp)

theorem requestShutdown : Controlled (rt.requestShutdown inner).2 role callers turns := by
  obtain same | flagged | ⟨record, current, queued, -, stopped⟩ := requestShutdown_cases inner rt
  · rw [same]
    exact control
  · rw [flagged]
    exact Control.beginShutdown control
  · rw [stopped]
    exact closed (append (Control.stopQueued control current queued))

end

/-! ## The worker -/

theorem nextWorkerAction {now : Nat} {action : WorkerAction} (control : Controlled rt none callers turns)
    (chosen : rt.nextWorkerAction inner now = some (action, rt')) :
    Controlled rt' (Sys.chosen action).role callers turns := by
  obtain ⟨down, rfl, rfl⟩ | ⟨record, live, current, due, rfl, rfl⟩ |
    ⟨record, prompt, live, current, work, rfl, rfl⟩ | ⟨turn, prompt, work, missing, -⟩ |
    ⟨turn, due, failures, live, work, rfl, rfl⟩ := nextWorkerAction_cases chosen
  · exact shutdown control down
  · simp only [cancellationDue, Bool.and_eq_true, Bool.not_eq_true'] at due
    obtain ⟨⟨⟨asked, free⟩, undone⟩, shows⟩ := due
    have has : record.projection.lifecycle.isSome = true := by
      cases projection : record.projection <;> simp_all
    exact Control.claimCancel control live current ⟨asked, free, undone⟩ has (.inr rfl)
  · exact Control.claimStart control live current work
  · obtain ⟨record, current, same, -⟩ := control.runtime.start turn prompt work
    exact absurd same (turnNamed_eq_none.mp missing record current)
  · exact Control.claimMonitor control live work

theorem admitStart (control : Controlled rt (some ⟨.claiming, turn⟩) callers turns) :
    Controlled (rt.admitStart inner turn).2
      (if (rt.admitStart inner turn).1 then some ⟨.launching, turn⟩ else none) callers turns := by
  obtain ⟨down, stopped⟩ | failed' | ⟨record, -, current, rfl, ⟨asked, -, canceled⟩ | ⟨unasked, admitted⟩⟩ :=
    admitStart_cases inner rt turn
  · rw [stopped]
    exact shutdown control down
  · rw [failed']
    exact failed control
  · rw [canceled]
    exact append (Control.admitCancel control current rfl)
  · rw [admitted]
    exact Control.letThrough control current rfl unasked

theorem afterStartShown (now : Nat) (projected : P0CloudLifecycle) (control : Controlled rt none callers turns)
    (current : rt.currentTurn = some record) (same : record.turnId = turn) (up : rt.workerStopped = false)
    (has : record.projection.lifecycle.isSome = true) :
    Controlled (rt.afterStartShown inner now turn projected).2
      (if (rt.afterStartShown inner now turn projected).1 then some ⟨.canceling, turn⟩ else none)
      callers turns := by
  obtain ⟨down, ends⟩ | ⟨live, owes, -, ends⟩ | ⟨-, -, ends⟩ :=
    afterStartShown_cases inner now projected current same
  · rw [ends]
    exact closed (append (Control.haltShown control down))
  · rw [ends, ← same]
    exact Control.claimCancel control live current owes has (.inl rfl)
  · rw [ends]
    refine queueMonitor control now projected current same up ?_
    intro queued
    simp [queued] at has

theorem handleStartResult (now : Nat) (result : Except CloudLifecycleError P0CloudLifecycle)
    (control : Controlled rt (some ⟨.launching, turn⟩) callers turns) :
    Controlled (rt.handleStartResult inner now turn result).2
      (if (rt.handleStartResult inner now turn result).1 then some ⟨.canceling, turn⟩ else none)
      callers turns := by
  cases result with
  | error error =>
      rw [handleStartResult_error]
      exact failed control
  | ok projected =>
      obtain failed' | ⟨record, current, rfl, -, -, -, shown⟩ := handleStartResult_ok inner rt now turn projected
      · rw [failed', latchUnknown]
        split
        · exact lowerFailure control (.inr rfl)
        · exact failed control
      · rw [shown]
        have up := running control current rfl
        have claimed := control.worker.begun _ record rfl current rfl
        have displayed := showing (Control.rest control) projected current up claimed (.inl rfl)
        exact afterStartShown now projected (append displayed) (showing_currentTurn rt record projected false)
          rfl up rfl

theorem degradeMonitoring (now failures : Nat) (control : Controlled rt (some ⟨.watching, turn⟩) callers turns) :
    Controlled (rt.degradeMonitoring inner now turn failures) none callers turns := by
  obtain failed' | ⟨record, pending, due, current, shown, -, failures', reported, report, degraded'⟩ :=
    degradeMonitoring_cases inner rt now failures turn
  · rw [failed']
    exact failed control
  · rw [degraded']
    have same : record.turnId = turn := by
      by_contra other
      have unclaimed := control.worker.replaced _ record rfl current other
      rw [unclaimed.lifecycle] at shown
      cases shown
    subst same
    have up := running control current rfl
    have degraded := Control.degrade (Control.rest control) pending.operationId current up shown
    have watched := Control.watch degraded due failures' rfl up (by simp)
    obtain rfl | ⟨-, rfl⟩ := report
    · exact watched
    · exact Control.ask watched fun _ asked => requested_appendEvent.mpr (.inl asked)

theorem handleMonitorResult (now failures : Nat) (result : Except CloudLifecycleError P0CloudLifecycle)
    (control : Controlled rt (some ⟨.watching, turn⟩) callers turns) :
    Controlled (rt.handleMonitorResult inner now turn failures result) none callers turns := by
  obtain ⟨-, -, -, cleared⟩ | ⟨-, ⟨down, stops⟩ | ⟨-, ⟨projected, rfl, shows⟩ | ⟨error, rfl, degrades⟩ | fails⟩⟩ :=
    handleMonitorResult_cases inner rt now failures turn result
  · rw [cleared]
    exact Control.clearWork (Control.rest control)
  · rw [stops]
    obtain stopped | ⟨record, projected, rfl, current, rfl, -, -, stopped⟩ := showThenStop_cases inner rt turn result
    · rw [stopped]
      exact shutdown control down
    · rw [stopped]
      have up := running control current rfl
      have claimed := control.worker.begun _ record rfl current rfl
      exact shutdown (append (showing (Control.rest control) projected current up claimed (.inl rfl))) down
  · rw [shows]
    obtain failed' | ⟨record, current, rfl, -, -, shown⟩ := showInspected_cases inner rt now turn projected
    · rw [failed']
      exact failed control
    · rw [shown]
      have up := running control current rfl
      have claimed := control.worker.begun _ record rfl current rfl
      have displayed := showing (Control.rest control) projected current up claimed (.inl rfl)
      exact queueMonitor (reporting displayed) now projected
        ((reporting_currentTurn ..).trans (showing_currentTurn rt record projected false)) rfl
        ((reporting_workerStopped ..).trans up) (by simp)
  · rw [degrades]
    exact degradeMonitoring now failures control
  · rw [fails]
    exact failed control

theorem commitWorkerCancel (control : Controlled rt (some ⟨.canceling, turn⟩) callers turns)
    (done : rt.commitWorkerCancel inner turn projected = .ok rt') : Controlled rt' none callers turns := by
  obtain ⟨record, current, rfl, -, -, rfl⟩ := commitWorkerCancel_eq_ok done
  have up := running control current rfl
  have nobody : ∀ i, ¬Cancels callers i record.turnId := fun i cancels =>
    control.cancelers.exclusive i record _ current cancels rfl rfl rfl
  have flags := control.worker.canceling _ record rfl current rfl rfl
  obtain ⟨claimed, requested⟩ := control.runtime.latched record current (.inl flags.1)
  have finished := Control.finish (Control.rest control) projected current up nobody (by simp) claimed requested
  exact append finished

end Controlled

/-! ## Runs -/

namespace Sys

variable {inner : Inner} {runner : CloudTaskRunner} {sys sys' : Sys} {i : Nat} {process : Process} {turn : TurnId}

/-- `Control` of the runtime with its worker and its callers. -/
def Controlled (sys : Sys) : Prop := Session.Controlled sys.runtime sys.worker.role sys.callers sys.turns

/-- A start that waits is that of the current turn. -/
theorem Controlled.start_named {prompt : CloudPrompt} (control : sys.Controlled)
    (work : sys.runtime.work = some (.start turn prompt)) (missing : sys.runtime.turnNamed turn = none) : False := by
  obtain ⟨record, current, same, -⟩ := (Control.runtime control).start _ _ work
  exact RuntimeState.turnNamed_eq_none.mp missing record current same

theorem Controlled.setCaller (control : sys.Controlled) (done : next.cancels = none) :
    (sys.setCaller i next).Controlled := Control.dropCaller control done

/-- A caller that goes on canceling the same turn changes nothing. -/
theorem Controlled.sameTurn {handle : Bool} (control : sys.Controlled) (same : next.cancels = (sys.callers i).cancels) :
    Controlled ({ sys with process := process, handle := handle }.setCaller i next) := by
  apply Control.sameCancels control
  intro j turn
  by_cases here : j = i
  · subst here
    simp [Cancels, Sys.setCaller, same]
  · simp [Cancels, Sys.setCaller, Function.update_of_ne here]

theorem Controlled.enterCancel (actor : P0Actor) (control : sys.Controlled) :
    (sys.enterCancel inner i actor).Controlled := by
  show Session.Controlled (sys.runtime.cancelTurn inner actor).2 sys.worker.role (Function.update sys.callers i
    (afterEntry sys.now (sys.runtime.cancelTurn inner actor).1)) sys.turns
  apply Session.Controlled.cancelTurn control actor
  · intro turn pending proceeds
    rw [proceeds]
    rfl
  · intro ends
    cases entry : (sys.runtime.cancelTurn inner actor).1 with
    | error error => rfl
    | ok entry' =>
        cases entry' with
        | finished snapshot => rfl
        | joined => rfl
        | proceed turn pending => exact absurd entry (ends turn pending)

theorem role_ite {cond : Bool} {worker other : Worker} :
    (if cond then worker else other).role = if cond then worker.role else other.role := by
  cases cond <;> rfl

/-- The control that goes with the worker's role. -/
theorem Controlled.under {role : Option Role} (control : sys.Controlled) (has : sys.worker.role = role) :
    Session.Controlled sys.runtime role sys.callers sys.turns := by
  rw [← has]
  exact control

/-- The worker goes on in its role. -/
theorem Controlled.goOn {worker : Worker} {starts : List (TurnId × CloudSubmitOperationId)} (control : sys.Controlled)
    (same : worker.role = sys.worker.role) :
    Controlled { sys with process := process, worker := worker, starts := starts } := by
  unfold Sys.Controlled
  rw [same]
  exact control

theorem Controlled.step {label : Label} (control : sys.Controlled)
    (stepped : sys.step inner runner label = some sys') : sys'.Controlled := by
  cases step_moves stepped with
  | startTurn prompt => exact Session.Controlled.startTurn control prompt
  | cancelTurn actor idle => exact control.enterCancel actor
  | shutdown idle =>
      apply Control.dropCaller (Session.Controlled.requestShutdown control)
      cases (sys.runtime.requestShutdown inner).1 <;> rfl
  | subscribe session afterSeq =>
      exact Session.Controlled.quiet control (RuntimeState.subscribe_quiet inner sys.runtime session afterSeq)
  | receive subscriber => exact Session.Controlled.quiet control (RuntimeState.receive_quiet sys.runtime subscriber)
  | dropReceiver subscriber =>
      exact Session.Controlled.quiet control (RuntimeState.dropReceiver_quiet sys.runtime subscriber)
  | elapse duration => exact control
  | advance handle next command calm same =>
      obtain done | same := same
      · exact Control.dropCaller control done
      · exact control.sameTurn same
  | enterResolve idle entered => exact control.setCaller rfl
  | cancelPass caller ran => exact control.sameTurn (by rw [caller]; rfl)
  | commitCancel caller =>
      exact Session.Controlled.commitCancelResult control (congrArg Caller.cancels caller) _ rfl
  | releaseCancel caller reply =>
      exact Session.Controlled.releaseCancel control (congrArg Caller.cancels caller) rfl
  | reconcile caller ran => exact Control.dropCaller control rfl
  | commitReconcile caller candidates =>
      exact Control.dropCaller (Session.Controlled.quiet control (RuntimeState.commitReconcile_quiet ..)) rfl
  | resolve caller ran => exact Control.dropCaller control rfl
  | @commitResolve i actor op decision projected caller own =>
      exact Control.dropCaller (Session.Controlled.commitResolve control sys.now actor op decision projected) rfl
  | nextAction worker taken =>
      exact Session.Controlled.nextWorkerAction (control.under (congrArg Worker.role worker)) taken
  | admitStart worker =>
      unfold Sys.Controlled
      rw [role_ite]
      exact Session.Controlled.admitStart (control.under (congrArg Worker.role worker))
  | startBegin worker ran => exact control.goOn (by rw [worker, role_afterBegin]; rfl)
  | startSubmit worker ran => exact control.goOn (by rw [worker, role_afterSubmit]; rfl)
  | startCommit worker ran => exact control.goOn (by rw [worker]; rfl)
  | startResult worker =>
      unfold Sys.Controlled
      rw [role_ite]
      exact Session.Controlled.handleStartResult sys.now _ (control.under (congrArg Worker.role worker))
  | inspect worker ran => exact control.goOn (by rw [worker]; rfl)
  | monitorResult worker =>
      exact Session.Controlled.handleMonitorResult sys.now _ _ (control.under (congrArg Worker.role worker))
  | workerPass worker ran => exact control.goOn (by rw [worker, role_afterWorkerPass]; rfl)
  | workerCommit worker committed =>
      exact Session.Controlled.commitWorkerCancel (control.under (congrArg Worker.role worker)) committed
  | @workerDrop turn afterStart lifecycle error worker refused =>
      cases afterStart with
      | true => exact Control.rest control
      | false => exact control.goOn (by rw [worker]; rfl)
  | workerFail worker =>
      obtain worker | ⟨afterStart, error, worker⟩ := worker
      · exact Session.Controlled.failed (control.under (congrArg Worker.role worker))
      · exact Session.Controlled.failed (control.under (congrArg Worker.role worker))

theorem controlled_first {rt : RuntimeState} {lifecycle : CloudLifecycle}
    (session : rt.sessionState = stateForLifecycle lifecycle) (up : rt.workerStopped = false)
    (current : rt.currentTurn = some (initialTurn turn lifecycle))
    (work : rt.work = none ∨ ∃ due, rt.work = some (.monitor turn due 0)) :
    Session.Controlled rt none (fun _ => .idle) turn := by
  have nobody : ∀ i turn, ¬Cancels (fun _ => .idle) i turn := fun _ _ cancels => by cases cancels
  have current : rt.core.currentTurn = some ⟨turn, .cloud lifecycle false, false, false, false⟩ := current
  refine ⟨?_, ?_, ?_, ?_⟩ <;> constructor <;> grind [RuntimeState.core]

theorem Controlled.build {result : Except CloudLifecycleError CloudLifecycle}
    (built : Sys.build inner process result = some sys) : sys.Controlled := by
  obtain ⟨rt, starts, begun, rfl⟩ := build_cases built
  obtain rfl | ⟨lifecycle, work, -, -, waits, rfl⟩ := initialState_cases begun
  · have nobody : ∀ i turn, ¬Cancels (fun _ => .idle) i turn := fun _ _ cancels => by cases cancels
    refine ⟨?_, ?_, ?_, ?_⟩ <;> constructor <;> grind [RuntimeState.core, Worker.role]
  · exact controlled_first rfl rfl rfl waits

theorem Controlled.new (built : Sys.new inner process = some sys) : sys.Controlled := by
  obtain ⟨process', result, built, -⟩ := build_of_new built
  exact .build built

theorem controlled_reachable {env : Nat → Answers} (reachable : (system inner runner env).Reachable sys) :
    sys.Controlled := by
  apply reachable.invariant
  · rintro sys ⟨process, -, built⟩
    exact .new built
  · intro sys label sys' _ control _ stepped
    exact control.step stepped

end Sys

end Codebox.Session
