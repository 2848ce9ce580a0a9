import Codebox.Session.Effects
import Codebox.Session.System

/-! # Who works on which turn

What holds between the runtime's state, the worker and the callers of `cancel_turn` in every run,
whatever the orchestrator answers. The worker holds no lock during a lower call, so the current
turn may be replaced under it; these facts say how far that can go.
-/

namespace Codebox.Session

open Codebox.Support Codebox.Cloud

/-! ## Roles -/

/-- What the worker is busy with, up to the place inside the lower call. -/
inductive Activity where
  | claiming
  /-- From the admission of a lower start to the commit of its result. -/
  | launching
  | watching
  | canceling
  deriving Repr, DecidableEq

/-- A busy worker is busy for one turn. -/
structure Role where
  activity : Activity
  turn : TurnId

def Worker.role : Worker → Option Role
  | .idle | .exited => none
  | .claimed turn _ => some ⟨.claiming, turn⟩
  | .admitted turn _ | .submitting turn _ _ | .submitted turn _ _ | .started turn _ =>
      some ⟨.launching, turn⟩
  | .monitoring turn _ | .monitored turn _ _ => some ⟨.watching, turn⟩
  | .canceling turn _ | .canceled turn _ _ | .failing turn => some ⟨.canceling, turn⟩

/-- The turn a caller is canceling: between its latch and the commit of the lower answer. -/
def Caller.cancels : Caller → Option TurnId
  | .canceling turn _ _ _ => some turn
  | .idle | .observing | .reconciling _ _ | .reconciled _ _ _ | .resolving _ _ _ | .resolved _ _ _ _
  | .shuttingDown | .joining | .returned _ => none

/-- Caller `i` is canceling a turn. -/
def Cancels (callers : Nat → Caller) (i : Nat) (turn : TurnId) : Prop := (callers i).cancels = some turn

/-! ## Projections of a turn -/

namespace P0TurnProjection

/-- A turn that no worker has claimed, or that ended before any lower call. -/
def Unclaimed : P0TurnProjection → Prop
  | queued | canceledBeforeCloudStart | stoppedBeforeCloudStart => True
  | starting _ | cloud _ _ | monitoringDegraded _ _ _ | stoppedAfterLowerFailure => False

/-- The session state that goes with a turn while the worker has not stopped. -/
def sessionState : P0TurnProjection → Option P0SessionState
  | queued | starting _ => some .running
  | cloud lifecycle _ => some (stateForLifecycle lifecycle)
  | monitoringDegraded _ _ _ => some .monitoringDegraded
  | canceledBeforeCloudStart => some .ready
  | stoppedBeforeCloudStart | stoppedAfterLowerFailure => none

attribute [simp] Unclaimed.eq_1 Unclaimed.eq_2 Unclaimed.eq_3 Unclaimed.eq_4 Unclaimed.eq_5
  Unclaimed.eq_6 Unclaimed.eq_7 sessionState.eq_1 sessionState.eq_2 sessionState.eq_3 sessionState.eq_4 sessionState.eq_5
  sessionState.eq_6 sessionState.eq_7

attribute [grind =] Unclaimed sessionState isCancelRequested lifecycle requestCancel.eq_1

section

variable {projection : P0TurnProjection}

@[grind →] theorem Unclaimed.lifecycle (unclaimed : projection.Unclaimed) : projection.lifecycle = none := by
  cases projection <;> simp_all

@[grind →] theorem Unclaimed.isCancelRequested (unclaimed : projection.Unclaimed) :
    projection.isCancelRequested = false := by
  cases projection <;> simp_all

@[simp, grind =] theorem lifecycle_requestCancel : projection.requestCancel.lifecycle = projection.lifecycle := by
  cases projection <;> rfl

@[simp, grind =] theorem sessionState_requestCancel :
    projection.requestCancel.sessionState = projection.sessionState := by
  cases projection <;> rfl

@[simp, grind =] theorem unclaimed_requestCancel :
    projection.requestCancel.Unclaimed ↔ projection.Unclaimed := by
  cases projection <;> rfl

@[simp, grind =] theorem requestCancel_eq_queued : projection.requestCancel = .queued ↔ projection = .queued := by
  cases projection <;> simp

@[grind →] theorem isCancelRequested_requestCancel (asked : projection.isCancelRequested = true) :
    projection.requestCancel.isCancelRequested = true := by
  cases projection <;> simp_all

@[simp, grind =] theorem requestCancel_ne_starting : (projection.requestCancel = .starting false) = False := by
  cases projection <;> simp

end

end P0TurnProjection

/-! ## The state behind the lock -/

/-- The part of the runtime's state that decides what happens next. -/
structure Core where
  currentTurn : Option TurnRecord
  sessionState : P0SessionState
  work : Option WorkerWork
  shutdownRequested : Bool
  workerStopped : Bool

def RuntimeState.core (rt : RuntimeState) : Core :=
  ⟨rt.currentTurn, rt.sessionState, rt.work, rt.shutdownRequested, rt.workerStopped⟩

/-- The parts of the runtime's state fit together; `asked` are the turns whose cancellation was
requested. -/
structure Core.Consistent (core : Core) (asked : TurnId → Prop) : Prop where
  start : ∀ turn prompt, core.work = some (.start turn prompt) →
    ∃ record, core.currentTurn = some record ∧ record.turnId = turn ∧ record.projection = .queued
  monitor : ∀ turn due failures, core.work = some (.monitor turn due failures) →
    ∃ record, core.currentTurn = some record ∧ record.turnId = turn ∧ record.projection ≠ .queued
  stoppedWork : core.workerStopped = true → core.shutdownRequested = false → core.work = none
  stoppedState : core.workerStopped = true →
    core.sessionState = .stopped ∨ core.sessionState = .recoveryRequired
  vacant : core.currentTurn = none → core.workerStopped = false → core.sessionState = .ready
  shown : ∀ record, core.currentTurn = some record → core.workerStopped = false →
    record.projection.sessionState = some core.sessionState
  latched : ∀ record, core.currentTurn = some record →
    record.cancelInProgress = true ∨ record.cancelCompleted = true →
    record.projection ≠ .queued ∧ record.projection ≠ .starting false
  requested : ∀ record, core.currentTurn = some record → record.projection.isCancelRequested = true →
    asked record.turnId

/-- What the worker may rely on about the current turn. -/
structure Core.WorkerFits (core : Core) (asked : TurnId → Prop) (role : Option Role) : Prop where
  /-- A turn that replaced the worker's own has not begun. -/
  replaced : ∀ busy record, role = some busy → core.currentTurn = some record →
    record.turnId ≠ busy.turn → record.projection.Unclaimed
  stopped : ∀ busy record, role = some busy → core.currentTurn = some record →
    core.workerStopped = true → core.sessionState = .stopped ∧ record.turnId ≠ busy.turn
  begun : ∀ busy record, role = some busy → core.currentTurn = some record →
    record.turnId = busy.turn → record.projection ≠ .queued
  claiming : ∀ busy record, role = some busy → core.currentTurn = some record →
    record.turnId = busy.turn → busy.activity = .claiming →
    record.projection = .starting false ∨ record.projection.isCancelRequested = true
  /-- Only a committed cancellation shows a lifecycle before the start result does. -/
  launching : ∀ busy record, role = some busy → core.currentTurn = some record →
    record.turnId = busy.turn → busy.activity = .launching →
    (∃ asked, record.projection = .starting asked) ∨
      record.projection.lifecycle.isSome = true ∧ record.cancelCompleted = true
  canceling : ∀ busy record, role = some busy → core.currentTurn = some record →
    record.turnId = busy.turn → busy.activity = .canceling →
    record.cancelInProgress = true ∧ record.cancelCompleted = false
  requested : ∀ busy, role = some busy → busy.activity = .canceling → asked busy.turn
  /-- After a failure there is nothing left that would wake the worker up. -/
  resting : role = none → core.workerStopped = true → core.shutdownRequested = false →
    ∀ record, core.currentTurn = some record → record.projection.lifecycle = none

/-- What the callers of `cancel_turn` may rely on. -/
structure Core.CallersFit (core : Core) (asked : TurnId → Prop) (role : Option Role)
    (callers : Nat → Caller) : Prop where
  latched : ∀ i record, core.currentTurn = some record → Cancels callers i record.turnId →
    record.cancelInProgress = true ∨ record.cancelCompleted = true
  unique : ∀ i j record, core.currentTurn = some record → Cancels callers i record.turnId →
    Cancels callers j record.turnId → i = j
  exclusive : ∀ i record busy, core.currentTurn = some record →
    Cancels callers i record.turnId → role = some busy → busy.activity = .canceling →
    record.turnId ≠ busy.turn
  launching : ∀ i busy, role = some busy → busy.activity = .launching →
    Cancels callers i busy.turn →
    ∃ record, core.currentTurn = some record ∧ record.turnId = busy.turn ∧
      record.cancelInProgress = true ∧ record.cancelCompleted = false
  together : ∀ i record busy, core.currentTurn = some record →
    Cancels callers i record.turnId → role = some busy → record.turnId = busy.turn
  requested : ∀ i turn, Cancels callers i turn → asked turn

/-- The turns that are named have been handed out. -/
structure Core.TurnsKnown (core : Core) (role : Option Role) (callers : Nat → Caller) (turns : Nat) :
    Prop where
  current : ∀ record, core.currentTurn = some record → record.turnId ≤ turns
  worker : ∀ busy, role = some busy → busy.turn ≤ turns
  callers : ∀ i turn, Cancels callers i turn → turn ≤ turns

structure Control (core : Core) (asked : TurnId → Prop) (role : Option Role) (callers : Nat → Caller)
    (turns : Nat) : Prop where
  runtime : core.Consistent asked
  worker : core.WorkerFits asked role
  cancelers : core.CallersFit asked role callers
  known : core.TurnsKnown role callers turns

attribute [grind →] Core.Consistent.start Core.Consistent.monitor Core.Consistent.stoppedWork
  Core.Consistent.stoppedState Core.Consistent.vacant Core.Consistent.shown Core.Consistent.latched
  Core.Consistent.requested Core.WorkerFits.replaced Core.WorkerFits.stopped Core.WorkerFits.begun
  Core.WorkerFits.claiming Core.WorkerFits.launching Core.WorkerFits.canceling Core.WorkerFits.requested
  Core.WorkerFits.resting Core.CallersFit.latched Core.CallersFit.unique Core.CallersFit.exclusive
  Core.CallersFit.launching Core.CallersFit.together Core.CallersFit.requested Core.TurnsKnown.current
  Core.TurnsKnown.worker Core.TurnsKnown.callers

variable {turn : TurnId} {next : Caller} {i : Nat}

@[grind =] theorem cancels_update {callers : Nat → Caller} {j : Nat} :
    Cancels (Function.update callers i next) j turn ↔
      if j = i then next.cancels = some turn else Cancels callers j turn := by
  unfold Cancels
  split <;> simp_all [Function.update]

namespace Control

variable {core : Core} {asked asked' : TurnId → Prop} {role : Option Role} {callers : Nat → Caller}
  {turns : Nat} {record : TurnRecord} {busy : Role} {work : Option WorkerWork}

/-! ## Callers and worker alone -/

section

variable (control : Control core asked role callers turns)

include control

theorem dropCaller (done : next.cancels = none) : Control core asked role (Function.update callers i next) turns := by
  obtain ⟨consistent, worker, cancelers, known⟩ := control
  refine ⟨consistent, worker, ?_, ?_⟩ <;> constructor <;> grind

theorem rest : Control core asked none callers turns := by
  cases role with
  | none => exact control
  | some busy =>
      obtain ⟨consistent, worker, cancelers, known⟩ := control
      refine ⟨consistent, ?_, ?_, ?_⟩ <;> constructor <;> grind

theorem ask (more : ∀ turn, asked turn → asked' turn) : Control core asked' role callers turns := by
  obtain ⟨consistent, worker, cancelers, known⟩ := control
  refine ⟨?_, ?_, ?_, ?_⟩ <;> constructor <;> grind

theorem sameCancels {callers' : Nat → Caller} (same : ∀ i turn, Cancels callers' i turn ↔ Cancels callers i turn) :
    Control core asked role callers' turns := by
  obtain ⟨consistent, worker, cancelers, known⟩ := control
  refine ⟨consistent, worker, ?_, ?_⟩ <;> constructor <;> grind

theorem later : Control core asked role callers (turns + 1) := by
  obtain ⟨consistent, worker, cancelers, known⟩ := control
  refine ⟨consistent, worker, cancelers, ?_⟩
  constructor <;> grind

end

/-! ## Commands -/

section

variable (control : Control core asked role callers turns)

include control

theorem accept (prompt : CloudPrompt) (ready : core.sessionState = .ready) (up : core.workerStopped = false) :
    Control { core with
      sessionState := .running
      currentTurn := some { turnId := turns + 1, projection := .queued }
      work := some (.start (turns + 1) prompt) } asked role callers (turns + 1) := by
  obtain ⟨consistent, worker, cancelers, known⟩ := control
  refine ⟨?_, ?_, ?_, ?_⟩ <;> constructor <;> grind

theorem cancelQueued (current : core.currentTurn = some record) (queued : record.projection = .queued)
    (up : core.workerStopped = false) :
    Control { core with
      work := none
      sessionState := .ready
      currentTurn := some { record with projection := .canceledBeforeCloudStart, cancelCompleted := true } }
      asked role callers turns := by
  obtain ⟨consistent, worker, cancelers, known⟩ := control
  refine ⟨?_, ?_, ?_, ?_⟩ <;> constructor <;> grind

theorem requestCancel (current : core.currentTurn = some record) (now : asked record.turnId) :
    Control { core with
      currentTurn := some { record with projection := record.projection.requestCancel } }
      asked role callers turns := by
  obtain ⟨consistent, worker, cancelers, known⟩ := control
  refine ⟨?_, ?_, ?_, ?_⟩ <;> constructor <;> grind

theorem latch (current : core.currentTurn = some record) (up : core.workerStopped = false)
    (undone : record.cancelCompleted = false) (free : record.cancelInProgress = false)
    (claimed : record.projection ≠ .queued) (requested : record.projection.isCancelRequested = true)
    (canceler : next.cancels = some record.turnId) (kept : work = core.work ∨ work = none) :
    Control { core with currentTurn := some { record with cancelInProgress := true }, work := work }
      asked role (Function.update callers i next) turns := by
  obtain ⟨consistent, worker, cancelers, known⟩ := control
  refine ⟨?_, ?_, ?_, ?_⟩ <;> constructor <;> grind

theorem release (current : core.currentTurn = some record) (alone : ∀ i, ¬Cancels callers i record.turnId)
    (other : ∀ busy, role = some busy → busy.activity = .canceling → busy.turn ≠ record.turnId) :
    Control { core with currentTurn := some { record with cancelInProgress := false } }
      asked role callers turns := by
  obtain ⟨consistent, worker, cancelers, known⟩ := control
  refine ⟨?_, ?_, ?_, ?_⟩ <;> constructor <;> grind

theorem beginShutdown : Control { core with shutdownRequested := true } asked role callers turns := by
  obtain ⟨consistent, worker, cancelers, known⟩ := control
  refine ⟨?_, ?_, ?_, ?_⟩ <;> constructor <;> grind

theorem stopQueued (current : core.currentTurn = some record) (queued : record.projection = .queued) :
    Control { core with
      shutdownRequested := true
      work := none
      sessionState := .stopped
      workerStopped := true
      currentTurn := some { record with projection := .stoppedBeforeCloudStart } }
      asked role callers turns := by
  obtain ⟨consistent, worker, cancelers, known⟩ := control
  refine ⟨?_, ?_, ?_, ?_⟩ <;> constructor <;> grind

/-! ## Showing a lifecycle -/

theorem display (projected : P0CloudLifecycle) (current : core.currentTurn = some record)
    (up : core.workerStopped = false) (claimed : record.projection ≠ .queued)
    (free : role = none ∨ record.projection.lifecycle.isSome = true) :
    Control { core with
      sessionState := stateForLifecycle projected
      work := if projected.isPending then core.work else none
      currentTurn := some { record with
        projection := .cloud projected record.projection.isCancelRequested } } asked role callers turns := by
  obtain ⟨consistent, worker, cancelers, known⟩ := control
  refine ⟨?_, ?_, ?_, ?_⟩ <;> constructor <;> grind

theorem finish (projected : P0CloudLifecycle) (current : core.currentTurn = some record)
    (up : core.workerStopped = false) (alone : ∀ i, ¬Cancels callers i record.turnId)
    (own : ∀ busy, role = some busy → busy.activity ≠ .canceling ∧ busy.turn = record.turnId)
    (claimed : record.projection ≠ .queued) (requested : record.projection ≠ .starting false) :
    Control { core with
      sessionState := stateForLifecycle projected
      work := if projected.isPending then core.work else none
      currentTurn := some { record with
        projection := .cloud projected record.projection.isCancelRequested
        cancelInProgress := false
        cancelCompleted := true } } asked role callers turns := by
  obtain ⟨consistent, worker, cancelers, known⟩ := control
  refine ⟨?_, ?_, ?_, ?_⟩ <;> constructor <;> grind

theorem watch (due failures : Nat) (current : core.currentTurn = some record) (up : core.workerStopped = false)
    (claimed : record.projection ≠ .queued) :
    Control { core with work := some (.monitor record.turnId due failures) } asked role callers turns := by
  obtain ⟨consistent, worker, cancelers, known⟩ := control
  refine ⟨?_, ?_, ?_, ?_⟩ <;> constructor <;> grind

/-- A failed read keeps the pending lifecycle on show. -/
theorem degrade {pending : P0CloudLifecycle} (op : CloudSubmitOperationId) (current : core.currentTurn = some record)
    (up : core.workerStopped = false) (shown : record.projection.lifecycle = some pending) :
    Control { core with
      sessionState := .monitoringDegraded
      currentTurn := some { record with
        projection := .monitoringDegraded op pending record.projection.isCancelRequested } }
      asked role callers turns := by
  obtain ⟨consistent, worker, cancelers, known⟩ := control
  refine ⟨?_, ?_, ?_, ?_⟩ <;> constructor <;> grind

theorem clearWork : Control { core with work := none } asked role callers turns := by
  obtain ⟨consistent, worker, cancelers, known⟩ := control
  refine ⟨?_, ?_, ?_, ?_⟩ <;> constructor <;> grind

end

/-! ## The worker takes work -/

theorem claimStart {prompt : CloudPrompt} (control : Control core asked none callers turns)
    (live : core.shutdownRequested = false) (current : core.currentTurn = some record)
    (work : core.work = some (.start record.turnId prompt)) :
    Control { core with
      work := none
      currentTurn := some { record with projection := .starting false, lowerStartAdmitted := false } }
      asked (some ⟨.claiming, record.turnId⟩) callers turns := by
  obtain ⟨consistent, worker, cancelers, known⟩ := control
  refine ⟨?_, ?_, ?_, ?_⟩ <;> constructor <;> grind

theorem claimMonitor {due failures : Nat} (control : Control core asked none callers turns)
    (live : core.shutdownRequested = false) (work : core.work = some (.monitor turn due failures)) :
    Control { core with work := none } asked (some ⟨.watching, turn⟩) callers turns := by
  obtain ⟨consistent, worker, cancelers, known⟩ := control
  refine ⟨?_, ?_, ?_, ?_⟩ <;> constructor <;> grind

theorem claimCancel (control : Control core asked none callers turns) (live : core.shutdownRequested = false)
    (current : core.currentTurn = some record) (owes : RuntimeState.OwesCancel record)
    (shown : record.projection.lifecycle.isSome = true) (kept : work = core.work ∨ work = none) :
    Control { core with currentTurn := some { record with cancelInProgress := true }, work := work }
      asked (some ⟨.canceling, record.turnId⟩) callers turns := by
  obtain ⟨consistent, worker, cancelers, known⟩ := control
  refine ⟨?_, ?_, ?_, ?_⟩ <;> constructor <;> grind [RuntimeState.OwesCancel]

theorem letThrough (control : Control core asked (some ⟨.claiming, turn⟩) callers turns)
    (current : core.currentTurn = some record) (same : record.turnId = turn)
    (unasked : record.projection.isCancelRequested = false) :
    Control { core with currentTurn := some { record with lowerStartAdmitted := true } }
      asked (some ⟨.launching, turn⟩) callers turns := by
  obtain ⟨consistent, worker, cancelers, known⟩ := control
  refine ⟨?_, ?_, ?_, ?_⟩ <;> constructor <;> grind

theorem admitCancel (control : Control core asked (some ⟨.claiming, turn⟩) callers turns)
    (current : core.currentTurn = some record) (same : record.turnId = turn) :
    Control { core with
      sessionState := .ready
      currentTurn := some { record with
        projection := .canceledBeforeCloudStart
        cancelInProgress := false
        cancelCompleted := true } } asked none callers turns := by
  obtain ⟨consistent, worker, cancelers, known⟩ := control
  refine ⟨?_, ?_, ?_, ?_⟩ <;> constructor <;> grind

/-! ## The worker stops -/

theorem halt (control : Control core asked role callers turns) (down : core.shutdownRequested = true) :
    Control { core with
      sessionState := .stopped
      work := none
      workerStopped := true
      currentTurn := core.currentTurn.map (RuntimeState.turnAtStop .shutdown) } asked none callers turns := by
  obtain ⟨consistent, worker, cancelers, known⟩ := control
  cases current : core.currentTurn with
  | none => refine ⟨?_, ?_, ?_, ?_⟩ <;> constructor <;> grind
  | some record =>
      refine ⟨?_, ?_, ?_, ?_⟩ <;> constructor <;> grind [RuntimeState.turnAtStop]

theorem haltShown (control : Control core asked none callers turns) (down : core.shutdownRequested = true) :
    Control { core with sessionState := .stopped, workerStopped := true } asked none callers turns := by
  obtain ⟨consistent, worker, cancelers, known⟩ := control
  refine ⟨?_, ?_, ?_, ?_⟩ <;> constructor <;> grind

/-- A failure for the current turn ends it. -/
theorem fail (control : Control core asked (some busy) callers turns) :
    Control { core with
      sessionState := .stopped
      work := none
      workerStopped := true
      currentTurn := core.currentTurn.map fun record => if record.turnId = busy.turn then
        { record with projection := .stoppedAfterLowerFailure } else record } asked none callers turns := by
  obtain ⟨consistent, worker, cancelers, known⟩ := control
  cases current : core.currentTurn <;> refine ⟨?_, ?_, ?_, ?_⟩ <;> constructor <;> grind

/-- A stopped runtime only changes its mind about recovery. -/
theorem outlive (control : Control core asked (some busy) callers turns)
    (down : core.workerStopped = true) {session : P0SessionState}
    (stays : session = core.sessionState ∨ session = .recoveryRequired) :
    Control { core with sessionState := session } asked none callers turns := by
  obtain ⟨consistent, worker, cancelers, known⟩ := control
  refine ⟨?_, ?_, ?_, ?_⟩ <;> constructor <;> grind

end Control

end Codebox.Session
