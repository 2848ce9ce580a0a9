import Codebox.Session.Lower
import Codebox.Session.Records

/-! # What the current turn displays

A turn is displayed as starting exactly as long as the worker holds its start, a degraded display
names the operation of a pending lifecycle, and every lifecycle on display was answered by a lower call.
-/

namespace Codebox.Session

open Codebox.Support Codebox.Cloud

/-- What the record of the current turn may be while the worker has a role. -/
structure TurnRecord.Fits (allowed : P0CloudLifecycle → Prop) (role : Option Role) (record : TurnRecord) : Prop where
  degraded : ∀ op pending asked, record.projection = .monitoringDegraded op pending asked →
    pending.isPending = true ∧ pending.operationId = op
  known : ∀ lifecycle, record.projection.lifecycle = some lifecycle → allowed lifecycle
  queued : record.projection = .queued → record.lowerStartAdmitted = false
  starting : record.projection.isStarting = true →
    role = some ⟨.claiming, record.turnId⟩ ∧ record.lowerStartAdmitted = false ∨ role = some ⟨.launching, record.turnId⟩

section

variable {allowed : P0CloudLifecycle → Prop} {role role' : Option Role} {record record' : TurnRecord}

/-- The worker does not hold the start of a turn. -/
def StartsNothing (role : Option Role) : Prop :=
  ∀ busy, role = some busy → busy.activity ≠ .claiming ∧ busy.activity ≠ .launching

theorem startsNothing_canceling (turn : TurnId) : StartsNothing (some ⟨.canceling, turn⟩) := by
  rintro busy ⟨⟩
  simp

theorem TurnRecord.Fits.begun (fits : record.Fits allowed role) (free : StartsNothing role) :
    record.projection.isStarting = false := by
  by_contra starting
  obtain ⟨claiming, -⟩ | launching := fits.starting (eq_true_of_ne_false starting)
  · exact (free _ claiming).1 rfl
  · exact (free _ launching).2 rfl

/-- A record that is not displayed as starting fits every role. -/
theorem TurnRecord.Fits.other (fits : record.Fits allowed role) (begun : record.projection.isStarting = false) :
    record.Fits allowed role' :=
  { fits with starting := fun starting => by cases begun.symm.trans starting }

theorem TurnRecord.Fits.step (fits : record.Fits allowed role) (small : record.Step allowed record') :
    record'.Fits allowed role := by
  cases small with
  | flags inProgress completed => exact ⟨fits.degraded, fits.known, fits.queued, fits.starting⟩
  | requestCancel =>
      refine ⟨?_, ?_, ?_, ?_⟩
      · intro op pending asked shown
        cases projection : record.projection <;> rw [projection] at shown <;> cases shown
        exact fits.degraded _ _ _ projection
      · intro lifecycle shown
        exact fits.known lifecycle (by simpa using shown)
      · intro queued
        exact fits.queued (by simpa using queued)
      · intro starting
        apply fits.starting
        cases projection : record.projection <;> rw [projection] at starting <;> first | rfl | cases starting
  | display asked fine =>
      refine ⟨?_, ?_, ?_, ?_⟩
      · intro op pending asked shown
        cases shown
      · intro lifecycle shown
        cases shown
        exact fine
      · intro queued
        cases queued
      · intro starting
        cases starting
  | degrade asked shown waits =>
      refine ⟨?_, ?_, ?_, ?_⟩
      · intro op pending asked degraded
        cases degraded
        exact ⟨waits, rfl⟩
      · intro lifecycle still
        cases still
        exact fits.known _ shown
      · intro queued
        cases queued
      · intro starting
        cases starting
  | cancelQueued | stopEarly | fail =>
      refine ⟨?_, ?_, ?_, ?_⟩
      · intro op pending asked shown
        cases shown
      · intro lifecycle shown
        cases shown
      · intro queued
        cases queued
      · intro starting
        cases starting

end

namespace RuntimeState

/-- The record of the current turn fits. -/
def Displayed (allowed : P0CloudLifecycle → Prop) (role : Option Role) (rt : RuntimeState) : Prop :=
  ∀ record, rt.currentTurn = some record → record.Fits allowed role

variable {inner : Inner} {allowed : P0CloudLifecycle → Prop} {role role' : Option Role} {rt rt' : RuntimeState}
  {turn : TurnId}

theorem Displayed.evolve (displayed : rt.Displayed allowed role) (evolves : Evolves allowed rt.currentTurn rt'.currentTurn) :
    rt'.Displayed allowed role := by
  intro record' current'
  obtain ⟨record, current, steps⟩ := evolves record' current'
  have fits := displayed record current
  clear current'
  induction steps with
  | refl => exact fits
  | tail _ small ih => exact ih.step small

theorem Displayed.carry (displayed : rt.Displayed allowed role) (carries : Carries False False allowed inner rt rt') :
    rt'.Displayed allowed role :=
  displayed.evolve carries.evolves

/-- A worker that held no start takes another role. -/
theorem Displayed.free (displayed : rt.Displayed allowed role) (free : StartsNothing role) :
    rt.Displayed allowed role' :=
  fun record current => (displayed record current).other ((displayed record current).begun free)

/-- The failure of a start takes the display off. -/
theorem Displayed.failed {activity : Activity} (displayed : rt.Displayed allowed (some ⟨activity, turn⟩)) :
    (stopAfterLowerFailure inner rt turn).Displayed allowed role' := by
  have marked : (rt.updateTurn turn fun record =>
      { record with projection := .stoppedAfterLowerFailure }).Displayed allowed none := by
    intro record' current'
    cases named : rt.turnNamed turn with
    | none =>
        rw [updateTurn_other named] at current'
        have fits := displayed record' current'
        apply fits.other
        by_contra starting
        have own : record'.turnId = turn := by
          obtain ⟨claiming, -⟩ | launching := fits.starting (eq_true_of_ne_false starting)
          · cases claiming
            rfl
          · cases launching
            rfl
        exact turnNamed_eq_none.mp named record' current' own
    | some record =>
        obtain ⟨current, same⟩ := turnNamed_eq_some.mp named
        rw [updateTurn_current current same] at current'
        cases current'
        exact ((displayed record current).step .fail).other rfl
  exact (marked.evolve (.stopWorker .lowerFailure)).free (fun busy none => by cases none)

/-- The result of a start replaces its display. -/
theorem Displayed.startResult {now : Nat} {result : Except CloudLifecycleError P0CloudLifecycle}
    (displayed : rt.Displayed allowed (some ⟨.launching, turn⟩))
    (fine : ∀ projected, result = .ok projected → allowed projected) :
    (handleStartResult inner now turn result rt).2.Displayed allowed role' := by
  cases result with
  | error error => exact displayed.failed
  | ok projected =>
      obtain fails | ⟨record, current, same, -, -, more, shows⟩ := handleStartResult_ok inner rt now turn projected
      · rw [fails]
        have latched : (rt.latchUnknown projected).Displayed allowed (some ⟨.launching, turn⟩) := by
          intro record current
          rw [currentTurn_latchUnknown] at current
          exact displayed record current
        exact latched.failed
      · rw [shows]
        have shown : (appendEvent inner (rt.showing record projected false) (some turn)
            (.lifecycleChanged projected)).Displayed allowed role' := by
          intro record' current'
          have fits := displayed.evolve (.showing (fine projected rfl) current) record' current'
          cases current'
          exact fits.other rfl
        exact shown.carry (.afterStartShown (rt.showing_currentTurn record projected false) same more nofun)

/-- A shutdown at the admission takes the start off the display. -/
theorem Displayed.stopClaimed (displayed : rt.Displayed allowed (some ⟨.claiming, turn⟩))
    (running : ∀ record, rt.currentTurn = some record → record.turnId = turn → rt.workerStopped = false) :
    (stopWorker inner rt .shutdown).Displayed allowed none := by
  intro record' current'
  have fits : record'.Fits allowed (some ⟨.claiming, turn⟩) := displayed.evolve (.stopWorker .shutdown) record' current'
  apply fits.other
  by_contra starting
  have starting := eq_true_of_ne_false starting
  have own : record'.turnId = turn ∧ record'.lowerStartAdmitted = false := by
    obtain ⟨claiming, waiting⟩ | launching := fits.starting starting
    · cases claiming
      exact ⟨rfl, waiting⟩
    · cases launching
  obtain stopped | up := rt.workerStopped.eq_false_or_eq_true
  · rw [stopWorker_stopped stopped] at current'
    cases stopped.symm.trans (running record' current' own.1)
  · rw [(stopWorker_running inner rt up .shutdown).currentTurn] at current'
    obtain ⟨record, -, rfl⟩ := Option.map_eq_some_iff.mp current'
    unfold turnAtStop at starting own
    split at starting
    · cases starting
    · rename_i kept
      apply kept
      rw [if_neg kept] at own
      refine ⟨rfl, ?_⟩
      unfold startNotAdmitted
      split
      · rw [own.2]
        rfl
      · rw [own.2]
        rfl
      · rename_i other
        cases projection : record.projection with
        | starting asked => exact absurd projection (other asked)
        | _ =>
            rw [projection] at starting
            cases starting

end RuntimeState

namespace Sys

variable {inner : Inner} {runner : CloudTaskRunner} {sys sys' : Sys} {allowed : P0CloudLifecycle → Prop}

def Displayed (allowed : P0CloudLifecycle → Prop) (sys : Sys) : Prop :=
  sys.runtime.Displayed allowed sys.worker.role

theorem Displayed.keep (displayed : sys.Displayed allowed) (runtime : sys'.runtime = sys.runtime)
    (role : sys'.worker.role = sys.worker.role) : sys'.Displayed allowed := by
  unfold Displayed
  rw [runtime, role]
  exact displayed

/-- What the worker's role says of the display. -/
theorem Displayed.under {role : Option Role} (displayed : sys.Displayed allowed) (has : sys.worker.role = role) :
    sys.runtime.Displayed allowed role := by
  rw [← has]
  exact displayed

theorem Displayed.nextAction {action : RuntimeState.WorkerAction} {runtime : RuntimeState}
    (displayed : sys.Displayed allowed) (control : sys.Controlled) (idle : sys.worker = .idle)
    (taken : sys.runtime.nextWorkerAction inner sys.now = some (action, runtime)) :
    Displayed allowed { sys with runtime := runtime, worker := chosen action } := by
  have resting : sys.runtime.Displayed allowed none := displayed.under (congrArg Worker.role idle)
  have free : StartsNothing none := fun busy none => by cases none
  obtain ⟨-, rfl, rfl⟩ | ⟨record, -, current, -, rfl, rfl⟩ | ⟨record, prompt, -, current, work, rfl, rfl⟩ |
    ⟨turn, prompt, work, missing, -⟩ | ⟨turn, due, failures, -, -, rfl, rfl⟩ :=
    RuntimeState.nextWorkerAction_cases taken
  · exact resting.evolve (.stopWorker .shutdown)
  · apply RuntimeState.Displayed.free _ free
    intro record' current'
    cases current'
    exact (resting record current).step (.flags true record.cancelCompleted)
  · intro record' current'
    cases current'
    refine ⟨?_, ?_, ?_, fun _ => .inl ⟨rfl, rfl⟩⟩
    · intro op pending asked shown
      cases shown
    · intro lifecycle shown
      cases shown
    · intro queued
      cases queued
  · exact (control.start_named work missing).elim
  · exact resting.free free

theorem Displayed.step {label : Label} (displayed : sys.Displayed allowed) (control : sys.Controlled)
    (holds : sys.Holds fun _ => allowed) (stepped : sys.step inner runner label = some sys') :
    sys'.Displayed allowed := by
  cases step_moves stepped with
  | startTurn prompt =>
      obtain same | ⟨-, -, -, -, accepted⟩ := RuntimeState.startTurn_cases inner sys.runtime (sys.turns + 1) prompt
      · rw [same]
        exact displayed
      · rw [accepted]
        intro record' current'
        cases current'
        refine ⟨?_, ?_, fun _ => rfl, ?_⟩
        · intro op pending asked shown
          cases shown
        · intro lifecycle shown
          cases shown
        · intro starting
          cases starting
  | cancelTurn actor idle => exact RuntimeState.Displayed.carry displayed (.cancelTurn actor)
  | shutdown idle => exact RuntimeState.Displayed.carry displayed (.requestShutdown False.elim)
  | subscribe session afterSeq =>
      intro record current
      rw [(RuntimeState.subscribe_quiet inner sys.runtime session afterSeq).currentTurn] at current
      exact displayed record current
  | receive | dropReceiver | elapse | advance | enterResolve | cancelPass | reconcile | resolve => exact displayed
  | commitCancel caller =>
      exact RuntimeState.Displayed.carry displayed (.commitCancelResult (holds.callers _ _ _ (congrArg Caller.held caller)))
  | releaseCancel caller reply => exact RuntimeState.Displayed.evolve displayed (.updateTurn fun _ => .flags _ _)
  | commitReconcile caller candidates => exact RuntimeState.Displayed.carry displayed (.commitReconcile False.elim)
  | commitResolve caller own =>
      exact RuntimeState.Displayed.carry displayed (.commitResolve (holds.callers _ _ _ (congrArg Caller.held caller)))
  | nextAction worker taken => exact displayed.nextAction control worker taken
  | @admitStart turn prompt worker =>
      have role : sys.worker.role = some ⟨.claiming, turn⟩ := congrArg Worker.role worker
      have claimed : sys.runtime.Displayed allowed (some ⟨.claiming, turn⟩) := displayed.under role
      obtain ⟨-, stops⟩ | fails | ⟨record, -, current, same, ⟨-, -, cancels⟩ | ⟨-, admits⟩⟩ :=
        RuntimeState.admitStart_cases inner sys.runtime turn
      · rw [stops]
        apply claimed.stopClaimed
        intro record current own
        by_contra stopped
        exact ((Control.worker control).stopped _ record role current (eq_true_of_ne_false stopped)).2 own
      · rw [fails]
        exact claimed.failed
      · rw [cancels]
        intro record' current'
        cases current'
        constructor <;> intros <;> contradiction
      · rw [admits]
        intro record' current'
        cases current'
        have fits := claimed record current
        refine ⟨fits.degraded, fits.known, ?_, ?_⟩
        · intro queued
          exact absurd queued ((Control.worker control).begun _ record role current same)
        · intro _
          exact .inr (by rw [← same]; rfl)
  | startBegin worker ran => exact displayed.keep rfl (by rw [worker, role_afterBegin]; rfl)
  | startSubmit worker ran => exact displayed.keep rfl (by rw [worker, role_afterSubmit]; rfl)
  | startCommit worker ran | inspect worker ran => exact displayed.keep rfl (by rw [worker]; rfl)
  | @startResult turn result worker =>
      have launched : sys.runtime.Displayed allowed (some ⟨.launching, turn⟩) :=
        displayed.under (congrArg Worker.role worker)
      exact launched.startResult (holds.started worker)
  | @monitorResult turn failures result worker =>
      have watched : sys.runtime.Displayed allowed (some ⟨.watching, turn⟩) :=
        displayed.under (congrArg Worker.role worker)
      have free : StartsNothing (some ⟨.watching, turn⟩) := by
        rintro busy ⟨⟩
        simp
      exact (watched.free free).carry (.handleMonitorResult nofun nofun (holds.monitored worker))
  | workerPass worker ran => exact displayed.keep rfl (by rw [worker, role_afterWorkerPass]; rfl)
  | @workerCommit turn afterStart lifecycle runtime worker committed =>
      have canceled : sys.runtime.Displayed allowed none :=
        (displayed.under (congrArg Worker.role worker)).free (startsNothing_canceling turn)
      exact canceled.carry (.commitWorkerCancel nofun (holds.worker _ _ (congrArg Worker.held worker)) committed)
  | @workerDrop turn afterStart lifecycle error worker refused =>
      exact (displayed.under (congrArg Worker.role worker)).free (startsNothing_canceling turn)
  | @workerFail turn worker =>
      have role : sys.worker.role = some ⟨.canceling, turn⟩ := by
        obtain worker | ⟨afterStart, error, worker⟩ := worker
        · exact congrArg Worker.role worker
        · exact congrArg Worker.role worker
      exact (displayed.under role).failed

/-- A submit in flight is never displayed. -/
def NotSubmitting (lifecycle : P0CloudLifecycle) : Prop := lifecycle.phase ≠ .submitting

theorem Displayed.build {process : Process} {result : Except CloudLifecycleError CloudLifecycle}
    (built : Sys.build inner process result = some sys)
    (fine : ∀ lifecycle, Told result lifecycle → NotSubmitting lifecycle → allowed lifecycle) :
    sys.Displayed allowed := by
  obtain ⟨rt, starts, begun, rfl⟩ := build_cases built
  intro record current
  obtain rfl | ⟨lifecycle, work, told, known, -, rfl⟩ := initialState_cases begun
  · cases current
  · cases current
    refine ⟨?_, ?_, ?_, ?_⟩
    · intro op pending asked shown
      cases shown
    · intro shown same
      cases same
      exact fine lifecycle told known
    · intro queued
      cases queued
    · intro starting
      cases starting

theorem displayed_reachable {env : Nat → Answers} (reachable : (system inner runner env).Reachable sys) :
    sys.Displayed NotSubmitting := by
  apply reachable.invariant
  · rintro sys ⟨process, -, built⟩
    obtain ⟨process', result, built, -⟩ := build_of_new built
    exact .build built fun _ _ known => known
  · intro sys label sys' before displayed _ stepped
    have holds := (holds_reachable before).mono fun _ _ => Orchestrated.not_submitting
    exact displayed.step (controlled_reachable before) holds stepped

/-- One party at a time cancels the current turn, a caller or the worker, and whoever cancels a turn
was asked to. -/
theorem one_canceler_at_a_time {env : Nat → Answers} (reachable : (system inner runner env).Reachable sys) :
    (∀ record i, sys.runtime.currentTurn = some record → Cancels sys.callers i record.turnId →
      (∀ j, Cancels sys.callers j record.turnId → i = j) ∧ sys.worker.role ≠ some ⟨.canceling, record.turnId⟩) ∧
    ∀ i turn, Cancels sys.callers i turn ∨ sys.worker.role = some ⟨.canceling, turn⟩ → sys.runtime.Requested turn := by
  obtain ⟨-, worker, cancelers, -⟩ := controlled_reachable reachable
  constructor
  · intro record i current cancels
    refine ⟨fun j other => cancelers.unique i j record current cancels other, fun busy => ?_⟩
    exact cancelers.exclusive i record _ current cancels busy rfl rfl
  · rintro i turn (cancels | busy)
    · exact cancelers.requested i turn cancels
    · exact worker.requested _ busy rfl

theorem caller_cancels_alone : ∃ sys, (system plainInner plainRunner fun _ => plainAnswers).Reachable sys ∧
    Cancels sys.callers 0 2 ∧ sys.runtime.Requested 2 := by
  have ran : scheduled plainInner plainRunner (fun _ => plainAnswers) canceledEarly.dropLast = some _ := rfl
  have reachable := scheduled_reachable ran
  exact ⟨_, reachable, rfl, (one_canceler_at_a_time reachable).2 0 2 (.inl rfl)⟩

/-- A turn that is displayed as starting is in the hands of a worker that has not stopped. -/
theorem starting_turn_attended {env : Nat → Answers} {record : TurnRecord}
    (reachable : (system inner runner env).Reachable sys) (current : sys.runtime.currentTurn = some record)
    (starting : record.projection.isStarting = true) :
    sys.runtime.workerStopped = false ∧ (sys.worker.role = some ⟨.claiming, record.turnId⟩ ∧
      record.lowerStartAdmitted = false ∨ sys.worker.role = some ⟨.launching, record.turnId⟩) := by
  have held := (displayed_reachable reachable record current).starting starting
  refine ⟨Bool.eq_false_iff.mpr fun stopped => ?_, held⟩
  have alive := fun busy role =>
    (Control.worker (controlled_reachable reachable)).stopped busy record role current stopped
  rcases held with ⟨role, -⟩ | role
  · exact (alive _ role).2 rfl
  · exact (alive _ role).2 rfl

theorem claimed_turn_attended : ∃ sys record, (system plainInner plainRunner fun _ => plainAnswers).Reachable sys ∧
    sys.runtime.currentTurn = some record ∧ record.projection = .starting false ∧ sys.runtime.workerStopped = false := by
  have ran : scheduled plainInner plainRunner (fun _ => plainAnswers) (canceledEarly.take 2) = some _ := rfl
  have reachable := scheduled_reachable ran
  exact ⟨_, _, reachable, rfl, rfl, (starting_turn_attended reachable rfl rfl).1⟩

end Sys

end Codebox.Session
