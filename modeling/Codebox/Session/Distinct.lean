import Codebox.Session.Displayed
import Codebox.Session.Monotone

/-! # A lifecycle is published once

A cancellation by an operator and the monitor publish a lifecycle only if it differs from the one on
show. The other sections publish what they have in any case. They repeat a lifecycle when somebody
else has already shown it: a cancellation that is committed before the start result of its turn, a
second resolver with the same decision, and a monitor result that arrives during a shutdown.
-/

namespace Codebox.Session

open Codebox.Support Codebox.Cloud

/-- The worker holds the start of a turn, from its claim to the commit of the result. -/
def Worker.Launches (worker : Worker) (turn : TurnId) : Prop :=
  worker.role = some ⟨.claiming, turn⟩ ∨ worker.role = some ⟨.launching, turn⟩

variable {record : TurnRecord} {projected : P0CloudLifecycle}

namespace RuntimeState

variable {rt : RuntimeState} {turns : Nat}

/-- A lifecycle that is not on show is not the last one published. -/
theorem Chained.distinct (chained : rt.Chained turns) (current : rt.currentTurn = some record)
    (other : record.projection.lifecycle ≠ some projected) (fine : record.projection ≠ .stoppedAfterLowerFailure) :
    ∀ published ∈ (rt.published record.turnId).getLast?, published ≠ projected := by
  rintro published isLast rfl
  exact other (chained.displayed current fine isLast)

end RuntimeState

namespace Sys

open RuntimeState

variable {inner : Inner} {runner : CloudTaskRunner} {env : Nat → Answers} {sys sys' : Sys}
  {result : Except CloudLifecycleError CloudLifecycle} {turn : TurnId} {label : Label} {action : WorkerAction}

/-- No cancellation is committed for a turn whose start the worker holds. -/
def StartsFirst (sys : Sys) (label : Label) : Prop :=
  ∀ i turn pending deadline lifecycle, label = .call i →
    sys.callers i = .canceling turn pending deadline (.answered lifecycle) → ¬ sys.worker.Launches turn

/-- A resolution is committed only while the session still waits for one. -/
def ResolvesOnce (sys : Sys) (label : Label) : Prop :=
  ∀ i actor op decision lifecycle, label = .call i → sys.callers i = .resolved actor op decision (.ok lifecycle) →
    sys.runtime.sessionState = .recoveryRequired

/-- No pending monitor result is committed during a shutdown. -/
def MonitorsLive (sys : Sys) (label : Label) : Prop :=
  ∀ turn failures lifecycle, label = .worker → sys.worker = .monitored turn failures (.ok lifecycle) →
    lifecycle.isPending = true → sys.runtime.shutdownRequested = false

theorem StartsFirst.admitsFirst (first : sys.StartsFirst label) : sys.AdmitsFirst label := by
  intro i turn pending deadline lifecycle prompt own caller claimed
  exact first i turn pending deadline lifecycle own caller (.inl (congrArg Worker.role claimed))

theorem monotone_reach {guard : Sys → Label → Prop} (reach : (system inner runner env).Reach guard sys)
    (first : ∀ sys label, guard sys label → sys.AdmitsFirst label) : sys.Monotone :=
  monotone_open ((open_reach reach).mono fun sys _ held own same => first sys own (held own same))

/-- A turn whose start the worker holds shows no lifecycle yet. -/
def LaunchesBare (sys : Sys) : Prop := ∀ turn, sys.worker.Launches turn → sys.runtime.Bare turn

theorem Worker.not_launches {worker : Worker} (free : StartsNothing worker.role) : ¬ worker.Launches turn := by
  rintro (claiming | launching)
  · exact (free _ claiming).1 rfl
  · exact (free _ launching).2 rfl

theorem launches_chosen (launches : (chosen action).Launches turn) : ∃ prompt, action = .start turn prompt := by
  obtain claiming | launching := launches
  · cases action <;> cases claiming
    exact ⟨_, rfl⟩
  · cases action <;> cases launching

theorem LaunchesBare.nextAction {runtime : RuntimeState} (control : sys.Controlled)
    (taken : sys.runtime.nextWorkerAction inner sys.now = some (action, runtime)) :
    LaunchesBare { sys with runtime := runtime, worker := chosen action } := by
  intro turn launches record' current' same'
  obtain ⟨prompt, rfl⟩ := launches_chosen launches
  obtain ⟨-, stop, -⟩ | ⟨_, -, -, -, cancel, -⟩ | ⟨record, _, -, -, -, -, rfl⟩ | ⟨named, asked, work, missing, -⟩ |
    ⟨_, _, _, -, -, monitor, -⟩ := nextWorkerAction_cases taken
  · cases stop
  · cases cancel
  · cases current'
    rfl
  · exact (control.start_named work missing).elim
  · cases monitor

theorem LaunchesBare.admitStart {prompt : CloudPrompt} (bare : sys.LaunchesBare)
    (worker : sys.worker = .claimed turn prompt) :
    LaunchesBare { sys with
      runtime := (sys.runtime.admitStart inner turn).2
      worker := if (sys.runtime.admitStart inner turn).1 then .admitted turn prompt else .idle } := by
  have idle : ∀ other, ¬ Worker.idle.Launches other := by
    rintro other (claiming | launching)
    · cases claiming
    · cases launching
  intro other launches
  obtain ⟨-, stops⟩ | fails | ⟨record, -, current, same, ⟨-, -, cancels⟩ | ⟨-, admits⟩⟩ :=
    admitStart_cases inner sys.runtime turn
  · simp only [stops, Bool.false_eq_true, if_false] at launches
    exact absurd launches (idle other)
  · simp only [fails, Bool.false_eq_true, if_false] at launches
    exact absurd launches (idle other)
  · simp only [cancels, Bool.false_eq_true, if_false] at launches
    exact absurd launches (idle other)
  · simp only [admits, if_true] at launches ⊢
    intro record' current' same'
    cases current'
    exact bare other (.inl ((congrArg Worker.role worker).trans (by rw [← same', same]; rfl))) record current same'

theorem LaunchesBare.keep (bare : sys.LaunchesBare) (runtime : sys'.runtime = sys.runtime)
    (role : sys'.worker.role = sys.worker.role) : sys'.LaunchesBare := by
  intro turn launches
  rw [runtime]
  unfold Worker.Launches at launches
  rw [role] at launches
  exact bare turn launches

theorem LaunchesBare.free (free : StartsNothing sys'.worker.role) : sys'.LaunchesBare :=
  fun _ launches => absurd launches (Worker.not_launches free)

theorem LaunchesBare.stepWorker (bare : sys.LaunchesBare) (control : sys.Controlled)
    (stepped : sys.step inner runner .worker = some sys') : sys'.LaunchesBare := by
  have idle : StartsNothing none := fun busy role => by cases role
  cases step_moves stepped with
  | nextAction worker taken => exact .nextAction control taken
  | advance handle next command => exact absurd rfl command
  | admitStart worker => exact bare.admitStart worker
  | startBegin worker ran => exact bare.keep rfl (by rw [worker, role_afterBegin]; rfl)
  | startSubmit worker ran => exact bare.keep rfl (by rw [worker, role_afterSubmit]; rfl)
  | startCommit worker ran => exact bare.keep rfl (by rw [worker]; rfl)
  | startResult worker =>
      apply LaunchesBare.free
      dsimp only
      split
      · exact startsNothing_canceling _
      · exact idle
  | inspect worker ran => exact bare.keep rfl (by rw [worker]; rfl)
  | workerPass worker ran => exact bare.keep rfl (by rw [worker, role_afterWorkerPass]; rfl)
  | workerDrop worker refused =>
      apply LaunchesBare.free
      dsimp only
      split
      · exact idle
      · exact startsNothing_canceling _
  | monitorResult | workerCommit | workerFail => exact .free idle

theorem LaunchesBare.step (bare : sys.LaunchesBare) (control : sys.Controlled) (plain : sys.Plain)
    (first : sys.StartsFirst label) (stepped : sys.step inner runner label = some sys') : sys'.LaunchesBare := by
  intro turn launches
  by_cases command : label = .worker
  · subst command
    exact bare.stepWorker control stepped turn launches
  · have worker := worker_of_command command stepped
    rw [worker] at launches
    apply bare_of_command control plain command stepped _ (bare turn launches)
    intro i pending deadline lifecycle own caller
    exact first i turn pending deadline lifecycle own caller launches

/-- A turn that the worker cancels shows a pending lifecycle. -/
def CancelsPending (sys : Sys) : Prop :=
  ∀ turn record, sys.worker.role = some ⟨.canceling, turn⟩ → sys.runtime.currentTurn = some record →
    record.turnId = turn → ∃ lifecycle, record.projection.lifecycle = some lifecycle ∧ lifecycle.isPending = true

theorem CancelsPending.keep (pending : sys.CancelsPending) (runtime : sys'.runtime = sys.runtime)
    (role : sys'.worker.role = sys.worker.role) : sys'.CancelsPending := by
  intro turn record
  rw [runtime, role]
  exact pending turn record

theorem CancelsPending.free (free : ∀ turn, sys'.worker.role ≠ some ⟨.canceling, turn⟩) : sys'.CancelsPending :=
  fun turn _ role => absurd role (free turn)

/-- A cancellation that is due is one of a pending lifecycle. -/
theorem pending_of_due {role : Option Role} (fits : record.Fits NotSubmitting role)
    (due : cancellationDue record = true) :
    ∃ lifecycle, record.projection.lifecycle = some lifecycle ∧ lifecycle.isPending = true := by
  unfold cancellationDue at due
  obtain ⟨-, due⟩ := Bool.and_eq_true_iff.mp due
  split at due
  · rename_i lifecycle asked shown
    exact ⟨lifecycle, by rw [shown]; rfl, due⟩
  · rename_i op lifecycle asked shown
    exact ⟨lifecycle, by rw [shown]; rfl, (fits.degraded _ _ _ shown).1⟩
  · cases due

theorem CancelsPending.startResult :
    CancelsPending { sys with
      runtime := (sys.runtime.handleStartResult inner sys.now turn result).2
      worker := if (sys.runtime.handleStartResult inner sys.now turn result).1 then .canceling turn true else .idle } := by
  intro other record' role current' same'
  have idle : ∀ {handled : Bool × RuntimeState}, handled.1 = false →
      Worker.role (if handled.1 then .canceling turn true else .idle) = none := by
    intro handled no
    rw [no]
    rfl
  cases result with
  | error error => cases role
  | ok projected =>
      obtain fails | ⟨record, current, same, -, -, -, shows⟩ := handleStartResult_ok inner sys.runtime sys.now turn projected
      · dsimp only at role
        rw [idle (congrArg Prod.fst fails)] at role
        cases role
      · have shown : (appendEvent inner (sys.runtime.showing record projected false) (some turn)
            (.lifecycleChanged projected)).currentTurn = some _ := rfl
        obtain ⟨-, stopped⟩ | ⟨-, -, waits, cancels⟩ | ⟨-, -, queued⟩ :=
          afterStartShown_cases inner sys.now projected shown same
        · dsimp only at role
          rw [idle (congrArg Prod.fst (shows.trans stopped))] at role
          cases role
        · dsimp only at current'
          rw [shows.trans cancels] at current'
          cases current'
          exact ⟨projected, rfl, waits⟩
        · dsimp only at role
          rw [idle (congrArg Prod.fst (shows.trans queued))] at role
          cases role

theorem CancelsPending.stepWorker (pending : sys.CancelsPending) (control : sys.Controlled)
    (displayed : sys.Displayed NotSubmitting) (stepped : sys.step inner runner .worker = some sys') :
    sys'.CancelsPending := by
  cases step_moves stepped with
  | @nextAction action runtime worker taken =>
      intro turn record' role current' same'
      obtain ⟨-, rfl, -⟩ | ⟨record, -, current, due, rfl, rfl⟩ | ⟨_, _, -, -, -, rfl, -⟩ |
        ⟨named, asked, work, missing, -⟩ | ⟨_, _, _, -, -, rfl, -⟩ := nextWorkerAction_cases taken
      · cases role
      · cases current'
        have waits := pending_of_due (displayed record current) due
        exact waits
      · cases role
      · exact (control.start_named work missing).elim
      · cases role
  | advance handle next command => exact absurd rfl command
  | admitStart worker =>
      apply CancelsPending.free
      intro turn role
      dsimp only at role
      split at role <;> cases role
  | startBegin worker ran => exact pending.keep rfl (by rw [worker, role_afterBegin]; rfl)
  | startSubmit worker ran => exact pending.keep rfl (by rw [worker, role_afterSubmit]; rfl)
  | startCommit worker ran => exact pending.keep rfl (by rw [worker]; rfl)
  | startResult worker => exact .startResult
  | inspect worker ran => exact pending.keep rfl (by rw [worker]; rfl)
  | workerPass worker ran => exact pending.keep rfl (by rw [worker, role_afterWorkerPass]; rfl)
  | @workerDrop turn afterStart lifecycle error worker refused =>
      cases afterStart with
      | true => exact .free fun turn role => by cases role
      | false => exact pending.keep rfl (by rw [worker]; rfl)
  | monitorResult | workerCommit | workerFail => exact .free fun turn role => by cases role

/-- While a session waits for a resolution its turn shows an unknown outcome. -/
theorem Controlled.unknown_of_recovery (control : sys.Controlled) (current : sys.runtime.currentTurn = some record)
    (up : sys.runtime.workerStopped = false) (recovery : sys.runtime.sessionState = .recoveryRequired) :
    ∃ op, record.projection.lifecycle = some (.outcomeUnknown op) := by
  have shown := (Control.runtime control).shown record current up
  rw [show sys.runtime.core.sessionState = .recoveryRequired from recovery] at shown
  cases projection : record.projection with
  | cloud lifecycle asked =>
      rw [projection] at shown
      cases lifecycle with
      | outcomeUnknown op => exact ⟨op, rfl⟩
      | _ => simp [stateForLifecycle] at shown
  | _ =>
      rw [projection] at shown
      cases shown

theorem CancelsPending.step (pending : sys.CancelsPending) (control : sys.Controlled) (plain : sys.Plain)
    (displayed : sys.Displayed NotSubmitting) (once : sys.ResolvesOnce label)
    (stepped : sys.step inner runner label = some sys') : sys'.CancelsPending := by
  by_cases command : label = .worker
  · subst command
    exact pending.stepWorker control displayed stepped
  intro turn record' role current' same'
  have control' := control.step stepped
  have up' : sys'.runtime.workerStopped = false := by
    by_contra stopped
    exact ((Control.worker control').stopped _ record' role current' (eq_true_of_ne_false stopped)).2 same'
  rw [worker_of_command command stepped] at role
  have shown' := shown_eq_some current'
  cases step_turned control plain stepped with
  | still same =>
      obtain ⟨record, current, equal⟩ := same.current current'
      obtain ⟨lifecycle, shows, waits⟩ := pending turn record role current ((congrArg Shown.turnId equal).trans same')
      exact ⟨lifecycle, (congrArg Shown.lifecycle equal).symm.trans shows, waits⟩
  | accepted up ready shown published =>
      have fresh : sys.turns + 1 = record'.turnId := congrArg Shown.turnId (Option.some.inj (shown.symm.trans shown'))
      have known : turn ≤ sys.turns := (Control.known control).worker _ role
      rw [← same', ← fresh] at known
      exact absurd known (Nat.not_succ_le_self _)
  | failed record current shown published =>
      have failed := congrArg Shown.failed (Option.some.inj (shown.symm.trans shown'))
      have failed : record'.projection = .stoppedAfterLowerFailure := by simpa [TurnRecord.shown] using failed
      have state := (Control.runtime control').shown record' current' up'
      rw [failed] at state
      cases state
  | shows record projected reported current up valid why silent shown published =>
      have equal : Shown.mk record.turnId (some projected) false = record'.shown :=
        Option.some.inj (shown.symm.trans shown')
      have own : record.turnId = turn := (congrArg Shown.turnId equal).trans same'
      cases why with
      | @operatorCancel _ _ i _ _ caller =>
          have cancels : Cancels sys.callers i record.turnId := congrArg Caller.cancels caller
          exact absurd own ((Control.cancelers control).exclusive i record _ current cancels role rfl)
      | resolution caller owns has =>
          obtain ⟨lifecycle, shows, waits⟩ := pending turn record role current own
          obtain ⟨op, unknown⟩ := control.unknown_of_recovery current up (once _ _ _ _ _ rfl caller)
          cases shows.symm.trans unknown
          cases waits
      | _ => exact absurd rfl command

/-! ## Runs -/

/-- The orders of commits in which every publication is of something new. -/
def CommitsOnce (sys : Sys) (label : Label) : Prop :=
  sys.StartsFirst label ∧ sys.ResolvesOnce label ∧ sys.MonitorsLive label

structure Distinct (sys : Sys) : Prop where
  bare : sys.LaunchesBare
  pending : sys.CancelsPending
  distinct : ∀ turn, (sys.runtime.published turn).IsChain (· ≠ ·)

/-- A monitor result for a turn that has ended publishes nothing. -/
theorem monitor_ended {failures : Nat} {shown : P0CloudLifecycle}
    (worker : sys.worker = .monitored turn failures result) (shows : sys.runtime.currentLifecycle = some shown)
    (terminal : shown.isTerminal = true) (stepped : sys.step inner runner .worker = some sys') :
    sys'.runtime.published = sys.runtime.published := by
  have stepped : sys.stepWorker inner runner sys.worker = some sys' := stepped
  rw [worker] at stepped
  cases Option.some.inj stepped
  obtain ⟨-, -, -, ended⟩ | ⟨going, -⟩ := handleMonitorResult_cases inner sys.runtime sys.now failures turn result
  · rw [ended]
    rfl
  · rw [going shown shows] at terminal
    cases terminal

/-- What is published was not on show. -/
theorem Publication.fresh (why : sys.Publication label record projected true) (distinct : sys.Distinct)
    (control : sys.Controlled) (holds : sys.Holds Orchestrated) (once : sys.CommitsOnce label)
    (current : sys.runtime.currentTurn = some record) (up : sys.runtime.workerStopped = false)
    (stepped : sys.step inner runner label = some sys')
    (longer : sys'.runtime.published record.turnId ≠ sys.runtime.published record.turnId) :
    record.projection.lifecycle ≠ some projected := by
  intro same
  generalize reports : true = reported at why
  cases why with
  | startResult worker =>
      have bare := distinct.bare record.turnId (.inr (congrArg Worker.role worker)) record current rfl
      rw [bare] at same
      cases same
  | inspected worker live | operatorCancel caller =>
      rw [same] at reports
      simp at reports
  | lastInspected worker down =>
      obtain ⟨submitting, unknown⟩ := holds.worker _ _ (congrArg Worker.held worker)
      have ended : projected.isTerminal = true := by
        cases projected with
        | submitting op => exact absurd rfl submitting
        | outcomeUnknown op => exact absurd rfl unknown
        | pending op task =>
            have live := once.2.2 _ _ _ rfl worker rfl
            rw [down] at live
            cases live
        | _ => rfl
      have shows : sys.runtime.currentLifecycle = some projected := by
        rw [currentLifecycle, current]
        exact same
      exact longer (congrFun (monitor_ended worker shows ended stepped) record.turnId)
  | workerCancel worker =>
      obtain ⟨lifecycle, shows, waits⟩ := distinct.pending _ record (congrArg Worker.role worker) current rfl
      obtain ⟨-, pending⟩ := holds.worker _ _ (congrArg Worker.held worker)
      cases shows.symm.trans same
      cases projected with
      | pending op task => exact pending rfl
      | _ => cases waits
  | resolution caller owns has =>
      obtain ⟨op, shows⟩ := control.unknown_of_recovery current up (once.2.1 _ _ _ _ _ rfl caller)
      obtain ⟨-, unknown⟩ := holds.callers _ _ _ (congrArg Caller.held caller)
      cases shows.symm.trans same
      exact unknown rfl

theorem Distinct.step (distinct : sys.Distinct) (control : sys.Controlled) (monotone : sys.Monotone)
    (displayed : sys.Displayed NotSubmitting) (holds : sys.Holds Orchestrated) (once : sys.CommitsOnce label)
    (stepped : sys.step inner runner label = some sys') : sys'.Distinct := by
  refine ⟨distinct.bare.step control monotone.plain once.1 stepped,
    distinct.pending.step control monotone.plain displayed once.2.1 stepped, ?_⟩
  intro turn
  cases step_turned control monotone.plain stepped with
  | still same =>
      rw [same.published]
      exact distinct.distinct turn
  | accepted up ready shown published | failed record current shown published =>
      rw [published]
      exact distinct.distinct turn
  | shows record projected reported current up valid why silent shown published =>
      rw [published]
      split
      · rename_i own
        obtain ⟨rfl, rfl⟩ := own
        refine List.isChain_append.mpr ⟨distinct.distinct _, List.isChain_singleton _, ?_⟩
        intro earlier isLast later isFirst
        cases isFirst
        have longer : sys'.runtime.published record.turnId ≠ sys.runtime.published record.turnId := by
          rw [published, if_pos ⟨rfl, rfl⟩]
          simp
        have fresh := why.fresh distinct control holds once current up stepped longer
        have fine : record.projection ≠ .stoppedAfterLowerFailure := by
          intro failed
          have state := (Control.runtime control).shown record current up
          rw [failed] at state
          cases state
        exact monotone.chained.distinct current fresh fine earlier isLast
      · rw [List.append_nil]
        exact distinct.distinct turn

theorem Distinct.build {process : Process} (built : Sys.build inner process result = some sys) : sys.Distinct := by
  have empty : sys.runtime.log = [] := congrArg Feed.log (build_feed built)
  have idle := worker_build built
  refine ⟨?_, ?_, ?_⟩
  · intro turn launches
    rw [idle] at launches
    obtain claiming | launching := launches
    · cases claiming
    · cases launching
  · intro turn record role
    rw [idle] at role
    cases role
  · intro turn
    unfold RuntimeState.published
    rw [empty]
    exact .nil

/-- If every commit comes in an order in which it has something new to say, consecutive lifecycles
published for a turn differ. -/
theorem published_lifecycles_distinct (reach : (system inner runner env).Reach CommitsOnce sys) (turn : TurnId) :
    (sys.runtime.published turn).IsChain (· ≠ ·) := by
  have distinct : sys.Distinct := by
    apply reach.invariant
    · rintro sys ⟨process, -, built⟩
      obtain ⟨process', result, built, -⟩ := build_of_new built
      exact .build built
    · intro sys label sys' before distinct once stepped
      have monotone := monotone_reach before fun sys label once => once.1.admitsFirst
      exact distinct.step (controlled_reachable before.reachable) monotone (displayed_reachable before.reachable)
        (holds_reachable before.reachable) once stepped
  exact distinct.distinct turn

end Sys

/-! ## The start result of a canceled turn

An operator cancels while the submit is in flight. The orchestrator cancels the submit and answers
both with the same lifecycle, and the operator commits first.
-/

def canceledInFlight : List Label :=
  [.startTurn ⟨['p']⟩, .worker, .worker, .worker, .cancelTurn 0 .operator, .call 0, .worker, .worker, .call 0, .call 0,
    .worker]

theorem published_lifecycle_repeats :
    ∃ sys : Sys, (Sys.system plainInner plainRunner fun _ => plainAnswers).Reachable sys ∧
      sys.runtime.published 2 =
        [.canceledLocally firstOperation none false, .canceledLocally firstOperation none false] ∧
      ¬ (sys.runtime.published 2).IsChain (· ≠ ·) := by
  have found : (Sys.scheduled plainInner plainRunner (fun _ => plainAnswers) canceledInFlight).map
      (fun sys => sys.runtime.published 2) =
        some [.canceledLocally firstOperation none false, .canceledLocally firstOperation none false] := by
    decide +kernel
  obtain ⟨sys, ran, published⟩ := Option.map_eq_some_iff.mp found
  refine ⟨sys, Sys.scheduled_reachable ran, published, ?_⟩
  rw [published]
  intro chain
  exact absurd rfl chain.rel

/-- The worker alone, with no shutdown. -/
def Sys.runsAlone (sys : Sys) : Label → Bool
  | .call _ => false
  | .worker => !sys.runtime.shutdownRequested
  | _ => true

theorem Sys.commitsOnce_of_alone (sys : Sys) (label : Label) (alone : sys.runsAlone label = true) :
    sys.CommitsOnce label := by
  refine ⟨?_, ?_, ?_⟩
  · rintro i turn pending deadline lifecycle rfl
    cases alone
  · rintro i actor op decision lifecycle rfl
    cases alone
  · rintro turn failures lifecycle rfl worker waits
    simpa [Sys.runsAlone] using alone

/-- A provider whose task is ready at the first look. -/
def readyAnswers : Answers := { plainAnswers with statusOutput := some .ready }

theorem first_turn_distinct :
    ∃ sys : Sys, (Sys.system plainInner plainRunner fun _ => readyAnswers).Reach Sys.CommitsOnce sys ∧
      sys.runtime.published 2 = [.pending firstOperation listedTask, .ready firstOperation listedTask] ∧
      (sys.runtime.published 2).IsChain (· ≠ ·) := by
  have found : ((Sys.first plainInner plainRunner fun _ => readyAnswers).bind fun sys =>
      (Sys.system plainInner plainRunner fun _ => readyAnswers).runIf Sys.runsAlone sys
        [.startTurn ⟨['p']⟩, .worker, .worker, .worker, .worker, .worker, .worker,
          .elapse plainInner.config.pollInterval, .worker, .worker, .worker]).map
      (fun sys => sys.runtime.published 2) =
        some [.pending firstOperation listedTask, .ready firstOperation listedTask] := by decide +kernel
  obtain ⟨sys, ran, published⟩ := Option.map_eq_some_iff.mp found
  have reach := Sys.scheduledIf_reach Sys.commitsOnce_of_alone ran
  exact ⟨sys, reach, published, Sys.published_lifecycles_distinct reach 2⟩

end Codebox.Session
