import Mathlib.Data.List.Chain
import Codebox.Session.Open
import Codebox.Session.StaleResults

/-! # Published lifecycles only go forward

The lifecycles published for a turn form a chain of the transition table: whoever publishes one
compares it with the one on show, and the one on show is the last one published. There is one way
around the comparison. A canceled turn that was claimed but not yet admitted loses what it shows, so
a cancellation that is answered in between may publish a lifecycle that later ones are not compared with.
-/

namespace Codebox.Session

open Codebox.Support Codebox.Cloud

/-- One published lifecycle may come right after another. -/
def Follows (earlier later : P0CloudLifecycle) : Prop :=
  earlier.operationId = later.operationId ∧ lifecycleTransitionAllowed earlier later = true

/-- What an earlier published lifecycle says about all later ones of the turn. -/
structure Binds (earlier later : P0CloudLifecycle) : Prop where
  operation : later.operationId = earlier.operationId
  task : earlier.isPending = true → later.taskId = earlier.taskId ∧ (later.isPending = true ∨ later.isTerminal = true)
  final : earlier.isTerminal = true → later = earlier

theorem Follows.binds {earlier later : P0CloudLifecycle} (follows : Follows earlier later) : Binds earlier later := by
  obtain ⟨operation, allowed⟩ := follows
  refine ⟨operation.symm, ?_, ?_⟩
  · intro pending
    cases earlier <;> simp at pending
    cases later <;> simp_all [lifecycleTransitionAllowed]
  · intro terminal
    cases earlier <;> simp at terminal <;> simp_all [lifecycleTransitionAllowed]

theorem Binds.trans {first second third : P0CloudLifecycle} (before : Binds first second) (after : Binds second third) :
    Binds first third := by
  refine ⟨after.operation.trans before.operation, ?_, ?_⟩
  · intro pending
    obtain ⟨task, still | terminal⟩ := before.task pending
    · obtain ⟨task', goes⟩ := after.task still
      exact ⟨task'.trans task, goes⟩
    · rw [after.final terminal]
      exact ⟨task, .inr terminal⟩
  · intro terminal
    rw [before.final terminal] at after
    exact after.final terminal

instance : Trans Binds Binds Binds := ⟨Binds.trans⟩

namespace RuntimeState

/-- The published lifecycles of every turn, and what the current one shows. -/
structure Chained (turns : Nat) (rt : RuntimeState) : Prop where
  chain : ∀ turn, (rt.published turn).IsChain Follows
  last : ∀ shown lifecycle, rt.shown = some shown → shown.lifecycle = some lifecycle →
    ∀ published ∈ (rt.published shown.turnId).getLast?, published = lifecycle
  silent : ∀ shown, rt.shown = some shown → shown.lifecycle = none → shown.failed = false →
    rt.published shown.turnId = []
  known : ∀ turn, turns < turn → rt.published turn = []

/-- A turn shows no lifecycle. -/
def Bare (rt : RuntimeState) (turn : TurnId) : Prop :=
  ∀ record, rt.currentTurn = some record → record.turnId = turn → record.projection.lifecycle = none

variable {rt rt' : RuntimeState} {turns turns' : Nat} {cause : TurnRecord → P0CloudLifecycle → Bool → Prop}
  {record : TurnRecord}

theorem shown_eq_some (current : rt.currentTurn = some record) : rt.shown = some record.shown := by
  unfold RuntimeState.shown
  rw [current]
  rfl

/-- A current turn that is still there shows the same. -/
theorem Still.current {record' : TurnRecord} (same : Still rt rt') (current' : rt'.currentTurn = some record') :
    ∃ record, rt.currentTurn = some record ∧ record.shown = record'.shown := by
  have shown' := same.shown.symm.trans (shown_eq_some current')
  exact Option.map_eq_some_iff.mp shown'

/-- The last lifecycle published is the one on show. -/
theorem Chained.displayed {published : P0CloudLifecycle} (chained : rt.Chained turns)
    (current : rt.currentTurn = some record) (fine : record.projection ≠ .stoppedAfterLowerFailure)
    (isLast : published ∈ (rt.published record.turnId).getLast?) : record.projection.lifecycle = some published := by
  cases shows : record.projection.lifecycle with
  | some lifecycle => rw [chained.last record.shown lifecycle (shown_eq_some current) shows published isLast]
  | none =>
      have empty := chained.silent record.shown (shown_eq_some current) shows (by simpa [TurnRecord.shown] using fine)
      have nothing : rt.published record.turnId = [] := empty
      rw [nothing] at isLast
      cases isLast

/-- Whoever shows a lifecycle shows one that may follow the last one published. -/
theorem Chained.extend {projected : P0CloudLifecycle} (chained : rt.Chained turns)
    (current : rt.currentTurn = some record) (valid : Replaceable record projected)
    (fine : record.projection ≠ .stoppedAfterLowerFailure) :
    ∀ published ∈ (rt.published record.turnId).getLast?, Follows published projected :=
  fun published isLast => valid published (chained.displayed current fine isLast)

/-- One more lifecycle on show, after which the chain is one longer or as it was. -/
theorem Chained.turned (chained : rt.Chained turns) (later : turns ≤ turns')
    (turned : Turned (turns + 1) cause rt rt')
    (named : ∀ record, rt.currentTurn = some record → record.turnId ≤ turns)
    (stopped : ∀ record, rt.currentTurn = some record → record.projection = .stoppedAfterLowerFailure →
      rt.workerStopped = true) : rt'.Chained turns' := by
  cases turned with
  | still same =>
      refine ⟨?_, ?_, ?_, ?_⟩
      · rw [same.published]
        exact chained.chain
      · rw [same.published, same.shown]
        exact chained.last
      · rw [same.published, same.shown]
        exact chained.silent
      · rw [same.published]
        exact fun turn above => chained.known turn (Nat.lt_of_le_of_lt later above)
  | accepted up ready shown published =>
      refine ⟨?_, ?_, ?_, ?_⟩
      · rw [published]
        exact chained.chain
      · intro now lifecycle isShown shows
        cases shown.symm.trans isShown
        cases shows
      · intro now isShown _ _
        cases shown.symm.trans isShown
        rw [published]
        exact chained.known _ (Nat.lt_succ_self turns)
      · rw [published]
        exact fun turn above => chained.known turn (Nat.lt_of_le_of_lt later above)
  | failed record current shown published =>
      refine ⟨?_, ?_, ?_, ?_⟩
      · rw [published]
        exact chained.chain
      · intro now lifecycle isShown shows
        cases shown.symm.trans isShown
        cases shows
      · intro now isShown _ fine
        cases shown.symm.trans isShown
        cases fine
      · rw [published]
        exact fun turn above => chained.known turn (Nat.lt_of_le_of_lt later above)
  | shows record projected reported current up valid why silent shown published =>
      have fine : record.projection ≠ .stoppedAfterLowerFailure := by
        intro failed
        cases up.symm.trans (stopped record current failed)
      refine ⟨?_, ?_, ?_, ?_⟩
      · intro turn
        rw [published]
        split
        · rename_i own
          obtain ⟨rfl, -⟩ := own
          refine List.isChain_append.mpr ⟨chained.chain _, List.isChain_singleton _, ?_⟩
          intro earlier isLast later isFirst
          cases isFirst
          exact chained.extend current valid fine earlier isLast
        · rw [List.append_nil]
          exact chained.chain turn
      · intro now lifecycle isShown shows event isLast
        cases shown.symm.trans isShown
        cases shows
        rw [published] at isLast
        cases reported with
        | true =>
            rw [if_pos ⟨rfl, rfl⟩, List.getLast?_concat] at isLast
            cases isLast
            rfl
        | false =>
            rw [if_neg (by simp), List.append_nil] at isLast
            exact chained.last record.shown projected (shown_eq_some current) (silent rfl) event isLast
      · intro now isShown bare _
        cases shown.symm.trans isShown
        cases bare
      · intro turn above
        have other : ¬ (record.turnId = turn ∧ reported = true) := by
          rintro ⟨same, -⟩
          rw [← same] at above
          exact Nat.not_lt.mpr (Nat.le_trans (named record current) later) above
        rw [published, if_neg other, List.append_nil]
        exact chained.known turn (Nat.lt_of_le_of_lt later above)

end RuntimeState

namespace Sys

open RuntimeState

variable {inner : Inner} {runner : CloudTaskRunner} {sys sys' : Sys} {label : Label}
  {result : Except CloudLifecycleError CloudLifecycle} {process : Process}

theorem worker_of_command (command : label ≠ .worker) (stepped : sys.step inner runner label = some sys') :
    sys'.worker = sys.worker := by
  cases step_moves stepped <;> first | rfl | exact absurd rfl command

/-- No cancellation is committed for a turn that the worker has claimed and not yet admitted. -/
def AdmitsFirst (sys : Sys) (label : Label) : Prop :=
  ∀ i turn pending deadline lifecycle prompt, label = .call i →
    sys.callers i = .canceling turn pending deadline (.answered lifecycle) → sys.worker ≠ .claimed turn prompt

/-- A command leaves a turn bare unless it commits a cancellation of it. -/
theorem bare_of_command {turn : TurnId} (control : sys.Controlled) (plain : sys.Plain) (command : label ≠ .worker)
    (stepped : sys.step inner runner label = some sys') (unsent : ∀ i pending deadline lifecycle, label = .call i →
      sys.callers i ≠ .canceling turn pending deadline (.answered lifecycle)) (bare : sys.runtime.Bare turn) :
    sys'.runtime.Bare turn := by
  intro record' current' same'
  have shown' := shown_eq_some current'
  cases step_turned control plain stepped with
  | still same =>
      obtain ⟨record, current, equal⟩ := same.current current'
      have before := bare record current ((congrArg Shown.turnId equal).trans same')
      exact (congrArg Shown.lifecycle equal).symm.trans before
  | accepted up ready shown published | failed record current shown published =>
      exact (congrArg Shown.lifecycle (Option.some.inj (shown.symm.trans shown'))).symm
  | shows record projected reported current up valid why silent shown published =>
      have equal : Shown.mk record.turnId (some projected) false = record'.shown :=
        Option.some.inj (shown.symm.trans shown')
      have own : record.turnId = turn := (congrArg Shown.turnId equal).trans same'
      cases why with
      | operatorCancel caller =>
          rw [own] at caller
          exact absurd caller (unsent _ _ _ _ rfl)
      | resolution caller owns has =>
          have nothing := bare record current own
          cases projection : record.projection <;> simp_all
      | _ => exact absurd rfl command

/-- A newly claimed turn shows nothing, and stays so until it is admitted. -/
theorem Plain.step (plain : sys.Plain) (control : sys.Controlled) (orderly : sys.AdmitsFirst label)
    (stepped : sys.step inner runner label = some sys') : sys'.Plain := by
  intro turn prompt record' worker' current' same'
  by_cases command : label = .worker
  · subst command
    cases step_moves stepped with
    | @nextAction action runtime worker taken =>
        obtain ⟨-, chosen, -⟩ | ⟨_, -, -, -, chosen, -⟩ | ⟨record, _, -, -, -, -, claims⟩ | ⟨named, asked, work, missing, -⟩ |
          ⟨_, _, _, -, -, chosen, -⟩ := nextWorkerAction_cases taken
        · rw [chosen] at worker'
          cases worker'
        · rw [chosen] at worker'
          cases worker'
        · rw [claims] at current'
          cases current'
          rfl
        · exact (control.start_named work missing).elim
        · rw [chosen] at worker'
          cases worker'
    | advance handle next command => exact absurd rfl command
    | admitStart worker | startResult worker =>
        dsimp only at worker'
        split at worker' <;> cases worker'
    | @startBegin _ _ result _ _ _ => cases result <;> cases worker'
    | @startSubmit _ _ _ result _ _ _ => cases result <;> cases worker'
    | @workerPass _ _ result _ _ _ => rcases result with error | lifecycle | op <;> cases worker'
    | @workerDrop _ afterStart _ _ _ _ => cases afterStart <;> cases worker'
    | _ => cases worker'
  · rw [worker_of_command command stepped] at worker'
    apply bare_of_command control plain command stepped _ _ record' current' same'
    · intro i pending deadline lifecycle own caller
      exact orderly i turn pending deadline lifecycle prompt own caller worker'
    · exact fun record => plain turn prompt record worker'

/-- What a run keeps: a newly claimed turn is plain, and the published lifecycles are chains. -/
structure Monotone (sys : Sys) : Prop where
  plain : sys.Plain
  chained : sys.runtime.Chained sys.turns

theorem turns_le (stepped : sys.step inner runner label = some sys') : sys.turns ≤ sys'.turns := by
  cases step_moves stepped with
  | startTurn prompt => exact Nat.le_succ _
  | _ => exact Nat.le_refl _

theorem worker_build (built : Sys.build inner process result = some sys) : sys.worker = .idle := by
  obtain ⟨rt, starts, -, rfl⟩ := build_cases built
  rfl

theorem Monotone.build (built : Sys.build inner process result = some sys) : sys.Monotone := by
  have empty : sys.runtime.log = [] := congrArg Feed.log (build_feed built)
  have silent : ∀ turn, sys.runtime.published turn = [] := by
    intro turn
    unfold RuntimeState.published
    rw [empty, List.filterMap_nil]
  constructor
  · intro turn prompt record worker
    rw [worker_build built] at worker
    cases worker
  · constructor <;> simp [silent]

theorem Monotone.step (monotone : sys.Monotone) (control : sys.Controlled) (orderly : sys.AdmitsFirst label)
    (stepped : sys.step inner runner label = some sys') : sys'.Monotone := by
  refine ⟨monotone.plain.step control orderly stepped, ?_⟩
  apply monotone.chained.turned (turns_le stepped) (step_turned control monotone.plain stepped)
  · intro record current
    exact (Control.known control).current record current
  · intro record current failed
    by_contra up
    have shown := (Control.runtime control).shown record current (Bool.eq_false_iff.mpr up)
    rw [failed] at shown
    cases shown

theorem Monotone.lowerCall (monotone : sys.Monotone) (called : LowerCall sys sys') : sys'.Monotone := by
  constructor
  · intro turn prompt record worker current same
    rw [called.runtime] at current
    exact monotone.plain turn prompt record (called.claimed turn prompt worker) current same
  · rw [called.runtime, called.turns]
    exact monotone.chained

theorem monotone_open (reach : (openSystem inner runner).Reach (OnOwn AdmitsFirst) sys) : sys.Monotone := by
  apply reach.invariant
  · rintro sys ⟨process, result, built⟩
    exact .build built
  · intro sys label sys' before monotone orderly stepped
    obtain ⟨own, same, -, step⟩ | calls := openStep_calls stepped
    · exact monotone.step (controlled_open before) (orderly own same) step
    · exact monotone.lowerCall calls.lowerCall

/-- Whatever the lower control answers, if no cancellation is committed between the claim and the
admission of its turn, the lifecycles published for a turn follow the transition table, keep one
operation, keep the task of the first pending one, and end with the first terminal one. -/
theorem published_lifecycles_monotone (reach : (openSystem inner runner).Reach (OnOwn AdmitsFirst) sys)
    (turn : TurnId) :
    Numbered P0SessionEventEnvelope.seq 1 sys.runtime.log ∧
      (sys.runtime.published turn).IsChain Follows ∧ (sys.runtime.published turn).Pairwise Binds := by
  have chain := (monotone_open reach).chained.chain turn
  refine ⟨(ordered_open reach).numbered, chain, ?_⟩
  exact (chain.imp fun _ _ => Follows.binds).pairwise

end Sys

/-! ## A cancellation before the admission

An operator cancels a turn that is claimed, and the lower control answers with an unknown submit of
which it then says that its task is pending. The worker meets the canceled turn at the admission and
takes its lifecycle off, while the monitor stays queued and shows whatever comes next.
-/

/-- The first process on an empty state directory, with nothing in its store yet. -/
def plainProcess : Process := ⟨Host.fresh fun _ => plainAnswers, ⟨none, none, 0⟩⟩

def firstOperation : CloudSubmitOperationId := ⟨1, Nat.one_ne_zero⟩

def secondOperation : CloudSubmitOperationId := ⟨2, Nat.succ_ne_zero 1⟩

def listedTask : CloudTaskId := ⟨"task_1".toList, rfl⟩

def canceledWhileClaimed : List OpenLabel :=
  [.own (.startTurn ⟨['p']⟩), .own .worker, .own (.cancelTurn 0 .operator),
    .cancel 0 (.ok (.answered (.outcomeUnknown firstOperation))) plainProcess, .own (.call 0),
    .own (.resolveUnknown 1 .operator firstOperation (.adoptListedTask listedTask)),
    .resolve 1 (.ok (.pending firstOperation listedTask)) plainProcess, .own (.call 1), .own .worker,
    .own (.elapse plainInner.config.pollInterval), .own .worker,
    .inspect (.ok (.pending secondOperation listedTask)) plainProcess, .own .worker]

theorem published_operation_changes :
    ∃ sys : Sys, (Sys.openSystem plainInner plainRunner).Reachable sys ∧
      sys.runtime.published 2 = [.outcomeUnknown firstOperation, .pending firstOperation listedTask,
        .pending secondOperation listedTask] ∧
      ¬ (sys.runtime.published 2).IsChain Follows := by
  have found : (Sys.opened plainInner plainRunner (fun _ => plainAnswers) canceledWhileClaimed).map
      (fun sys => sys.runtime.published 2) = some [.outcomeUnknown firstOperation, .pending firstOperation listedTask,
        .pending secondOperation listedTask] := by decide +kernel
  obtain ⟨sys, ran, published⟩ := Option.map_eq_some_iff.mp found
  refine ⟨sys, Sys.opened_reach (fun _ _ _ => trivial) ran, published, ?_⟩
  rw [published]
  intro chain
  exact absurd chain.of_cons.rel.1 (by decide)

/-- A turn that is submitted, monitored and ready. -/
def monitoredTurn : List OpenLabel :=
  [.own (.startTurn ⟨['p']⟩), .own .worker, .own .worker, .startBegin (.ok ⟨firstOperation, none⟩) plainProcess,
    .startSubmit (.ok (.ok ⟨firstOperation, listedTask⟩)) plainProcess,
    .startCommit (.ok (.pending firstOperation listedTask)) plainProcess, .own .worker,
    .own (.elapse plainInner.config.pollInterval), .own .worker,
    .inspect (.ok (.ready firstOperation listedTask)) plainProcess, .own .worker]

theorem monitored_turn_monotone :
    ∃ sys : Sys, (Sys.openSystem plainInner plainRunner).Reach (Sys.OnOwn Sys.AdmitsFirst) sys ∧
      sys.runtime.published 2 = [.pending firstOperation listedTask, .ready firstOperation listedTask] ∧
      (sys.runtime.published 2).Pairwise Binds := by
  have found : (Sys.opened plainInner plainRunner (fun _ => plainAnswers) monitoredTurn).map
      (fun sys => sys.runtime.published 2) =
        some [.pending firstOperation listedTask, .ready firstOperation listedTask] := by decide +kernel
  obtain ⟨sys, ran, published⟩ := Option.map_eq_some_iff.mp found
  have noCall : ∀ label ∈ monitoredTurn, ∀ i, label ≠ .own (.call i) := by
    simp [monitoredTurn]
  have reach : (Sys.openSystem plainInner plainRunner).Reach (Sys.OnOwn Sys.AdmitsFirst) sys := by
    apply Sys.opened_reach _ ran
    rintro label inside before own rfl i turn pending deadline lifecycle prompt rfl
    exact absurd rfl (noCall _ inside i)
  exact ⟨sys, reach, published, (Sys.published_lifecycles_monotone reach 2).2.2⟩

end Codebox.Session
