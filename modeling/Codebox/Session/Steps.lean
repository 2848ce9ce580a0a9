import Codebox.Session.Control

/-! # What one step does

The step function as a relation, with one rule for each section: who takes it, what the orchestrator
answered, and the state it leads to. Proofs about runs go by cases on the rules.
-/

namespace Codebox.Session

open Codebox.Support Codebox.Cloud

/-- A call of the orchestrator came back with a result and left the process in a state. -/
def Returned {α : Type} (ran : Outcome CloudLifecycleError α × Process)
    (result : Except CloudLifecycleError α) (process : Process) : Prop :=
  match result with
  | .ok value => ran = (.ok value, process)
  | .error error => ran = (.error error, process)

/-- The next section of the worker is a lower call. -/
def Worker.callsLower : Worker → Bool
  | .admitted _ _ | .submitting _ _ _ | .submitted _ _ _ | .monitoring _ _ | .canceling _ _ => true
  | .idle | .claimed _ _ | .started _ _ | .monitored _ _ _ | .canceled _ _ _ | .failing _ | .exited => false

/-- A caller that holds no answer of the orchestrator and is not about to resolve. -/
def Caller.Calm : Caller → Prop
  | .canceling _ _ _ stage => ∀ lifecycle, stage ≠ .answered lifecycle
  | .idle | .observing | .reconciling _ _ | .shuttingDown | .joining | .returned _ => True
  | .reconciled _ _ _ | .resolving _ _ _ | .resolved _ _ _ _ => False

namespace Sys

/-- Where a canceler stands after a pass of the lower cancellation. -/
def afterPass : Except CloudLifecycleError CancelPass → CancelStage
  | .ok (.waiting _) => .calling
  | .ok (.answered lifecycle) => .answered lifecycle
  | .error error => .failed error

/-- Where the worker stands after one. -/
def afterWorkerPass (turn : TurnId) (afterStart : Bool) : Except CloudLifecycleError CancelPass → Worker
  | .ok (.waiting _) => .canceling turn afterStart
  | .ok (.answered lifecycle) => .canceled turn afterStart (.ok lifecycle)
  | .error error => .canceled turn afterStart (.error error)

/-- Where the worker stands after the first and the second part of a lower start. -/
def afterBegin (turn : TurnId) (prompt : CloudPrompt) : Except CloudLifecycleError StartTicket → Worker
  | .ok ticket => .submitting turn ticket prompt
  | .error error => .started turn (.error error)

def afterSubmit (turn : TurnId) (ticket : StartTicket) :
    Except CloudLifecycleError (Except CloudRunnerError CloudSubmission) → Worker
  | .ok submitted => .submitted turn ticket submitted
  | .error error => .started turn (.error error)

/-- The operations created by lower starts, with the one that a first section just claimed. -/
def afterClaim (starts : List (TurnId × CloudSubmitOperationId)) (turn : TurnId) :
    Except CloudLifecycleError StartTicket → List (TurnId × CloudSubmitOperationId)
  | .ok ticket => starts ++ [(turn, ticket.operationId)]
  | .error _ => starts

/-- One step of the system. -/
inductive Moves (inner : Inner) (runner : CloudTaskRunner) (sys : Sys) : Label → Sys → Prop where
  | startTurn (prompt : CloudPrompt) : Moves inner runner sys (.startTurn prompt) { sys with
      runtime := (sys.runtime.startTurn inner (sys.turns + 1) prompt).2
      turns := sys.turns + 1 }
  | cancelTurn {i : Nat} (actor : P0Actor) (idle : sys.callers i = .idle) :
      Moves inner runner sys (.cancelTurn i actor) (sys.enterCancel inner i actor)
  | shutdown {i : Nat} (idle : sys.callers i = .idle) :
      Moves inner runner sys (.shutdown i)
        ({ sys with runtime := (sys.runtime.requestShutdown inner).2 }.setCaller i
          (afterRequest (sys.runtime.requestShutdown inner).1))
  | subscribe (session : SessionId) (afterSeq : Nat) :
      Moves inner runner sys (.subscribe session afterSeq)
        { sys with runtime := (sys.runtime.subscribe inner session afterSeq).2 }
  | receive (subscriber : Nat) :
      Moves inner runner sys (.receive subscriber) { sys with runtime := sys.runtime.receive subscriber }
  | dropReceiver (subscriber : Nat) :
      Moves inner runner sys (.dropReceiver subscriber) { sys with runtime := sys.runtime.dropReceiver subscriber }
  | elapse (duration : Nat) : Moves inner runner sys (.elapse duration) { sys with now := sys.now + duration }
  /-- A caller goes on without the runtime or the orchestrator. -/
  | advance {i : Nat} {label : Label} (handle : Bool) (next : Caller) (command : label ≠ .worker)
      (calm : next.Calm) (same : next.cancels = none ∨ next.cancels = (sys.callers i).cancels) :
      Moves inner runner sys label ({ sys with handle := handle }.setCaller i next)
  | enterResolve {i : Nat} {actor : P0Actor} {op : CloudSubmitOperationId} {decision : UnknownSubmitDecision}
      (idle : sys.callers i = .idle) (entered : sys.runtime.enterResolve op = .ok ()) :
      Moves inner runner sys (.resolveUnknown i actor op decision) (sys.setCaller i (.resolving actor op decision))
  | cancelPass {i : Nat} {turn : TurnId} {pending : Bool} {deadline : Nat}
      {result : Except CloudLifecycleError CancelPass} {process : Process}
      (caller : sys.callers i = .canceling turn pending deadline .calling)
      (ran : Returned (Cloud.cancel sys.process) result process) :
      Moves inner runner sys (.call i)
        ({ sys with process := process }.cancelNext i turn pending deadline (afterPass result))
  | commitCancel {i : Nat} {turn : TurnId} {pending : Bool} {deadline : Nat} {lifecycle : CloudLifecycle}
      (caller : sys.callers i = .canceling turn pending deadline (.answered lifecycle)) :
      Moves inner runner sys (.call i)
        ({ sys with runtime := (sys.runtime.commitCancelResult inner turn lifecycle).2 }.setCaller i
          (.returned ((sys.runtime.commitCancelResult inner turn lifecycle).1.map .snapshot)))
  | releaseCancel {i : Nat} {turn : TurnId} {pending : Bool} {deadline : Nat} {error : CloudLifecycleError}
      (caller : sys.callers i = .canceling turn pending deadline (.givingUp error))
      (reply : Except P0SessionError P0Reply) :
      Moves inner runner sys (.call i)
        ({ sys with runtime := sys.runtime.releaseCancel turn }.setCaller i (.returned reply))
  | reconcile {i : Nat} {actor : P0Actor} {expected : CloudSubmitOperationId}
      {result : Except CloudLifecycleError CloudReconciliation} {process : Process}
      (caller : sys.callers i = .reconciling actor expected)
      (ran : Returned (Cloud.reconcileUnknown runner sys.process) result process) :
      Moves inner runner sys (.call i)
        ({ sys with process := process }.setCaller i (.reconciled actor expected result))
  | commitReconcile {i : Nat} {actor : P0Actor} {expected : CloudSubmitOperationId} {found : CloudReconciliation}
      (caller : sys.callers i = .reconciled actor expected (.ok found)) (candidates : P0RecoveryCandidates) :
      Moves inner runner sys (.call i)
        ({ sys with runtime := (sys.runtime.commitReconcile inner actor expected candidates).2 }.setCaller i
          (.returned ((sys.runtime.commitReconcile inner actor expected candidates).1.map .candidates)))
  | resolve {i : Nat} {actor : P0Actor} {op : CloudSubmitOperationId} {decision : UnknownSubmitDecision}
      {result : Except CloudLifecycleError CloudLifecycle} {process : Process}
      (caller : sys.callers i = .resolving actor op decision)
      (ran : Returned (Cloud.resolveUnknown runner op decision sys.process) result process) :
      Moves inner runner sys (.call i)
        ({ sys with process := process }.setCaller i (.resolved actor op decision result))
  | commitResolve {i : Nat} {actor : P0Actor} {op : CloudSubmitOperationId} {decision : UnknownSubmitDecision}
      {projected : CloudLifecycle} (caller : sys.callers i = .resolved actor op decision (.ok projected))
      (own : projected.operationId = op) :
      Moves inner runner sys (.call i)
        ({ sys with
          runtime := (sys.runtime.commitResolve inner sys.now actor op decision projected).2 }.setCaller i
          (.returned ((sys.runtime.commitResolve inner sys.now actor op decision projected).1.map .snapshot)))
  | nextAction {action : RuntimeState.WorkerAction} {runtime : RuntimeState} (worker : sys.worker = .idle)
      (taken : sys.runtime.nextWorkerAction inner sys.now = some (action, runtime)) :
      Moves inner runner sys .worker { sys with runtime := runtime, worker := chosen action }
  | admitStart {turn : TurnId} {prompt : CloudPrompt} (worker : sys.worker = .claimed turn prompt) :
      Moves inner runner sys .worker { sys with
        runtime := (sys.runtime.admitStart inner turn).2
        worker := if (sys.runtime.admitStart inner turn).1 then .admitted turn prompt else .idle }
  | startBegin {turn : TurnId} {prompt : CloudPrompt} {result : Except CloudLifecycleError StartTicket}
      {process : Process} (worker : sys.worker = .admitted turn prompt)
      (ran : Returned (Cloud.startBegin runner sys.process) result process) :
      Moves inner runner sys .worker { sys with
        process := process
        worker := afterBegin turn prompt result
        starts := afterClaim sys.starts turn result }
  | startSubmit {turn : TurnId} {ticket : StartTicket} {prompt : CloudPrompt}
      {result : Except CloudLifecycleError (Except CloudRunnerError CloudSubmission)} {process : Process}
      (worker : sys.worker = .submitting turn ticket prompt)
      (ran : Returned (Cloud.startSubmit runner ticket prompt sys.process) result process) :
      Moves inner runner sys .worker { sys with process := process, worker := afterSubmit turn ticket result }
  | startCommit {turn : TurnId} {ticket : StartTicket} {submitted : Except CloudRunnerError CloudSubmission}
      {result : Except CloudLifecycleError CloudLifecycle} {process : Process}
      (worker : sys.worker = .submitted turn ticket submitted)
      (ran : Returned (Cloud.startCommit ticket submitted sys.process) result process) :
      Moves inner runner sys .worker { sys with process := process, worker := .started turn result }
  | startResult {turn : TurnId} {result : Except CloudLifecycleError CloudLifecycle}
      (worker : sys.worker = .started turn result) :
      Moves inner runner sys .worker { sys with
        runtime := (sys.runtime.handleStartResult inner sys.now turn result).2
        worker := if (sys.runtime.handleStartResult inner sys.now turn result).1 then .canceling turn true
          else .idle }
  | inspect {turn : TurnId} {failures : Nat} {result : Except CloudLifecycleError CloudLifecycle}
      {process : Process} (worker : sys.worker = .monitoring turn failures)
      (ran : Returned (Cloud.inspect sys.process) result process) :
      Moves inner runner sys .worker
        { sys with process := process, worker := .monitored turn failures result }
  | monitorResult {turn : TurnId} {failures : Nat} {result : Except CloudLifecycleError CloudLifecycle}
      (worker : sys.worker = .monitored turn failures result) :
      Moves inner runner sys .worker { sys with
        runtime := sys.runtime.handleMonitorResult inner sys.now turn failures result
        worker := .idle }
  | workerPass {turn : TurnId} {afterStart : Bool} {result : Except CloudLifecycleError CancelPass}
      {process : Process} (worker : sys.worker = .canceling turn afterStart)
      (ran : Returned (Cloud.cancel sys.process) result process) :
      Moves inner runner sys .worker
        { sys with process := process, worker := afterWorkerPass turn afterStart result }
  | workerCommit {turn : TurnId} {afterStart : Bool} {lifecycle : CloudLifecycle} {runtime : RuntimeState}
      (worker : sys.worker = .canceled turn afterStart (.ok lifecycle))
      (committed : sys.runtime.commitWorkerCancel inner turn lifecycle = .ok runtime) :
      Moves inner runner sys .worker { sys with runtime := runtime, worker := .idle }
  | workerDrop {turn : TurnId} {afterStart : Bool} {lifecycle : CloudLifecycle} {error : P0SessionError}
      (worker : sys.worker = .canceled turn afterStart (.ok lifecycle))
      (refused : sys.runtime.commitWorkerCancel inner turn lifecycle = .error error) :
      Moves inner runner sys .worker { sys with worker := if afterStart then .idle else .failing turn }
  | workerFail {turn : TurnId}
      (worker : sys.worker = .failing turn ∨ ∃ afterStart error, sys.worker = .canceled turn afterStart (.error error)) :
      Moves inner runner sys .worker
        { sys with runtime := sys.runtime.stopAfterLowerFailure inner turn, worker := .idle }

variable {inner : Inner} {runner : CloudTaskRunner} {sys sys' : Sys} {i : Nat}
  {result : Except CloudLifecycleError CloudLifecycle} {process : Process} {label : Label}

theorem role_afterBegin (turn : TurnId) (prompt : CloudPrompt) (result : Except CloudLifecycleError StartTicket) :
    (afterBegin turn prompt result).role = some ⟨.launching, turn⟩ := by
  cases result <;> rfl

theorem role_afterSubmit (turn : TurnId) (ticket : StartTicket)
    (result : Except CloudLifecycleError (Except CloudRunnerError CloudSubmission)) :
    (afterSubmit turn ticket result).role = some ⟨.launching, turn⟩ := by
  cases result <;> rfl

theorem role_afterWorkerPass (turn : TurnId) (afterStart : Bool) (result : Except CloudLifecycleError CancelPass) :
    (afterWorkerPass turn afterStart result).role = some ⟨.canceling, turn⟩ := by
  rcases result with error | lifecycle | op <;> rfl

theorem enter_eq_some {next : Sys} (entered : sys.enter i next = some sys') :
    sys.callers i = .idle ∧ sys' = next := by
  unfold enter at entered
  split at entered
  · rename_i idle
    exact ⟨idle, (Option.some.inj entered).symm⟩
  · cases entered

theorem stepWorker_claimed (turn : TurnId) (prompt : CloudPrompt) :
    sys.stepWorker inner runner (.claimed turn prompt) = some { sys with
      runtime := (sys.runtime.admitStart inner turn).2
      worker := if (sys.runtime.admitStart inner turn).1 then .admitted turn prompt else .idle } := rfl

theorem stepWorker_started (turn : TurnId) (result : Except CloudLifecycleError CloudLifecycle) :
    sys.stepWorker inner runner (.started turn result) = some { sys with
      runtime := (sys.runtime.handleStartResult inner sys.now turn result).2
      worker := if (sys.runtime.handleStartResult inner sys.now turn result).1 then .canceling turn true
        else .idle } := rfl

theorem resume_returned {α : Type} {ran : Outcome CloudLifecycleError α × Process}
    {next : Except CloudLifecycleError α → Process → Sys} (back : resume ran next = some sys') :
    ∃ result process, Returned ran result process ∧ sys' = next result process := by
  obtain ⟨outcome, process⟩ := ran
  cases outcome with
  | ok value =>
      cases back
      exact ⟨.ok value, process, rfl, rfl⟩
  | error error =>
      cases back
      exact ⟨.error error, process, rfl, rfl⟩
  | crashed => cases back

theorem setCaller_advance (next : Caller) (command : label ≠ .worker) (calm : next.Calm)
    (same : next.cancels = none ∨ next.cancels = (sys.callers i).cancels) :
    Moves inner runner sys label (sys.setCaller i next) :=
  .advance sys.handle next command calm same

theorem stepCancel_moves {turn : TurnId} {pending : Bool} {deadline : Nat} {stage : CancelStage}
    (caller : sys.callers i = .canceling turn pending deadline stage)
    (stepped : sys.stepCancel inner i turn pending deadline stage = some sys') :
    Moves inner runner sys (.call i) sys' := by
  have cancels : (sys.callers i).cancels = some turn := by rw [caller, Caller.cancels]
  cases stage with
  | calling =>
      rw [stepCancel] at stepped
      obtain ⟨result, process, ran, rfl⟩ := resume_returned stepped
      rcases result with error | lifecycle | op
      · exact .cancelPass caller ran
      · exact .cancelPass caller ran
      · exact .cancelPass caller ran
  | answered lifecycle =>
      cases Option.some.inj stepped
      exact .commitCancel caller
  | failed error =>
      cases Option.some.inj stepped
      apply setCaller_advance
      · simp
      · simp only [Caller.Calm]
        split <;> simp
      · exact .inr cancels.symm
  | polling =>
      cases Option.some.inj stepped
      split
      · exact setCaller_advance _ (by simp) trivial (.inl rfl)
      · exact setCaller_advance _ (by simp) (by simp [Caller.Calm]) (.inr cancels.symm)
  | givingUp error =>
      cases Option.some.inj stepped
      exact .releaseCancel caller _

theorem stepCaller_moves (stepped : sys.stepCaller inner runner i (sys.callers i) = some sys') :
    Moves inner runner sys (.call i) sys' := by
  cases caller : sys.callers i with
  | idle => simp [caller, stepCaller] at stepped
  | returned result => simp [caller, stepCaller] at stepped
  | observing =>
      rw [caller] at stepped
      cases Option.some.inj stepped
      exact setCaller_advance _ (by simp) trivial (.inl rfl)
  | canceling turn pending deadline stage =>
      rw [caller] at stepped
      exact stepCancel_moves caller stepped
  | reconciling actor expected =>
      rw [caller, stepCaller] at stepped
      obtain ⟨result, process, ran, rfl⟩ := resume_returned stepped
      exact .reconcile caller ran
  | reconciled actor expected result =>
      rw [caller] at stepped
      cases Option.some.inj stepped
      cases result with
      | error error => exact setCaller_advance _ (by simp) trivial (.inl rfl)
      | ok found =>
          simp only [finishReconcile]
          split
          · exact setCaller_advance _ (by simp) trivial (.inl rfl)
          · exact .commitReconcile caller _
  | resolving actor op decision =>
      rw [caller, stepCaller] at stepped
      obtain ⟨result, process, ran, rfl⟩ := resume_returned stepped
      exact .resolve caller ran
  | resolved actor op decision result =>
      rw [caller] at stepped
      cases Option.some.inj stepped
      cases result with
      | error error => exact setCaller_advance _ (by simp) trivial (.inl rfl)
      | ok projected =>
          simp only [finishResolve]
          split
          · exact setCaller_advance _ (by simp) trivial (.inl rfl)
          · rename_i own
            exact .commitResolve caller (not_not.mp own)
  | shuttingDown =>
      simp only [caller, stepCaller] at stepped
      split at stepped
      · cases stepped
        exact .advance false _ (by simp) trivial (.inl rfl)
      · cases stepped
        exact setCaller_advance _ (by simp) trivial (.inl rfl)
  | joining =>
      simp only [caller, stepCaller] at stepped
      split at stepped
      · cases stepped
        exact setCaller_advance _ (by simp) trivial (.inl rfl)
      · cases stepped

theorem stepWorker_moves (stepped : sys.stepWorker inner runner sys.worker = some sys') :
    Moves inner runner sys .worker sys' := by
  cases worker : sys.worker with
  | exited => simp [worker, stepWorker] at stepped
  | idle =>
      rw [worker] at stepped
      obtain ⟨⟨action, runtime⟩, taken, rfl⟩ := Option.map_eq_some_iff.mp stepped
      exact .nextAction worker taken
  | claimed turn prompt =>
      rw [worker, stepWorker_claimed] at stepped
      cases Option.some.inj stepped
      exact .admitStart worker
  | admitted turn prompt =>
      rw [worker, stepWorker] at stepped
      obtain ⟨result, process, ran, rfl⟩ := resume_returned stepped
      cases result with
      | ok ticket => exact .startBegin worker ran
      | error error => exact .startBegin worker ran
  | submitting turn ticket prompt =>
      rw [worker, stepWorker] at stepped
      obtain ⟨result, process, ran, rfl⟩ := resume_returned stepped
      cases result with
      | ok submitted => exact .startSubmit worker ran
      | error error => exact .startSubmit worker ran
  | submitted turn ticket submitted =>
      rw [worker, stepWorker] at stepped
      obtain ⟨result, process, ran, rfl⟩ := resume_returned stepped
      exact .startCommit worker ran
  | started turn result =>
      rw [worker, stepWorker_started] at stepped
      cases Option.some.inj stepped
      exact .startResult worker
  | monitoring turn failures =>
      rw [worker, stepWorker] at stepped
      obtain ⟨result, process, ran, rfl⟩ := resume_returned stepped
      exact .inspect worker ran
  | monitored turn failures result =>
      rw [worker] at stepped
      cases Option.some.inj stepped
      exact .monitorResult worker
  | canceling turn afterStart =>
      rw [worker, stepWorker] at stepped
      obtain ⟨result, process, ran, rfl⟩ := resume_returned stepped
      cases result with
      | ok pass => cases pass <;> exact .workerPass worker ran
      | error error => exact .workerPass worker ran
  | canceled turn afterStart result =>
      rw [worker] at stepped
      cases result with
      | error error =>
          cases Option.some.inj stepped
          exact .workerFail (.inr ⟨_, _, worker⟩)
      | ok lifecycle =>
          rw [stepWorker] at stepped
          split at stepped
          · rename_i runtime committed
            cases stepped
            exact .workerCommit worker committed
          · rename_i error refused
            cases stepped
            exact .workerDrop worker refused
  | failing turn =>
      rw [worker] at stepped
      cases Option.some.inj stepped
      exact .workerFail (.inl worker)

/-- Every step follows one of the rules. -/
theorem step_moves (stepped : sys.step inner runner label = some sys') : Moves inner runner sys label sys' := by
  cases label with
  | startTurn prompt =>
      cases Option.some.inj stepped
      exact .startTurn prompt
  | cancelTurn caller actor =>
      obtain ⟨idle, rfl⟩ := enter_eq_some stepped
      exact .cancelTurn actor idle
  | reconcileUnknown caller actor =>
      obtain ⟨idle, rfl⟩ := enter_eq_some stepped
      apply setCaller_advance
      · simp
      · split <;> trivial
      · split <;> exact .inl rfl
  | resolveUnknown caller actor op decision =>
      obtain ⟨idle, rfl⟩ := enter_eq_some stepped
      split
      · exact setCaller_advance _ (by simp) trivial (.inl rfl)
      · rename_i entered
        exact .enterResolve idle entered
  | shutdown caller =>
      obtain ⟨idle, rfl⟩ := enter_eq_some stepped
      exact .shutdown idle
  | subscribe session afterSeq =>
      cases Option.some.inj stepped
      exact .subscribe session afterSeq
  | receive subscriber =>
      cases Option.some.inj stepped
      exact .receive subscriber
  | dropReceiver subscriber =>
      cases Option.some.inj stepped
      exact .dropReceiver subscriber
  | call caller => exact stepCaller_moves stepped
  | worker => exact stepWorker_moves stepped
  | elapse duration =>
      cases Option.some.inj stepped
      exact .elapse duration

/-! ## Construction -/

/-- What the first inspection said about the current operation. -/
def Told (result : Except CloudLifecycleError CloudLifecycle) (lifecycle : CloudLifecycle) : Prop :=
  result = .ok lifecycle ∨ ∃ op error, lifecycle = .outcomeUnknown op ∧ result = .error error ∧
    error.category = .outcomeUnknown ∧ error.operationId = some op

/-- The state of a new runtime that shows the operation it found. -/
def showingFirst (lifecycle : CloudLifecycle) (work : Option WorkerWork) : RuntimeState :=
  { sessionState := stateForLifecycle lifecycle, currentTurn := some (initialTurn 1 lifecycle), work := work }

/-- A new runtime is ready for its first turn, or shows the operation it found. -/
theorem initialState_cases {rt : RuntimeState} (begun : initialState inner 0 1 result = .ok rt) :
    rt = { sessionState := .ready, currentTurn := none, work := none } ∨
      ∃ lifecycle work, Told result lifecycle ∧ lifecycle.phase ≠ .submitting ∧
        (work = none ∨ ∃ due, work = some (.monitor 1 due 0)) ∧ rt = showingFirst lifecycle work := by
  unfold initialState at begun
  split at begun
  · cases begun
  · rename_i lifecycle other
    cases begun
    refine .inr ⟨lifecycle, _, .inl rfl, ?_, ?_, rfl⟩
    · intro submitting
      cases lifecycle <;> cases submitting
      exact other _ rfl
    · cases lifecycle.isPending
      · exact .inl rfl
      · exact .inr ⟨_, rfl⟩
  · rename_i error
    split at begun
    · cases begun
      exact .inl rfl
    · rename_i op unknown named
      cases begun
      exact .inr ⟨.outcomeUnknown op, none, .inr ⟨op, error, rfl, rfl, unknown, named⟩, by simp, .inl rfl, rfl⟩
    · cases begun

theorem build_cases (built : build inner process result = some sys) :
    ∃ rt starts, initialState inner 0 1 result = .ok rt ∧ sys = {
      process := process
      runtime := rt
      worker := .idle
      callers := fun _ => .idle
      now := 0
      turns := 1
      handle := true
      starts := starts } := by
  unfold build at built
  dsimp only at built
  split at built
  · cases built
  · rename_i rt begun
    cases built
    exact ⟨rt, _, begun, rfl⟩

theorem build_of_new (built : new inner process = some sys) :
    ∃ process' result, build inner process' result = some sys ∧ Returned (Cloud.inspect process) result process' := by
  unfold new at built
  split at built
  · rename_i inspected
    exact ⟨_, .ok _, built, inspected⟩
  · rename_i inspected
    exact ⟨_, .error _, built, inspected⟩
  · cases built

end Sys

end Codebox.Session
