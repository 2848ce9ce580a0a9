import Codebox.Session.Delivery
import Codebox.Session.Published

/-! # The session over any lower control

The runtime talks to an interface, and the orchestrator is one implementation of it. Here a lower
call may come back with any result, and leave anything behind; everything else is as before.
-/

namespace Codebox.Session

open Codebox.Support Codebox.Cloud

/-- The next section of the caller is a lower call. -/
def Caller.callsLower : Caller → Bool
  | .canceling _ _ _ .calling | .reconciling _ _ | .resolving _ _ _ => true
  | .canceling _ _ _ (.answered _) | .canceling _ _ _ (.failed _) | .canceling _ _ _ .polling
  | .canceling _ _ _ (.givingUp _) | .idle | .observing | .reconciled _ _ _ | .resolved _ _ _ _ | .shuttingDown
  | .joining | .returned _ => false

/-- A step of the runtime itself, or a lower call with what it comes back with. -/
inductive OpenLabel where
  | own (label : Label)
  | cancel (caller : Nat) (result : Except CloudLifecycleError CancelPass) (process : Process)
  | reconcile (caller : Nat) (result : Except CloudLifecycleError CloudReconciliation) (process : Process)
  | resolve (caller : Nat) (result : Except CloudLifecycleError CloudLifecycle) (process : Process)
  /-- The three parts of a lower start. -/
  | startBegin (result : Except CloudLifecycleError StartTicket) (process : Process)
  | startSubmit (result : Except CloudLifecycleError (Except CloudRunnerError CloudSubmission)) (process : Process)
  | startCommit (result : Except CloudLifecycleError CloudLifecycle) (process : Process)
  | inspect (result : Except CloudLifecycleError CloudLifecycle) (process : Process)
  | workerCancel (result : Except CloudLifecycleError CancelPass) (process : Process)

namespace Sys

def callsLower (sys : Sys) : Label → Bool
  | .call i => (sys.callers i).callsLower
  | .worker => sys.worker.callsLower
  | .startTurn _ | .cancelTurn _ _ | .reconcileUnknown _ _ | .resolveUnknown _ _ _ _ | .shutdown _ | .subscribe _ _
  | .receive _ | .dropReceiver _ | .elapse _ => false

def openStep (inner : Inner) (runner : CloudTaskRunner) (sys : Sys) : OpenLabel → Option Sys
  | .own label => if sys.callsLower label then none else sys.step inner runner label
  | .cancel i result process => match sys.callers i with
      | .canceling turn pending deadline .calling =>
          some ({ sys with process := process }.cancelNext i turn pending deadline (afterPass result))
      | _ => none
  | .reconcile i result process => match sys.callers i with
      | .reconciling actor expected =>
          some ({ sys with process := process }.setCaller i (.reconciled actor expected result))
      | _ => none
  | .resolve i result process => match sys.callers i with
      | .resolving actor op decision =>
          some ({ sys with process := process }.setCaller i (.resolved actor op decision result))
      | _ => none
  | .startBegin result process => match sys.worker with
      | .admitted turn prompt => some { sys with
          process := process
          worker := afterBegin turn prompt result
          starts := afterClaim sys.starts turn result }
      | _ => none
  | .startSubmit result process => match sys.worker with
      | .submitting turn ticket _ => some { sys with process := process, worker := afterSubmit turn ticket result }
      | _ => none
  | .startCommit result process => match sys.worker with
      | .submitted turn _ _ => some { sys with process := process, worker := .started turn result }
      | _ => none
  | .inspect result process => match sys.worker with
      | .monitoring turn failures => some { sys with process := process, worker := .monitored turn failures result }
      | _ => none
  | .workerCancel result process => match sys.worker with
      | .canceling turn afterStart => some { sys with
          process := process
          worker := afterWorkerPass turn afterStart result }
      | _ => none

/-- A runtime over a lower control whose first inspection may say anything too. -/
def openSystem (inner : Inner) (runner : CloudTaskRunner) : System Sys OpenLabel where
  initial sys := ∃ process result, build inner process result = some sys
  step := openStep inner runner

variable {inner : Inner} {runner : CloudTaskRunner} {env : Nat → Answers} {sys sys' : Sys}
  {guard : Sys → OpenLabel → Prop} {label : OpenLabel} {i : Nat}

/-- A lower call changes neither the runtime's state nor who works on what. -/
structure LowerCall (sys sys' : Sys) : Prop where
  runtime : sys'.runtime = sys.runtime
  role : sys'.worker.role = sys.worker.role
  cancels : ∀ i, (sys'.callers i).cancels = (sys.callers i).cancels
  turns : sys'.turns = sys.turns
  claimed : ∀ turn prompt, sys'.worker = .claimed turn prompt → sys.worker = .claimed turn prompt

theorem LowerCall.setCaller {next : Caller} (process : Process) (same : next.cancels = (sys.callers i).cancels) :
    LowerCall sys ({ sys with process := process }.setCaller i next) := by
  refine ⟨rfl, rfl, fun j => ?_, rfl, fun _ _ => id⟩
  unfold Sys.setCaller
  dsimp only
  by_cases own : j = i
  · subst own
    rw [Function.update_self]
    exact same
  · rw [Function.update_of_ne own]

theorem LowerCall.setWorker {worker : Worker} (process : Process) (starts : List (TurnId × CloudSubmitOperationId))
    (same : worker.role = sys.worker.role) (launched : ∀ turn prompt, worker ≠ .claimed turn prompt) :
    LowerCall sys { sys with process := process, worker := worker, starts := starts } :=
  ⟨rfl, same, fun _ => rfl, rfl, fun turn prompt claimed => absurd claimed (launched turn prompt)⟩

theorem afterBegin_ne_claimed {turn : TurnId} {prompt : CloudPrompt} (result : Except CloudLifecycleError StartTicket) :
    ∀ other asked, afterBegin turn prompt result ≠ .claimed other asked := by
  intro other asked
  cases result <;> simp [afterBegin]

/-- A lower call and what it leaves. -/
inductive Calls (sys : Sys) : OpenLabel → Sys → Prop where
  | cancel {i : Nat} {turn : TurnId} {pending : Bool} {deadline : Nat}
      (caller : sys.callers i = .canceling turn pending deadline .calling)
      (result : Except CloudLifecycleError CancelPass) (process : Process) :
      Calls sys (.cancel i result process)
        ({ sys with process := process }.cancelNext i turn pending deadline (afterPass result))
  | reconcile {i : Nat} {actor : P0Actor} {expected : CloudSubmitOperationId}
      (caller : sys.callers i = .reconciling actor expected)
      (result : Except CloudLifecycleError CloudReconciliation) (process : Process) :
      Calls sys (.reconcile i result process)
        ({ sys with process := process }.setCaller i (.reconciled actor expected result))
  | resolve {i : Nat} {actor : P0Actor} {op : CloudSubmitOperationId} {decision : UnknownSubmitDecision}
      (caller : sys.callers i = .resolving actor op decision)
      (result : Except CloudLifecycleError CloudLifecycle) (process : Process) :
      Calls sys (.resolve i result process)
        ({ sys with process := process }.setCaller i (.resolved actor op decision result))
  | startBegin {turn : TurnId} {prompt : CloudPrompt} (worker : sys.worker = .admitted turn prompt)
      (result : Except CloudLifecycleError StartTicket) (process : Process) :
      Calls sys (.startBegin result process) { sys with
        process := process
        worker := afterBegin turn prompt result
        starts := afterClaim sys.starts turn result }
  | startSubmit {turn : TurnId} {ticket : StartTicket} {prompt : CloudPrompt}
      (worker : sys.worker = .submitting turn ticket prompt)
      (result : Except CloudLifecycleError (Except CloudRunnerError CloudSubmission)) (process : Process) :
      Calls sys (.startSubmit result process)
        { sys with process := process, worker := afterSubmit turn ticket result }
  | startCommit {turn : TurnId} {ticket : StartTicket} {submitted : Except CloudRunnerError CloudSubmission}
      (worker : sys.worker = .submitted turn ticket submitted)
      (result : Except CloudLifecycleError CloudLifecycle) (process : Process) :
      Calls sys (.startCommit result process) { sys with process := process, worker := .started turn result }
  | inspect {turn : TurnId} {failures : Nat} (worker : sys.worker = .monitoring turn failures)
      (result : Except CloudLifecycleError CloudLifecycle) (process : Process) :
      Calls sys (.inspect result process)
        { sys with process := process, worker := .monitored turn failures result }
  | workerCancel {turn : TurnId} {afterStart : Bool} (worker : sys.worker = .canceling turn afterStart)
      (result : Except CloudLifecycleError CancelPass) (process : Process) :
      Calls sys (.workerCancel result process)
        { sys with process := process, worker := afterWorkerPass turn afterStart result }

/-- A step is one of the runtime's own, or a lower call. -/
theorem openStep_calls (stepped : sys.openStep inner runner label = some sys') :
    (∃ own, label = .own own ∧ sys.callsLower own = false ∧ sys.step inner runner own = some sys') ∨
      Calls sys label sys' := by
  cases label with
  | own label =>
      simp only [openStep] at stepped
      split at stepped
      · cases stepped
      · rename_i quiet
        exact .inl ⟨label, rfl, Bool.eq_false_iff.mpr quiet, stepped⟩
  | _ =>
      apply Or.inr
      simp only [openStep] at stepped
      split at stepped
      · rename_i here
        cases stepped
        constructor
        exact here
      · cases stepped

theorem Calls.lowerCall (calls : Calls sys label sys') : LowerCall sys sys' := by
  cases calls with
  | cancel caller result process | reconcile caller result process | resolve caller result process =>
      exact .setCaller process (by rw [caller]; rfl)
  | startBegin worker result process =>
      exact .setWorker process _ (by rw [worker, role_afterBegin]; rfl) (afterBegin_ne_claimed result)
  | startSubmit worker result process =>
      apply LowerCall.setWorker process sys.starts (by rw [worker, role_afterSubmit]; rfl)
      intro other asked
      cases result <;> simp [afterSubmit]
  | startCommit worker result process | inspect worker result process =>
      exact .setWorker process sys.starts (by rw [worker]; rfl) (by simp)
  | workerCancel worker result process =>
      apply LowerCall.setWorker process sys.starts (by rw [worker, role_afterWorkerPass]; rfl)
      intro other asked
      rcases result with error | lifecycle | op <;> simp [afterWorkerPass]

theorem Controlled.lowerCall (control : sys.Controlled) (called : LowerCall sys sys') : sys'.Controlled := by
  unfold Sys.Controlled
  rw [called.runtime, called.role, called.turns]
  apply Control.sameCancels control
  intro i turn
  unfold Cancels
  rw [called.cancels]

theorem controlled_open (reach : (openSystem inner runner).Reach guard sys) : sys.Controlled := by
  apply reach.invariant
  · rintro sys ⟨process, result, built⟩
    exact .build built
  · intro sys label sys' _ control _ stepped
    obtain ⟨own, -, -, step⟩ | calls := openStep_calls stepped
    · exact control.step step
    · exact control.lowerCall calls.lowerCall

theorem ordered_step {label : Label} (ordered : sys.runtime.feed.Ordered inner)
    (stepped : sys.step inner runner label = some sys') : sys'.runtime.feed.Ordered inner := by
  cases label with
  | subscribe session afterSeq =>
      cases Option.some.inj stepped
      obtain ⟨error, refused⟩ | ⟨-, -, accepted⟩ := RuntimeState.subscribe_cases inner sys.runtime session afterSeq
      · rw [refused]
        exact ordered
      · rw [accepted]
        exact RuntimeState.ordered_registering ordered
  | receive subscriber =>
      cases Option.some.inj stepped
      exact RuntimeState.ordered_receive ordered
  | dropReceiver subscriber =>
      cases Option.some.inj stepped
      exact RuntimeState.ordered_dropReceiver ordered
  | _ => exact (step_publishes False.elim False.elim rfl stepped).ordered ordered

/-- Events are numbered in order whatever the lower control answers. -/
theorem ordered_open (reach : (openSystem inner runner).Reach guard sys) : sys.runtime.feed.Ordered inner := by
  apply reach.invariant
  · rintro sys ⟨process, result, built⟩
    rw [build_feed built]
    exact ⟨.nil, rfl, Nat.zero_le _, by simp, by simp, by simp, by simp⟩
  · intro sys label sys' _ ordered _ stepped
    obtain ⟨own, -, -, step⟩ | calls := openStep_calls stepped
    · exact ordered_step ordered step
    · rw [calls.lowerCall.runtime]
      exact ordered

/-! ## The orchestrator is a lower control -/

/-- The result of a lower call is the one the orchestrator gives. -/
def Ran (runner : CloudTaskRunner) (sys : Sys) : OpenLabel → Prop
  | .own _ => True
  | .cancel _ result process | .workerCancel result process => Returned (Cloud.cancel sys.process) result process
  | .reconcile _ result process => Returned (Cloud.reconcileUnknown runner sys.process) result process
  | .resolve i result process => ∀ actor op decision, sys.callers i = .resolving actor op decision →
      Returned (Cloud.resolveUnknown runner op decision sys.process) result process
  | .startBegin result process => Returned (Cloud.startBegin runner sys.process) result process
  | .startSubmit result process => ∀ turn ticket prompt, sys.worker = .submitting turn ticket prompt →
      Returned (Cloud.startSubmit runner ticket prompt sys.process) result process
  | .startCommit result process => ∀ turn ticket submitted, sys.worker = .submitted turn ticket submitted →
      Returned (Cloud.startCommit ticket submitted sys.process) result process
  | .inspect result process => Returned (Cloud.inspect sys.process) result process

theorem Calls.openStep (calls : Calls sys label sys') : sys.openStep inner runner label = some sys' := by
  cases calls <;> simp only [Sys.openStep, *]

theorem call_calls (lower : (sys.callers i).callsLower = true)
    (stepped : sys.stepCaller inner runner i (sys.callers i) = some sys') :
    ∃ label, Calls sys label sys' ∧ Ran runner sys label := by
  cases caller : sys.callers i with
  | canceling turn pending deadline stage =>
      cases stage with
      | calling =>
          rw [caller, stepCaller, stepCancel] at stepped
          obtain ⟨result, process, ran, same⟩ := resume_returned stepped
          refine ⟨.cancel i result process, ?_, ran⟩
          rw [same]
          have calls := Calls.cancel caller result process
          rcases result with error | lifecycle | op <;> exact calls
      | _ => simp [caller, Caller.callsLower] at lower
  | reconciling actor expected =>
      rw [caller, stepCaller] at stepped
      obtain ⟨result, process, ran, same⟩ := resume_returned stepped
      rw [same]
      exact ⟨_, .reconcile caller result process, ran⟩
  | resolving actor op decision =>
      rw [caller, stepCaller] at stepped
      obtain ⟨result, process, ran, same⟩ := resume_returned stepped
      rw [same]
      refine ⟨_, .resolve caller result process, ?_⟩
      intro actor op decision same
      cases caller.symm.trans same
      exact ran
  | _ => simp [caller, Caller.callsLower] at lower

theorem worker_calls (lower : sys.worker.callsLower = true)
    (stepped : sys.stepWorker inner runner sys.worker = some sys') :
    ∃ label, Calls sys label sys' ∧ Ran runner sys label := by
  cases stepWorker_moves stepped with
  | startBegin worker ran => exact ⟨_, .startBegin worker _ _, ran⟩
  | startSubmit worker ran =>
      refine ⟨_, .startSubmit worker _ _, ?_⟩
      intro turn ticket prompt same
      cases worker.symm.trans same
      exact ran
  | startCommit worker ran =>
      refine ⟨_, .startCommit worker _ _, ?_⟩
      intro turn ticket submitted same
      cases worker.symm.trans same
      exact ran
  | inspect worker ran => exact ⟨_, .inspect worker _ _, ran⟩
  | workerPass worker ran => exact ⟨_, .workerCancel worker _ _, ran⟩
  | advance handle next command => exact absurd rfl command
  | workerFail worker =>
      rcases worker with worker | ⟨afterStart, error, worker⟩ <;> simp [worker, Worker.callsLower] at lower
  | nextAction worker | admitStart worker | startResult worker | monitorResult worker | workerCommit worker
  | workerDrop worker =>
      simp [worker, Worker.callsLower] at lower

/-- A step over the orchestrator is one of the runtime's own, or a call that the orchestrator answers. -/
theorem step_calls {label : Label} (stepped : sys.step inner runner label = some sys') :
    sys.callsLower label = false ∨ ∃ lower, Calls sys lower sys' ∧ Ran runner sys lower := by
  cases lower : sys.callsLower label with
  | false => exact .inl rfl
  | true =>
      apply Or.inr
      cases label with
      | call i => exact call_calls lower stepped
      | worker => exact worker_calls lower stepped
      | _ => cases lower

/-- A condition on the runtime's own steps. -/
def OnOwn (guard : Sys → Label → Prop) (sys : Sys) (label : OpenLabel) : Prop :=
  ∀ own, label = .own own → guard sys own

theorem open_of_step {label : Label} (stepped : sys.step inner runner label = some sys') :
    ∃ openLabel, (∀ own, openLabel = .own own → own = label) ∧ sys.openStep inner runner openLabel = some sys' := by
  obtain quiet | ⟨lower, calls, -⟩ := step_calls stepped
  · refine ⟨.own label, ?_, by simp only [Sys.openStep, quiet, Bool.false_eq_true, if_false, stepped]⟩
    intro own same
    cases same
    rfl
  · refine ⟨lower, ?_, calls.openStep⟩
    intro own same
    subst same
    cases calls

/-- Whatever the session reaches over the orchestrator it reaches over some lower control. -/
theorem open_reach {guard : Sys → Label → Prop} (reach : (system inner runner env).Reach guard sys) :
    (openSystem inner runner).Reach (OnOwn guard) sys := by
  apply reach.invariant
  · rintro sys ⟨process, -, built⟩
    obtain ⟨process', result, built, -⟩ := build_of_new built
    exact .initial ⟨process', result, built⟩
  · intro sys label sys' _ reach held stepped
    obtain ⟨openLabel, own, step⟩ := open_of_step stepped
    apply reach.step _ step
    intro label' same
    rw [own label' same]
    exact held

/-- Where a schedule of the session and of the answers below it leads. -/
def opened (inner : Inner) (runner : CloudTaskRunner) (env : Nat → Answers) (schedule : List OpenLabel) : Option Sys :=
  (first inner runner env).bind fun sys => (openSystem inner runner).run sys schedule

theorem opened_reach {schedule : List OpenLabel} (free : ∀ label ∈ schedule, ∀ sys, guard sys label)
    (ran : opened inner runner env schedule = some sys) : (openSystem inner runner).Reach guard sys := by
  obtain ⟨start, built, ran⟩ := Option.bind_eq_some_iff.mp ran
  obtain ⟨process, -, new⟩ := first_initial built
  obtain ⟨process', result, built, -⟩ := build_of_new new
  exact .run (.initial ⟨process', result, built⟩) free ran

end Sys

end Codebox.Session
