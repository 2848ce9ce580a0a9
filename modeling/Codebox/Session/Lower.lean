import Codebox.Cloud.Memory
import Codebox.Session.Open

/-! # The orchestrator under the session

What the orchestrator does in a run of the session is a run of the orchestrator: the session adds
nothing to it but the order of the calls. So what its runs keep also holds here, and each of its
calls comes back only with certain lifecycles.
-/

namespace Codebox.Session

open Codebox.Support Codebox.Cloud

/-- The start of the orchestrator that the worker is in. -/
def Worker.flight : Worker → Option Flight
  | .submitting _ ticket prompt => some (.submitting ticket prompt)
  | .submitted _ ticket result => some (.submitted ticket result)
  | .idle | .claimed _ _ | .admitted _ _ | .started _ _ | .monitoring _ _ | .monitored _ _ _ | .canceling _ _
  | .canceled _ _ _ | .failing _ | .exited => none

/-- The lifecycle a lower call comes back with. -/
def OpenLabel.answer : OpenLabel → Option (LowerCommand × CloudLifecycle)
  | .cancel _ (.ok (.answered lifecycle)) _ | .workerCancel (.ok (.answered lifecycle)) _ => some (.cancel, lifecycle)
  | .resolve _ (.ok lifecycle) _ => some (.resolve, lifecycle)
  | .startCommit (.ok lifecycle) _ => some (.start, lifecycle)
  | .inspect (.ok lifecycle) _ => some (.inspect, lifecycle)
  | _ => none

namespace Sys

variable {inner : Inner} {runner : CloudTaskRunner} {env : Nat → Answers} {sys sys' : Sys} {process : Process}
  {result : Except CloudLifecycleError CloudLifecycle} {next : Caller} {label : OpenLabel} {runtime : RuntimeState}
  {i : Nat} {α : Type}

/-! ## Own steps -/

/-- A step of the runtime itself: the orchestrator is not called, and no answer comes in. -/
structure OwnStep (sys sys' : Sys) : Prop where
  process : sys'.process = sys.process
  flight : sys'.worker.flight = sys.worker.flight
  starts : sys'.starts = sys.starts
  worker : ∀ answer, sys'.worker.held = some answer → sys.worker.held = some answer
  callers : ∀ i answer, (sys'.callers i).held = some answer → (sys.callers i).held = some answer

theorem held_setCaller {before : Nat → Caller} (nothing : next.held = none) :
    ∀ j answer, (Function.update before i next j).held = some answer → (before j).held = some answer := by
  intro j answer holds
  by_cases own : j = i
  · subst own
    rw [Function.update_self, nothing] at holds
    cases holds
  · rwa [Function.update_of_ne own] at holds

theorem Calm.held (calm : next.Calm) : next.held = none := by
  cases next with
  | canceling turn pending deadline stage =>
      cases stage with
      | answered lifecycle => exact absurd rfl (calm lifecycle)
      | _ => rfl
  | reconciled | resolving | resolved => exact calm.elim
  | _ => rfl

theorem OwnStep.setCaller {handle : Bool} (nothing : next.held = none) :
    OwnStep sys ({ sys with runtime := runtime, handle := handle }.setCaller i next) :=
  ⟨rfl, rfl, rfl, fun _ => id, held_setCaller nothing⟩

theorem OwnStep.setWorker {worker : Worker} (flight : worker.flight = sys.worker.flight)
    (nothing : worker.held = none) : OwnStep sys { sys with runtime := runtime, worker := worker } := by
  refine ⟨rfl, flight, rfl, ?_, fun _ _ => id⟩
  intro answer holds
  cases nothing.symm.trans holds

theorem held_afterEntry (now : Nat) (result : Except P0SessionError RuntimeState.CancelEntry) :
    (afterEntry now result).held = none := by
  rcases result with error | _ | _ | _ <;> rfl

theorem held_afterRequest (result : Except P0SessionError Unit) : (afterRequest result).held = none := by
  cases result <;> rfl

theorem own_step {label : Label} (quiet : sys.callsLower label = false)
    (stepped : sys.step inner runner label = some sys') : OwnStep sys sys' := by
  cases step_moves stepped with
  | startTurn | subscribe | receive | dropReceiver | elapse => exact ⟨rfl, rfl, rfl, fun _ => id, fun _ _ => id⟩
  | cancelTurn actor idle => exact .setCaller (held_afterEntry _ _)
  | shutdown idle => exact .setCaller (held_afterRequest _)
  | advance handle next command calm same => exact .setCaller (Calm.held calm)
  | enterResolve idle entered => exact .setCaller rfl
  | cancelPass caller ran | reconcile caller ran | resolve caller ran =>
      simp [Sys.callsLower, caller, Caller.callsLower] at quiet
  | commitCancel | releaseCancel | commitReconcile | commitResolve => exact .setCaller rfl
  | @nextAction action runtime worker taken =>
      apply OwnStep.setWorker
      · rw [worker]
        cases action <;> rfl
      · cases action <;> rfl
  | admitStart worker | startResult worker | workerDrop worker refused =>
      apply OwnStep.setWorker
      · rw [worker]
        split <;> rfl
      · split <;> rfl
  | startBegin worker ran | startSubmit worker ran | startCommit worker ran | inspect worker ran
  | workerPass worker ran =>
      simp [Sys.callsLower, worker, Worker.callsLower] at quiet
  | monitorResult worker => exact .setWorker (by rw [worker]; rfl) rfl
  | workerCommit worker committed => exact .setWorker (by rw [worker]; rfl) rfl
  | workerFail worker =>
      apply OwnStep.setWorker _ rfl
      rcases worker with worker | ⟨afterStart, error, worker⟩ <;> rw [worker] <;> rfl

/-! ## The orchestrator's part -/

/-- The orchestrator with the start that is in flight. -/
def machine (sys : Sys) : Machine := .up sys.process sys.worker.flight

theorem after_returned {ran : Outcome CloudLifecycleError α × Process} {result : Except CloudLifecycleError α}
    {flight : Except CloudLifecycleError α → Option Flight} (returned : Returned ran result process) :
    Machine.after ran flight = .up process (flight result) := by
  cases result <;> cases returned <;> rfl

theorem machine_calls (calls : Calls sys label sys') (ran : Ran runner sys label) :
    ∃ call, Machine.step runner sys.machine call = some sys'.machine := by
  cases calls with
  | cancel caller result process =>
      refine ⟨.cancel, ?_⟩
      simp only [machine, Machine.step, after_returned ran]
      rfl
  | reconcile caller result process =>
      refine ⟨.reconcileUnknown, ?_⟩
      simp only [machine, Machine.step, after_returned ran]
      rfl
  | @resolve i actor op decision caller result process =>
      refine ⟨.resolveUnknown op decision, ?_⟩
      simp only [machine, Machine.step, after_returned (ran _ _ _ caller)]
      rfl
  | @startBegin turn prompt worker result process =>
      refine ⟨.startBegin prompt, ?_⟩
      simp only [machine, worker, Worker.flight, Machine.step, after_returned ran]
      cases result <;> rfl
  | startSubmit worker result process =>
      refine ⟨.startSubmit, ?_⟩
      simp only [machine, worker, Worker.flight, Machine.step, after_returned (ran _ _ _ worker)]
      cases result <;> rfl
  | startCommit worker result process =>
      refine ⟨.startCommit, ?_⟩
      simp only [machine, worker, Worker.flight, Machine.step, after_returned (ran _ _ _ worker)]
  | inspect worker result process =>
      refine ⟨.inspect, ?_⟩
      simp only [machine, worker, Worker.flight, Machine.step, after_returned ran]
  | workerCancel worker result process =>
      refine ⟨.cancel, ?_⟩
      simp only [machine, worker, Worker.flight, Machine.step, after_returned ran]
      rcases result with error | lifecycle | op <;> rfl

theorem machine_step {label : Label} (stepped : sys.step inner runner label = some sys') :
    sys'.machine = sys.machine ∨ ∃ call, Machine.step runner sys.machine call = some sys'.machine := by
  obtain quiet | ⟨lower, calls, ran⟩ := step_calls stepped
  · have own := own_step quiet stepped
    apply Or.inl
    simp only [machine, own.process, own.flight]
  · exact .inr (machine_calls calls ran)

theorem build_lower (built : Sys.build inner process result = some sys) :
    sys.process = process ∧ sys.worker = .idle ∧ ∀ i, sys.callers i = .idle := by
  obtain ⟨rt, starts, -, rfl⟩ := build_cases built
  exact ⟨rfl, rfl, fun _ => rfl⟩

/-- A run of the session is a run of the orchestrator. -/
theorem machine_reachable (reachable : (system inner runner env).Reachable sys) :
    (Machine.system runner env).Reachable sys.machine := by
  apply reachable.invariant
  · rintro sys ⟨process, ran, built⟩
    obtain ⟨process', result, built, returned⟩ := build_of_new built
    obtain ⟨same, idle, -⟩ := build_lower built
    apply ran.step (l := .inspect) trivial
    simp only [Machine.system, Machine.step, after_returned returned, machine, same, idle, Worker.flight]
  · intro sys label sys' _ reach _ stepped
    obtain same | ⟨call, moved⟩ := machine_step stepped
    · rw [same]
      exact reach
    · exact reach.step trivial moved

/-! ## Answers -/

/-- The lifecycles that each call may answer with. -/
def Orchestrated : LowerCommand → CloudLifecycle → Prop
  | .start, lifecycle => lifecycle.phase ≠ .submitting
  | .inspect, lifecycle | .resolve, lifecycle =>
      lifecycle.phase ≠ .submitting ∧ lifecycle.phase ≠ .outcomeUnknown
  | .cancel, lifecycle => lifecycle.phase ≠ .submitting ∧ lifecycle.phase ≠ .pending

theorem Orchestrated.not_submitting {command : LowerCommand} {lifecycle : CloudLifecycle}
    (may : Orchestrated command lifecycle) : lifecycle.phase ≠ .submitting := by
  cases command with
  | start => exact may
  | inspect | cancel | resolve => exact may.1

theorem of_returned {proc : OrchestratorProc α} {p : Process} {value : α} {onOk : α → Process → Prop}
    {onError : CloudLifecycleError → Process → Prop} {onCrash : Process → Prop}
    (spec : proc.wp onOk onError onCrash p) (returned : Returned (proc p) (.ok value) process) :
    onOk value process := by
  have ran : proc p = (.ok value, process) := returned
  simp only [Proc.wp, ran] at spec
  exact spec

theorem committedPhase_ne_submitting (result : Except CloudRunnerError CloudSubmission) :
    committedPhase result ≠ .submitting := by
  unfold committedPhase
  split
  · simp
  · split
    · simp
    · split <;> simp

/-- A lower call answers with what it has left in memory. -/
theorem orchestrated_calls (reachable : (system inner runner env).Reachable sys) (calls : Calls sys label sys')
    (ran : Ran runner sys label) :
    ∀ command lifecycle, label.answer = some (command, lifecycle) → Orchestrated command lifecycle ∧
      ∃ ledger, sys'.process.state.ledger = some ledger ∧ ledger.lifecycle = .ok lifecycle := by
  have inv : MachineInv False runner sys.machine := machineInv_reachable False.elim (machine_reachable reachable)
  obtain ⟨inv, flight⟩ := inv
  intro command lifecycle answered
  cases calls with
  | cancel caller result process | workerCancel worker result process =>
      rcases result with error | shown | op <;> cases answered
      obtain ⟨-, ledger, next, shows_, submitting, pending, -⟩ := of_returned (cancel_memory inv) ran
      exact ⟨⟨submitting, pending⟩, shows_.held⟩
  | resolve caller result process =>
      cases result <;> cases answered
      obtain ⟨-, ledger, next, shows_, -, submitting, unknown, -⟩ :=
        of_returned (resolveUnknown_memory _ _ inv) (ran _ _ _ caller)
      exact ⟨⟨submitting, unknown⟩, shows_.held⟩
  | startCommit worker result process =>
      cases result <;> cases answered
      rw [worker] at flight
      obtain ⟨ended, shown⟩ := of_returned (startCommit_memory inv flight) (ran _ _ _ worker)
      obtain ⟨-, phase⟩ := CloudLifecycleLedger.lifecycle_eq_ok shown
      refine ⟨?_, _, congrArg OrchestratorState.ledger ended.state, shown⟩
      intro submitting
      exact committedPhase_ne_submitting _ (phase.symm.trans submitting)
  | inspect worker result process =>
      cases result <;> cases answered
      obtain ⟨-, ledger, next, shows_, submitting, unknown⟩ := of_returned (inspect_memory inv) ran
      exact ⟨⟨submitting, unknown⟩, shows_.held⟩
  | _ => cases answered

variable {fits : LowerCommand → CloudLifecycle → Prop}

theorem Holds.mono {fits' : LowerCommand → CloudLifecycle → Prop} (holds : sys.Holds fits)
    (weaker : ∀ command lifecycle, fits command lifecycle → fits' command lifecycle) : sys.Holds fits' :=
  ⟨fun command lifecycle held => weaker _ _ (holds.worker command lifecycle held),
    fun i command lifecycle held => weaker _ _ (holds.callers i command lifecycle held)⟩

theorem Holds.own (holds : sys.Holds fits) (own : OwnStep sys sys') : sys'.Holds fits :=
  ⟨fun command lifecycle held => holds.worker command lifecycle (own.worker _ held),
    fun i command lifecycle held => holds.callers i command lifecycle (own.callers i _ held)⟩

theorem Holds.setCaller (holds : sys.Holds fits)
    (fine : ∀ command lifecycle, next.held = some (command, lifecycle) → fits command lifecycle) :
    ({ sys with process := process }.setCaller i next).Holds fits := by
  refine ⟨holds.worker, ?_⟩
  intro j command lifecycle held
  have held : (Function.update sys.callers i next j).held = some (command, lifecycle) := held
  by_cases own : j = i
  · subst own
    rw [Function.update_self] at held
    exact fine command lifecycle held
  · rw [Function.update_of_ne own] at held
    exact holds.callers j command lifecycle held

theorem Holds.calls (holds : sys.Holds fits) (calls : Calls sys label sys')
    (answers : ∀ command lifecycle, label.answer = some (command, lifecycle) → fits command lifecycle) :
    sys'.Holds fits := by
  cases calls with
  | cancel caller result process =>
      apply holds.setCaller
      intro command lifecycle held
      rcases result with error | shown | op <;> cases held
      exact answers _ _ rfl
  | reconcile caller result process =>
      apply holds.setCaller
      intro command lifecycle held
      cases held
  | resolve caller result process =>
      apply holds.setCaller
      intro command lifecycle held
      cases result <;> cases held
      exact answers _ _ rfl
  | startBegin worker result process | startSubmit worker result process =>
      refine ⟨?_, holds.callers⟩
      intro command lifecycle held
      cases result <;> cases held
  | startCommit worker result process | inspect worker result process =>
      refine ⟨?_, holds.callers⟩
      intro command lifecycle held
      cases result <;> cases held
      exact answers _ _ rfl
  | workerCancel worker result process =>
      refine ⟨?_, holds.callers⟩
      intro command lifecycle held
      rcases result with error | shown | op <;> cases held
      exact answers _ _ rfl

theorem Holds.build (built : Sys.build inner process result = some sys) : sys.Holds fits := by
  obtain ⟨-, idle, nobody⟩ := build_lower built
  constructor
  · intro command lifecycle held
    rw [idle] at held
    cases held
  · intro i command lifecycle held
    rw [nobody] at held
    cases held

/-- Every answer the session holds is one the orchestrator may give. -/
theorem holds_reachable (reachable : (system inner runner env).Reachable sys) : sys.Holds Orchestrated := by
  apply reachable.invariant
  · rintro sys ⟨process, -, built⟩
    obtain ⟨process', result, built, -⟩ := build_of_new built
    exact .build built
  · intro sys label sys' before holds _ stepped
    obtain quiet | ⟨lower, calls, ran⟩ := step_calls stepped
    · exact holds.own (own_step quiet stepped)
    · exact holds.calls calls fun _ _ answered => (orchestrated_calls before calls ran _ _ answered).1

end Sys

end Codebox.Session
