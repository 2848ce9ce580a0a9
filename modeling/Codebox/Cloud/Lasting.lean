import Codebox.Cloud.DurableHistory

/-! # What lasts in a process

The sections change a process in a few ways: the clock moves, a ledger is written, a process is
spawned, an identifier is drawn, and a record is shown in memory once its write came back. What none
of these can undo lasts through every section and every run: the environment that the host answers
from, a record that was written once, and that every record in memory was once in the file.
-/

namespace Codebox.Cloud

open Codebox.Support Proc Codebox.Host

/-- A property of processes that nothing the orchestrator does can undo. -/
structure Lasting (inv : Process → Prop) : Prop where
  host : ∀ p : Process, BeyondSubmit fun h => inv { p with host := h }
  drawn : ∀ p, inv p → inv { p with host := { p.host with issued := p.host.issued + 1 } }
  signaled : ∀ p cancellation notifications, inv p →
    inv { p with state := ⟨p.state.ledger, cancellation, notifications⟩ }
  stored : ∀ ledger p, inv p → inv { p with host := storeLifecycle ledger p.host }
  shown : ∀ ledger p, inv p → inv ⟨storeLifecycle ledger p.host, { p.state with ledger := some ledger }⟩
  loaded : ∀ p, inv p → inv ⟨p.host, ⟨p.host.lifecycleFile, none, 0⟩⟩
  gone : ∀ p, inv p → inv ⟨p.host, ⟨none, none, 0⟩⟩

variable {env : Nat → Answers} {machine : Machine} {runner : CloudTaskRunner}

section

variable {α : Type} {inv : Process → Prop} {decisive : Prop} {p : Process} {next : CloudLifecycleLedger}

/-- The property lasts through the call, however it ends. -/
def Lasts (inv : Process → Prop) (proc : OrchestratorProc α) (p : Process) : Prop :=
  proc.wp (fun _ => inv) (fun _ => inv) inv p

variable (lasting : Lasting inv)

include lasting

theorem Lasting.time (before : inv p) (time : Nat) : inv { p with host := p.host.atTime time } :=
  (lasting.host p).time time p.host before

/-- A call of the runner, with what comes after it. -/
theorem Lasting.onRunner {proc : RunnerProc α} {h : Host} {onOk : α → Host → Prop} (before : inv { p with host := h })
    (keeps : ∀ inv, BeyondSubmit inv → Proc.Keeps inv proc)
    (after : ∀ value h', inv { p with host := h' } → onOk value h') :
    proc.wp onOk (fun _ h' => inv { p with host := h' }) (fun h' => inv { p with host := h' }) h := by
  apply wp_mono (keeps_iff.mp (keeps _ (lasting.host p)) h before) after
  · exact fun _ _ => id
  · exact fun _ => id

/-- A record may be shown once its write came back. -/
theorem Lasting.persist {onOk : Unit → Process → Prop} (before : inv p)
    (shown : ∀ host, inv ⟨host, { p.state with ledger := some next }⟩ → onOk () { p with host := host }) :
    (persist next).wp onOk (fun _ => inv) inv p := by
  apply wp_persist_hosts
  · intro time _
    exact shown _ (lasting.shown next _ (lasting.time before time))
  · intro _ time
    exact lasting.stored next _ (lasting.time before time)
  · intro _ time
    exact lasting.time before time
  · intro time
    exact lasting.time before time

theorem Lasting.commits (before : inv p) : Commits next inv (fun _ => inv) inv p := by
  rw [Commits, persistAfterEffect, wp_mapError]
  apply lasting.persist before
  intro _ shown
  exact shown

/-! ## Sections -/

theorem lasts_inspect (valid : ProcessInv decisive runner p) (before : inv p) : Lasts inv inspect p := by
  apply wp_inspect fun _ found => (valid.accounted found).valid
  · exact fun _ _ _ _ _ _ => before
  · exact fun _ time _ => lasting.time before time
  · exact fun time => lasting.time before time
  · intro _ _ _ _ _ time _ _ _ _ _
    exact lasting.commits (lasting.time before time)

theorem lasts_cancel (valid : ProcessInv decisive runner p) (before : inv p) : Lasts inv cancel p := by
  apply wp_cancel fun _ found => (valid.accounted found).valid
  · exact fun _ _ _ _ _ _ => before
  · exact fun _ => before
  · exact fun _ _ _ _ _ => lasting.signaled p _ _ before
  · intro _ _ _ _ _ _ _ _
    exact lasting.commits before

theorem lasts_reconcileUnknown (before : inv p) : Lasts inv (reconcileUnknown runner) p := by
  apply wp_lifecycleReconcileUnknown fun _ => before
  intro ledger _ _
  apply lasting.onRunner before fun _ beyond => keeps_reconcileUnknown beyond runner
  intro reported h' kept
  exact ⟨fun _ => kept, fun _ _ _ => lasting.commits kept⟩

theorem lasts_commitResolution (before : inv p) {ledger : CloudLifecycleLedger} (resolution : CloudUnknownResolution)
    {expected : CloudSubmitObservation} {recorded : Except CloudLifecycleError CloudLifecycleLedger}
    (valid : ∀ next, recorded = .ok next → next.Valid) :
    Lasts inv (commitResolution runner ledger resolution expected recorded) p := by
  apply wp_commitResolution
  apply lasting.onRunner before fun _ beyond => keeps_resolveUnknown beyond runner _ _
  intro observation h' kept
  refine ⟨fun _ => kept, ?_⟩
  intro next _ decided
  exact ⟨valid next decided, fun _ _ => lasting.commits kept⟩

theorem lasts_resolveUnknown (op : CloudSubmitOperationId) (decision : UnknownSubmitDecision)
    (valid : ProcessInv decisive runner p) (before : inv p) : Lasts inv (resolveUnknown runner op decision) p := by
  apply wp_lifecycleResolveUnknown
  · exact fun _ time => lasting.time before time
  · exact fun time => lasting.time before time
  · exact fun _ _ _ _ _ _ => before
  · intro ledger task status time undecided _ _ _ _
    apply lasts_commitResolution lasting (lasting.time before time)
    intro next decided
    exact (valid.accounted undecided.found).valid.recordStatus decided
  · intro ledger undecided _
    have named := (valid.accounted undecided.found).valid
    apply lasts_commitResolution lasting before
    intro next decided
    exact named.append (named.taskless undecided.unknown) decided

theorem lasts_startBegin (before : inv p) : Lasts inv (startBegin runner) p := by
  apply wp_startBegin fun _ _ => before
  intro _
  apply lasting.onRunner (lasting.drawn p before) fun _ beyond => keeps_observeSubmit beyond runner _
  intro observation h' kept
  refine ⟨fun _ _ => kept, fun _ => ?_⟩
  apply lasting.persist kept
  intro host shown
  exact lasting.signaled _ _ _ shown

theorem lasts_startSubmit (ticket : StartTicket) (prompt : CloudPrompt) (before : inv p) :
    Lasts inv (startSubmit runner ticket prompt) p := by
  unfold Lasts
  rw [startSubmit, wp_bind, wp_getState, wp_attempt, wp_onHost]
  exact keeps_iff.mp (keeps_submit (lasting.host p) runner _ _) p.host before

theorem lasts_startCommit {ticket : StartTicket} {result : Except CloudRunnerError CloudSubmission}
    (valid : ProcessInv decisive runner p) (answered : Answered decisive ticket result p) (before : inv p) :
    Lasts inv (startCommit ticket result) p := by
  obtain ⟨_, shown, -⟩ := (answered.accounted valid).valid.lifecycle
  unfold Lasts
  rw [wp_congr (startCommit_eq answered)]
  simp only [commitStart, wp_bind, wp_ofExcept_ok, wp_attempt, shown]
  have written : Commits (committedLedger ticket.operationId result) inv (fun _ => inv) inv p := lasting.commits before
  apply wp_mono written
  · intro _ p' kept
    have ended := lasting.signaled _ none (p'.state.notifications + 1) kept
    exact ended
  · intro _ p' kept
    have ended := lasting.signaled _ none (p'.state.notifications + 1) kept
    exact ended
  · exact fun _ kept => kept

theorem lasts_fromRunner (before : inv p) : Lasts inv (fromRunner runner) p := by
  apply wp_fromRunner
  · intro time
    have loaded := lasting.loaded _ (lasting.time before time)
    apply wp_repairInterruptedState loaded
    intro ledger _ _
    apply lasting.onRunner loaded fun _ beyond => keeps_observeSubmit beyond runner _
    intro observation h' kept
    refine ⟨fun _ => kept, kept, fun repaired _ => ?_⟩
    apply lasting.persist kept
    intro _ shown
    exact shown
  · exact fun _ time => lasting.time before time
  · exact fun time => lasting.time before time

/-! ## Runs -/

/-- The property of the process, or of one that has just read nothing. -/
def Machine.Keeps (inv : Process → Prop) : Machine → Prop
  | .down host => inv ⟨host, ⟨none, none, 0⟩⟩
  | .up p _ => inv p

theorem Lasts.after {proc : OrchestratorProc α} (lasts : Lasts inv proc p)
    (flight : Except CloudLifecycleError α → Option Flight) : (Machine.after (proc p) flight).Keeps inv := by
  apply Machine.after_spec
  apply wp_mono lasts
  · exact fun _ _ => id
  · exact fun _ _ => id
  · exact fun p' => lasting.gone p'

theorem Machine.Keeps.step {machine' : Machine} {call : Call} (valid : MachineInv decisive runner machine)
    (before : machine.Keeps inv) (stepped : machine.step runner call = some machine') : machine'.Keeps inv := by
  have restart := stepped
  unfold Machine.step at stepped
  split at stepped
  · apply Machine.restart_spec _ restart
    apply wp_mono (lasts_fromRunner lasting before)
    · exact fun _ _ => id
    · exact fun _ p' => lasting.gone p'
    · exact fun p' => lasting.gone p'
  · cases stepped
    exact lasting.gone _ before
  · cases stepped
    exact (lasts_startBegin lasting before).after lasting _
  · cases stepped
    exact (lasts_startSubmit lasting _ _ before).after lasting _
  · cases stepped
    exact (lasts_startCommit lasting valid.1 valid.2 before).after lasting _
  · cases stepped
    exact (lasts_inspect lasting valid.1 before).after lasting _
  · cases stepped
    exact (lasts_reconcileUnknown lasting before).after lasting _
  · cases stepped
    exact (lasts_resolveUnknown lasting _ _ valid.1 before).after lasting _
  · cases stepped
    exact (lasts_cancel lasting valid.1 before).after lasting _
  · cases stepped

theorem Machine.keeps_reachable (fresh : inv ⟨Host.fresh env, ⟨none, none, 0⟩⟩)
    (reach : (Machine.system runner env).Reachable machine) : machine.Keeps inv := by
  apply System.Reach.invariant reach
  · rintro start rfl
    exact fresh
  · intro _ _ _ reached before _ stepped
    exact before.step lasting (machineInv_reachable False.elim reached) stepped

end

/-! ## What lasts -/

/-- A property of the host alone. -/
theorem lasting_host (inv : Host → Prop) (beyond : BeyondSubmit inv)
    (drawn : ∀ h, inv h → inv { h with issued := h.issued + 1 })
    (stored : ∀ ledger h, inv h → inv (storeLifecycle ledger h)) : Lasting fun p => inv p.host where
  host _ := beyond
  drawn p := drawn p.host
  signaled _ _ _ := id
  stored ledger p := stored ledger p.host
  shown ledger p := stored ledger p.host
  loaded _ := id
  gone _ := id

/-- A run answers from one environment. -/
theorem Machine.env_reachable (reach : (Machine.system runner env).Reachable machine) : machine.host.env = env := by
  have lasting : Lasting fun p => p.host.env = env :=
    lasting_host (fun h => h.env = env) ⟨fun _ _ => id, fun _ _ => id, fun _ _ => id⟩ (fun _ => id) fun _ _ => id
  have kept := Machine.keeps_reachable lasting rfl reach
  cases machine with
  | down host => exact kept
  | up p flight => exact kept

/-- A record that was written stays written. -/
theorem lasting_written (ledger : CloudLifecycleLedger) : Lasting fun p => ledger ∈ lifecycleRecords p.host.trace := by
  apply lasting_host fun h => ledger ∈ lifecycleRecords h.trace
  · refine ⟨fun _ _ => id, ?_, ?_⟩
    · intro _ _ written
      simp [storeSubmit, written]
    · intro _ _ written
      simp [recordExec, written]
  · exact fun _ => id
  · intro _ _ written
    simp [storeLifecycle, written]

/-- The records in the file and in memory were in the file at some time. -/
def Process.Recorded (p : Process) : Prop :=
  ∀ ledger, p.host.lifecycleFile = some ledger ∨ p.state.ledger = some ledger →
    ledger ∈ lifecycleRecords p.host.trace

theorem lasting_recorded : Lasting Process.Recorded := by
  have stored : ∀ next (p : Process) (state : OrchestratorState), p.Recorded →
      state.ledger = p.state.ledger ∨ state.ledger = some next →
      Process.Recorded ⟨storeLifecycle next p.host, state⟩ := by
    intro next p state recorded shown ledger here
    have records : lifecycleRecords (storeLifecycle next p.host).trace = lifecycleRecords p.host.trace ++ [next] := by
      simp [storeLifecycle, lifecycleRecord]
    rw [records, List.mem_append, List.mem_singleton]
    obtain file | held := here
    · cases file
      exact .inr rfl
    · obtain kept | shown := shown
      · exact .inl (recorded ledger (.inr (kept.symm.trans held)))
      · exact .inr (Option.some.inj (held.symm.trans shown))
  constructor
  · intro p
    refine ⟨fun _ _ => id, ?_, ?_⟩
    · intro _ h recorded ledger here
      simpa [storeSubmit, lifecycleRecord] using recorded ledger here
    · intro _ h recorded ledger here
      simpa [recordExec, lifecycleRecord] using recorded ledger here
  · exact fun _ => id
  · exact fun _ _ _ => id
  · exact fun next p recorded => stored next p p.state recorded (.inl rfl)
  · exact fun next p recorded => stored next p _ recorded (.inr rfl)
  · rintro p recorded ledger (file | file)
    · exact recorded ledger (.inl file)
    · exact recorded ledger (.inl file)
  · rintro p recorded ledger (file | held)
    · exact recorded ledger (.inl file)
    · cases held

/-- A write that failed may have replaced the file, but no process ever holds a record in memory that
was not in the file before. -/
theorem Machine.recorded_reachable {p : Process} {flight : Option Flight}
    (reach : (Machine.system runner env).Reachable (.up p flight)) : p.Recorded := by
  refine Machine.keeps_reachable lasting_recorded ?_ reach
  rintro ledger (file | held)
  · cases file
  · cases held

end Codebox.Cloud
