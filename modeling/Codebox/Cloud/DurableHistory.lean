import Codebox.Cloud.CoherentRuns
import Codebox.Cloud.SubmitHistory

/-! # What replaces a durable lifecycle record

A section of the orchestrator computes the record it writes from the copy in memory. As long as
that copy is what the file holds, the records of one operation extend one another. A write that is
reported as failed after it became visible leaves the copy behind the file; the next section that
writes from it takes the durable history back.
-/

namespace Codebox.Cloud

open Codebox.Support Proc Codebox.Host

/-! ## Records that extend one another -/

variable {phase : CloudLifecyclePhase} {h : Host} {α : Type}

theorem CloudLifecyclePhase.validTransition_terminal (terminal : phase.isTerminal = true) (next : CloudLifecyclePhase) :
    phase.validTransition next = false := by
  cases phase <;> simp_all [validTransition]

/-- A record after another one of the same operation. -/
structure CloudLifecycleLedger.Extends (earlier later : CloudLifecycleLedger) : Prop where
  history : earlier.history <+: later.history
  task : ∀ task, earlier.taskId = some task → later.taskId = some task
  final : earlier.phase.isTerminal = true → later.phase = earlier.phase

instance : Std.Refl CloudLifecycleLedger.Extends :=
  ⟨fun _ => ⟨List.prefix_rfl, fun _ => id, fun _ => rfl⟩⟩

instance : IsTrans CloudLifecycleLedger CloudLifecycleLedger.Extends where
  trans first second third before after :=
    { history := before.history.trans after.history
      task := fun task named => after.task task (before.task task named)
      final := fun terminal => by
        have same := before.final terminal
        rw [after.final (by rw [same]; exact terminal), same] }

namespace CloudLifecycleLedger

variable {ledger next : CloudLifecycleLedger}

structure Follows (ledger next : CloudLifecycleLedger) : Prop where
  own : next.operationId = ledger.operationId
  extends_ : ledger.Extends next

theorem Follows.refl (ledger : CloudLifecycleLedger) : ledger.Follows ledger :=
  ⟨rfl, Std.Refl.refl _⟩

theorem Follows.trans {last : CloudLifecycleLedger} (first : ledger.Follows next)
    (second : next.Follows last) : ledger.Follows last :=
  ⟨second.own.trans first.own, IsTrans.trans _ _ _ first.extends_ second.extends_⟩

theorem follows_append (appended : ledger.append phase = .ok next) : ledger.Follows next := by
  obtain ⟨-, step, rfl⟩ := append_eq_ok.mp appended
  refine ⟨rfl, List.prefix_append _ _, fun _ => id, ?_⟩
  intro terminal
  rw [CloudLifecyclePhase.validTransition_terminal terminal] at step
  cases step

theorem follows_recordStatus {task : CloudTaskId} {status : CloudTaskStatus}
    (recorded : ledger.recordStatus task status = .ok next) : ledger.Follows next := by
  rcases recordStatus_eq_ok recorded with ⟨-, -, -, rfl⟩ | ⟨-, step, same, -, rfl⟩
  · exact .refl _
  · refine ⟨rfl, List.prefix_append _ _, ?_, ?_⟩
    · intro current named
      rw [same current named]
    · intro terminal
      rw [CloudLifecyclePhase.validTransition_terminal terminal] at step
      cases step

theorem follows_recordReconciliation {tasks : List CloudTaskId} {complete : Bool}
    (recorded : ledger.recordReconciliation tasks complete = .ok next) : ledger.Follows next := by
  obtain ⟨-, -, -, -, rfl⟩ := recordReconciliation_eq_ok.mp recorded
  exact ⟨rfl, List.prefix_rfl, fun _ => id, fun _ => rfl⟩

theorem follows_committed (op : CloudSubmitOperationId)
    (result : Except CloudRunnerError CloudSubmission) :
    (submitting op).Follows (committedLedger op result) :=
  ⟨rfl, ⟨[committedPhase result], rfl⟩, by simp [submitting], by simp [submitting]⟩

theorem follows_repaired {observation : CloudSubmitObservation}
    (repaired : repairedLedger ledger observation = .ok (some next)) : ledger.Follows next := by
  cases repaired_of_ok repaired with
  | failed phase unsent recorded => exact follows_append recorded
  | unknown phase recorded => exact follows_append recorded
  | named recorded => exact follows_recordStatus recorded
  | abandoned first recorded =>
      obtain ⟨-, first⟩ | ⟨-, rfl⟩ := first
      · exact (follows_append first).trans (follows_append recorded)
      · exact follows_append recorded

end CloudLifecycleLedger

/-! ## The order of the records in the trace -/

def lifecycleRecord : HostEvent → Option CloudLifecycleLedger
  | .lifecycleWritten ledger => some ledger
  | .submitWritten _ | .lifecycleRemoved | .execStarted _ => none

/-- The lifecycle records that became durable, oldest first. -/
def lifecycleRecords (trace : List HostEvent) : List CloudLifecycleLedger := trace.filterMap lifecycleRecord

@[simp] theorem lifecycleRecords_concat (trace : List HostEvent) (event : HostEvent) :
    lifecycleRecords (trace ++ [event]) = lifecycleRecords trace ++ (lifecycleRecord event).toList := by
  cases event <;> simp [lifecycleRecords, lifecycleRecord]

structure LifecycleOrder (h : Host) : Prop where
  forward : Forward CloudLifecycleLedger.operationId CloudLifecycleLedger.Extends
    (lifecycleRecords h.trace) h.lifecycleFile
  written : ∀ ledger, h.lifecycleFile = some ledger → ledger ∈ lifecycleRecords h.trace
  issued : ∀ record ∈ lifecycleRecords h.trace, Issued h record.operationId

/-- A host on which the durable records of both ledgers only ever grew. -/
structure DurableOrder (h : Host) : Prop where
  reported : TasksReported h.env
  submit : SubmitOrder (Issued h) h
  lifecycle : LifecycleOrder h

section

variable {ledger next : CloudLifecycleLedger}

theorem LifecycleOrder.stored (order : LifecycleOrder h) (known : Issued h next.operationId)
    (forward : Forward CloudLifecycleLedger.operationId CloudLifecycleLedger.Extends
      (lifecycleRecords h.trace ++ [next]) (some next)) : LifecycleOrder (storeLifecycle next h) := by
  have records : lifecycleRecords (storeLifecycle next h).trace = lifecycleRecords h.trace ++ [next] := by
    simp [storeLifecycle, lifecycleRecord]
  constructor
  · rw [records]
    exact forward
  · intro stored found
    cases found
    simp [records]
  · intro record inside
    rw [records] at inside
    rcases List.mem_append.mp inside with before | last
    · exact order.issued record before
    · rw [List.mem_singleton.mp last]
      exact known

theorem DurableOrder.time (order : DurableOrder h) (time : Nat) : DurableOrder (h.atTime time) :=
  ⟨order.reported, order.submit.time time, order.lifecycle.forward, order.lifecycle.written,
    order.lifecycle.issued⟩

theorem DurableOrder.stored (order : DurableOrder h) (lifecycle : LifecycleOrder (storeLifecycle next h)) :
    DurableOrder (storeLifecycle next h) := by
  have same : submitRecords (storeLifecycle next h).trace = submitRecords h.trace := by
    simp [storeLifecycle, submitRecord]
  refine ⟨order.reported, ⟨order.submit.valid, ?_, ?_, ?_⟩, lifecycle⟩ <;> rw [same]
  · exact order.submit.forward
  · exact order.submit.written
  · exact order.submit.used

/-- The record that follows the one in the file. -/
theorem DurableOrder.follow (order : DurableOrder h) (current : h.lifecycleFile = some ledger)
    (follows : ledger.Follows next) : DurableOrder (storeLifecycle next h) := by
  apply order.stored
  apply order.lifecycle.stored
  · rw [follows.own]
    exact order.lifecycle.issued ledger (order.lifecycle.written ledger current)
  · exact order.lifecycle.forward.replace current follows.own follows.extends_

/-- A drawn identifier has no record of either kind. -/
theorem DurableOrder.drawn (order : DurableOrder h) :
    DurableOrder { h with issued := h.issued + 1 } where
  reported := order.reported
  submit :=
    have used := order.submit.mono fun _ issued => Nat.le_succ_of_le issued
    ⟨used.valid, used.forward, used.written, used.used⟩
  lifecycle := ⟨order.lifecycle.forward, order.lifecycle.written,
    fun record inside => Nat.le_succ_of_le (order.lifecycle.issued record inside)⟩

end

/-! ## The sections keep the order -/

/-- What a call of the runner leaves of the order. -/
structure Advanced (h h' : Host) : Prop where
  order : DurableOrder h'
  lifecycle : h'.lifecycleFile = h.lifecycleFile
  records : lifecycleRecords h'.trace = lifecycleRecords h.trace
  issued : h'.issued = h.issued

/-- A call that keeps the submit records in order and touches no lifecycle record. -/
theorem DurableOrder.runner {proc : RunnerProc α} (order : DurableOrder h)
    (keeps : ∀ inv, BeyondSubmit inv → Proc.Keeps inv proc) (ordered : StaysOrdered (Issued h) proc h) :
    proc.wp (fun _ => Advanced h) (fun _ => Advanced h) (Advanced h) h := by
  let frame : Host → Prop := fun h' => h'.env = h.env ∧ h'.issued = h.issued ∧
    h'.lifecycleFile = h.lifecycleFile ∧ lifecycleRecords h'.trace = lifecycleRecords h.trace
  have beyond : BeyondSubmit frame := by
    refine ⟨fun _ _ => id, ?_, ?_⟩
    · rintro ledger h' ⟨env, issued, file, records⟩
      exact ⟨env, issued, file, by simpa [storeSubmit, lifecycleRecord] using records⟩
    · rintro op h' ⟨env, issued, file, records⟩
      exact ⟨env, issued, file, by simpa [recordExec, lifecycleRecord] using records⟩
  have advanced : ∀ h', frame h' ∧ SubmitOrder (Issued h) h' → Advanced h h' := by
    rintro h' ⟨⟨env, issued, file, records⟩, submit⟩
    have same : Issued h' = Issued h := by
      funext op
      rw [Issued, Issued, issued]
    refine ⟨⟨env ▸ order.reported, same ▸ submit, ⟨?_, ?_, ?_⟩⟩, file, records, issued⟩
    · rw [records, file]
      exact order.lifecycle.forward
    · rw [records, file]
      exact order.lifecycle.written
    · rw [records, same]
      exact order.lifecycle.issued
  have framed := keeps_iff.mp (keeps frame beyond) h ⟨rfl, rfl, rfl, rfl⟩
  exact wp_mono (wp_and framed ordered) (fun _ => advanced) (fun _ => advanced) advanced

/-- Every outcome leaves the durable records in order. -/
def StaysDurable {α : Type} (proc : OrchestratorProc α) (p : Process) : Prop :=
  proc.wp (fun _ p' => DurableOrder p'.host) (fun _ p' => DurableOrder p'.host)
    (fun p' => DurableOrder p'.host) p

section

variable {decisive : Prop} {runner : CloudTaskRunner} {p : Process} {ledger next : CloudLifecycleLedger}
  {onOk : Unit → Process → Prop}

/-- Writing a record in its place, however the write ends. -/
theorem wp_durableWrite (order : DurableOrder p.host)
    (place : ∀ time, DurableOrder (p.host.atTime time) → DurableOrder (storeLifecycle next (p.host.atTime time)))
    (stored : ∀ time, DurableOrder (storeLifecycle next (p.host.atTime time)) →
      onOk () { p with host := storeLifecycle next (p.host.atTime time) }) :
    (persist next).wp onOk (fun _ p' => DurableOrder p'.host) (fun p' => DurableOrder p'.host) p := by
  have replaced : ∀ time, DurableOrder (storeLifecycle next (p.host.atTime time)) :=
    fun time => place time (order.time time)
  apply wp_persist_hosts
  · intro time _
    exact stored time (replaced time)
  · exact fun _ => replaced
  · exact fun _ time => order.time time
  · exact fun time => order.time time

/-- The record that follows the one in the file. -/
theorem wp_durableFollow (order : DurableOrder p.host) (current : p.host.lifecycleFile = some ledger)
    (follows : ledger.Follows next) (stored : ∀ host, DurableOrder host → onOk () { p with host := host }) :
    (persist next).wp onOk (fun _ p' => DurableOrder p'.host) (fun p' => DurableOrder p'.host) p := by
  apply wp_durableWrite order
  · intro time untouched
    exact untouched.follow current follows
  · intro time replaced
    exact stored _ replaced

theorem wp_durableEffect (order : DurableOrder p.host) (current : p.host.lifecycleFile = some ledger)
    (follows : ledger.Follows next) (stored : ∀ host, DurableOrder host → onOk () { p with host := host }) :
    (persistAfterEffect next).wp onOk (fun _ p' => DurableOrder p'.host)
      (fun p' => DurableOrder p'.host) p := by
  rw [persistAfterEffect, wp_mapError]
  exact wp_durableFollow order current follows stored

/-- The record in memory, if a section can write from it, is the one in the file. -/
def Process.Synced (p : Process) : Prop :=
  ∀ ledger, p.state.ledger = some ledger → ledger.phase = .pending ∨ ledger.phase = .outcomeUnknown →
    p.host.lifecycleFile = some ledger

theorem inspect_durable (inv : ProcessInv decisive runner p) (order : DurableOrder p.host)
    (synced : p.Synced) : StaysDurable inspect p := by
  apply wp_inspect fun _ found => (inv.accounted found).valid
  · exact fun _ _ _ _ _ _ => order
  · exact fun _ time _ => order.time time
  · exact fun time => order.time time
  · intro ledger next task status shown time found pending _ recorded _
    exact wp_durableEffect (p := { p with host := p.host.atTime time }) (order.time time)
      (synced ledger found (.inl pending)) (CloudLifecycleLedger.follows_recordStatus recorded) fun _ kept => kept

theorem lifecycleCancel_durable (inv : ProcessInv decisive runner p) (order : DurableOrder p.host)
    (synced : p.Synced) : StaysDurable cancel p := by
  apply wp_cancel fun _ found => (inv.accounted found).valid
  · exact fun _ _ _ _ _ _ => order
  · exact fun _ => order
  · exact fun _ _ _ _ _ => order
  · intro ledger next shown found pending _ appended _
    exact wp_durableEffect order (synced ledger found (.inl pending))
      (CloudLifecycleLedger.follows_append appended) fun _ kept => kept

theorem lifecycleReconcileUnknown_durable (order : DurableOrder p.host) (synced : p.Synced) :
    StaysDurable (reconcileUnknown runner) p := by
  apply wp_lifecycleReconcileUnknown fun _ => order
  intro ledger found unknown
  apply wp_mono (order.runner (fun _ beyond => keeps_reconcileUnknown beyond runner)
    (reconcileUnknown_ordered runner order.submit))
  · intro reported h' advanced
    refine ⟨fun _ => advanced.order, ?_⟩
    intro next _ recorded
    exact wp_durableEffect (p := { p with host := h' }) advanced.order
      (advanced.lifecycle.trans (synced ledger found (.inr unknown)))
      (CloudLifecycleLedger.follows_recordReconciliation recorded) fun _ kept => kept
  · exact fun _ _ advanced => advanced.order
  · exact fun _ advanced => advanced.order

theorem commitResolution_durable (resolution : CloudUnknownResolution) {expected : CloudSubmitObservation}
    {recorded : Except CloudLifecycleError CloudLifecycleLedger} (order : DurableOrder p.host)
    (current : p.host.lifecycleFile = some ledger)
    (follows : ∀ next, recorded = .ok next → ledger.Follows next ∧ next.Valid) :
    StaysDurable (commitResolution runner ledger resolution expected recorded) p := by
  apply wp_commitResolution
  apply wp_mono (order.runner (fun _ beyond => keeps_resolveUnknown beyond runner _ _)
    (resolveUnknown_ordered runner ledger.operationId resolution order.submit))
  · intro observation h' advanced
    refine ⟨fun _ => advanced.order, ?_⟩
    intro next _ outcome
    obtain ⟨follows, valid⟩ := follows next outcome
    refine ⟨valid, fun _ _ => ?_⟩
    exact wp_durableEffect (p := { p with host := h' }) advanced.order
      (advanced.lifecycle.trans current) follows fun _ kept => kept
  · exact fun _ _ advanced => advanced.order
  · exact fun _ advanced => advanced.order

theorem lifecycleResolveUnknown_durable (op : CloudSubmitOperationId) (decision : UnknownSubmitDecision)
    (inv : ProcessInv decisive runner p) (order : DurableOrder p.host) (synced : p.Synced) :
    StaysDurable (resolveUnknown runner op decision) p := by
  apply wp_lifecycleResolveUnknown
  · exact fun _ time => order.time time
  · exact fun time => order.time time
  · exact fun _ _ _ _ _ _ => order
  · intro ledger task status time undecided _ _ _ _
    have current := synced ledger undecided.found (.inr undecided.unknown)
    apply commitResolution_durable (p := { p with host := p.host.atTime time }) _ (order.time time) current
    intro next recorded
    exact ⟨CloudLifecycleLedger.follows_recordStatus recorded,
      (inv.accounted undecided.found).valid.recordStatus recorded⟩
  · intro ledger undecided _
    apply commitResolution_durable _ order (synced ledger undecided.found (.inr undecided.unknown))
    intro next recorded
    have valid := (inv.accounted undecided.found).valid
    exact ⟨CloudLifecycleLedger.follows_append recorded, valid.append (valid.taskless undecided.unknown) recorded⟩

/-! ### Starts -/

/-- What the order owes a start between its sections: no submit record of it before its submit, and
its claim still in the lifecycle file before its commit. -/
def FlightOrder (p : Process) : Option Flight → Prop
  | none => True
  | some (.submitting ticket _) => Unsubmitted ticket.operationId p.host.trace
  | some (.submitted ticket _) => p.host.lifecycleFile = some (.submitting ticket.operationId)

/-- The first record of an operation that has none. -/
theorem DurableOrder.begin (order : DurableOrder h) (known : Issued h next.operationId)
    (unused : ∀ record ∈ lifecycleRecords h.trace, record.operationId ≠ next.operationId) :
    DurableOrder (storeLifecycle next h) :=
  order.stored (order.lifecycle.stored known (order.lifecycle.forward.begin unused))

theorem startBegin_durable (order : DurableOrder p.host) :
    (startBegin runner).wp
      (fun ticket p' => DurableOrder p'.host ∧ Unsubmitted ticket.operationId p'.host.trace)
      (fun _ p' => DurableOrder p'.host) (fun p' => DurableOrder p'.host) p := by
  apply wp_startBegin fun _ _ => order
  intro _
  -- the records on this host, and those the observation adds, are of identifiers handed out before
  have before : SubmitOrder (Issued p.host) { p.host with issued := p.host.issued + 1 } :=
    ⟨order.submit.valid, order.submit.forward, order.submit.written, order.submit.used⟩
  have drawn : DurableOrder { p.host with issued := p.host.issued + 1 } := order.drawn
  have fresh : ∀ op, Issued p.host op → op ≠ p.nextOperation := by
    rintro op issued rfl
    exact absurd issued (Nat.not_succ_le_self p.host.issued)
  apply wp_mono (wp_and (observeSubmit_ordered runner p.nextOperation before)
    (drawn.runner (fun _ beyond => keeps_observeSubmit beyond runner p.nextOperation)
      (observeSubmit_ordered runner p.nextOperation drawn.submit)))
  · rintro observation h' ⟨old, advanced⟩
    refine ⟨fun _ _ => advanced.order, fun _ => ?_⟩
    have unused : ∀ record ∈ lifecycleRecords h'.trace, record.operationId ≠ p.nextOperation := by
      intro record inside
      rw [advanced.records] at inside
      exact fresh _ (order.lifecycle.issued record inside)
    have known : Issued h' p.nextOperation := Nat.le_of_eq advanced.issued.symm
    apply wp_durableWrite (p := { p with host := h' }) advanced.order
    · intro time untouched
      exact untouched.begin known unused
    · intro time replaced
      refine ⟨replaced, ?_⟩
      intro record inside
      apply fresh _ (old.used record _)
      simpa [storeLifecycle, submitRecord] using inside
  · exact fun _ _ both => both.2.order
  · exact fun _ both => both.2.order

theorem startSubmit_durable (ticket : StartTicket) (prompt : CloudPrompt) (order : DurableOrder p.host)
    (claimed : Claimed ticket p) (unsubmitted : Unsubmitted ticket.operationId p.host.trace) :
    (startSubmit runner ticket prompt).wp
      (fun _ p' => DurableOrder p'.host ∧ p'.host.lifecycleFile = some (.submitting ticket.operationId))
      (fun _ p' => DurableOrder p'.host) (fun p' => DurableOrder p'.host) p := by
  have known : Issued p.host ticket.operationId :=
    order.lifecycle.issued _ (order.lifecycle.written _ claimed.file)
  rw [startSubmit, wp_bind, wp_getState, wp_attempt, wp_onHost]
  apply wp_mono (order.runner (fun _ beyond => keeps_submit beyond runner _ _)
    (submit_ordered runner ⟨ticket.operationId, prompt⟩ (p.state.cancellation.getD {}) order.reported
      order.submit known (.inr unsubmitted)))
  · intro _ _ advanced
    exact ⟨advanced.order, advanced.lifecycle.trans claimed.file⟩
  · intro _ _ advanced
    exact ⟨advanced.order, advanced.lifecycle.trans claimed.file⟩
  · intro _ advanced
    exact advanced.order

theorem startCommit_durable {ticket : StartTicket} {result : Except CloudRunnerError CloudSubmission}
    (inv : ProcessInv decisive runner p) (order : DurableOrder p.host)
    (answered : Answered decisive ticket result p)
    (claim : p.host.lifecycleFile = some (.submitting ticket.operationId)) :
    StaysDurable (startCommit ticket result) p := by
  have valid := (answered.accounted inv).valid
  obtain ⟨_, shown, -⟩ := valid.lifecycle
  unfold StaysDurable
  rw [wp_congr (startCommit_eq answered)]
  simp only [commitStart, wp_bind, wp_ofExcept_ok, wp_attempt, shown]
  have written : StaysDurable (persistAfterEffect (committedLedger ticket.operationId result)) p :=
    wp_durableEffect order claim (CloudLifecycleLedger.follows_committed _ result) fun _ kept => kept
  apply wp_mono written
  · intro _ _ kept
    exact kept
  · intro _ _ kept
    exact kept
  · intro _ kept
    exact kept

/-! ### Construction -/

theorem repairInterruptedState_durable (order : DurableOrder p.host)
    (current : p.state.ledger = p.host.lifecycleFile) :
    StaysDurable (repairInterruptedState runner) p := by
  apply wp_repairInterruptedState order
  intro ledger found _
  apply wp_mono (order.runner (fun _ beyond => keeps_observeSubmit beyond runner _)
    (observeSubmit_ordered runner ledger.operationId order.submit))
  · intro observation h' advanced
    refine ⟨fun _ => advanced.order, advanced.order, fun repaired outcome => ?_⟩
    exact wp_durableFollow (p := { p with host := h' }) advanced.order
      (advanced.lifecycle.trans (current.symm.trans found))
      (CloudLifecycleLedger.follows_repaired outcome) fun _ kept => kept
  · exact fun _ _ advanced => advanced.order
  · exact fun _ advanced => advanced.order

theorem fromRunner_durable (order : DurableOrder p.host) : StaysDurable (fromRunner runner) p := by
  have kept : ∀ time, DurableOrder (p.host.atTime time) := fun time => order.time time
  apply wp_fromRunner
  · intro time
    exact repairInterruptedState_durable (kept time) rfl
  · exact fun _ => kept
  · exact kept

end

/-! ## Runs -/

/-- Whatever writes from the record in memory finds it in the file. -/
def Synced : Machine → Call → Prop
  | .up p _, .inspect | .up p _, .reconcileUnknown | .up p _, .resolveUnknown _ _
  | .up p _, .cancel => p.Synced
  | .up _ _, .restart | .up _ _, .crash | .up _ _, .startBegin _ | .up _ _, .startSubmit
  | .up _ _, .startCommit | .down _, _ => True

def OrderInv : Machine → Prop
  | .down host => DurableOrder host
  | .up p flight => DurableOrder p.host ∧ FlightOrder p flight

section

variable {decisive : Prop} {runner : CloudTaskRunner} {p : Process} {flight : Option Flight}

theorem FlightOrder.undisturbed {p' : Process} (order : FlightOrder p flight) (same : Undisturbed p p') :
    FlightOrder p' flight := by
  rcases flight with _ | ⟨ticket, prompt⟩ | ⟨ticket, result⟩
  · trivial
  · simp only [FlightOrder, same.host] at order ⊢
    exact order
  · simp only [FlightOrder, same.host] at order ⊢
    exact order

/-- A call beside a start, whether or not there is one. -/
theorem OrderInv.beside {proc : OrchestratorProc α} (order : OrderInv (.up p flight))
    (inv : MachineInv decisive runner (.up p flight)) (alone : StaysDurable proc p)
    (during : ∀ op, p.state.ledger = some (.submitting op) →
      proc.wp (fun _ => Undisturbed p) (fun _ => Undisturbed p) (fun _ => False) p) :
    OrderInv (Machine.after (proc p) fun _ => flight) := by
  apply Machine.after_spec
  cases flight with
  | none =>
      apply wp_mono alone
      · intro _ _ kept
        exact ⟨kept, trivial⟩
      · intro _ _ kept
        exact ⟨kept, trivial⟩
      · intro _ kept
        exact kept
  | some flight =>
      obtain ⟨op, memory⟩ := inv.2.memory
      have kept : ∀ p', Undisturbed p p' → DurableOrder p'.host ∧ FlightOrder p' (some flight) := by
        intro p' same
        refine ⟨?_, order.2.undisturbed same⟩
        rw [same.host]
        exact order.1
      exact wp_mono (during op memory) (fun _ => kept) (fun _ => kept) (fun _ => False.elim)

theorem OrderInv.startBegin (order : OrderInv (.up p flight)) (prompt : CloudPrompt)
    (inv : MachineInv decisive runner (.up p flight)) :
    OrderInv (Machine.after (startBegin runner p) fun
      | .ok ticket => some (.submitting ticket prompt)
      | .error _ => flight) := by
  apply Machine.after_spec
  cases flight with
  | none =>
      apply wp_mono (startBegin_durable order.1)
      · intro _ _ begun
        exact begun
      · intro _ _ kept
        exact ⟨kept, trivial⟩
      · intro _ kept
        exact kept
  | some flight =>
      obtain ⟨op, memory⟩ := inv.2.memory
      apply wp_mono (busy_spec runner memory).1
      · intro _ _ never
        exact never.elim
      · intro _ p' same
        refine ⟨?_, order.2.undisturbed same⟩
        rw [same.host]
        exact order.1
      · intro _ never
        exact never.elim

theorem OrderInv.step {machine machine' : Machine} {call : Call} (inv : MachineInv decisive runner machine)
    (order : OrderInv machine) (synced : Synced machine call)
    (stepped : Machine.step runner machine call = some machine') : OrderInv machine' := by
  have quiet : ∀ {α : Type} {p : Process} {proc : OrchestratorProc α},
      proc.wp (fun _ _ => False) (fun _ => Undisturbed p) (fun _ => False) p →
      proc.wp (fun _ => Undisturbed p) (fun _ => Undisturbed p) (fun _ => False) p :=
    fun spec => wp_mono spec (fun _ _ => False.elim) (fun _ _ => id) (fun _ => id)
  unfold Machine.step at stepped
  split at stepped
  · -- a restart
    rename_i host
    have restarted : DurableOrder (fromRunner runner ⟨host, ⟨none, none, 0⟩⟩).2.host :=
      wp_always.mp (fromRunner_durable (p := ⟨host, ⟨none, none, 0⟩⟩) order)
    split at stepped <;> cases stepped
    · rename_i ran
      rw [ran] at restarted
      exact ⟨restarted, trivial⟩
    · rename_i ran
      rw [ran] at restarted
      exact restarted
  · cases stepped
    exact order.1
  · cases stepped
    exact order.startBegin _ inv
  · cases stepped
    apply Machine.after_spec
    apply wp_mono (startSubmit_durable _ _ order.1 inv.2 order.2)
    · intro _ _ submitted
      exact submitted
    · intro _ _ kept
      exact ⟨kept, trivial⟩
    · intro _ kept
      exact kept
  · cases stepped
    apply Machine.after_spec
    apply wp_mono (startCommit_durable inv.1 order.1 inv.2 order.2)
    · intro _ _ kept
      exact ⟨kept, trivial⟩
    · intro _ _ kept
      exact ⟨kept, trivial⟩
    · intro _ kept
      exact kept
  · cases stepped
    exact order.beside inv (inspect_durable inv.1 order.1 synced)
      fun op memory => quiet (busy_spec runner memory).2.1
  · cases stepped
    exact order.beside inv (lifecycleReconcileUnknown_durable order.1 synced)
      fun op memory => quiet (busy_spec runner memory).2.2.1
  · cases stepped
    exact order.beside inv (lifecycleResolveUnknown_durable _ _ inv.1 order.1 synced)
      fun op memory => quiet ((busy_spec runner memory).2.2.2.1 _ _)
  · cases stepped
    exact order.beside inv (lifecycleCancel_durable inv.1 order.1 synced)
      fun op memory => (busy_spec runner memory).2.2.2.2
  · cases stepped

end

/-- Of two durable submit records of one operation, the later one extends the earlier one. -/
def SubmitsExtend (trace : List HostEvent) : Prop :=
  (submitRecords trace).Pairwise fun first second =>
    first.operationId = second.operationId → first.Extends second

/-- The same of durable lifecycle records. -/
def LifecyclesExtend (trace : List HostEvent) : Prop :=
  (lifecycleRecords trace).Pairwise fun first second =>
    first.operationId = second.operationId → first.Extends second

theorem orderInv_fresh {env : Nat → Answers} (reported : TasksReported env) :
    DurableOrder (Host.fresh env) where
  reported := reported
  submit := submitOrder_fresh _ env
  lifecycle := ⟨.empty, by simp [Host.fresh], by simp [Host.fresh, lifecycleRecords]⟩

/-- A call of the runner keeps what is beyond the submit file. -/
theorem RunnerCall.keeps {inv : Host → Prop} (beyond : BeyondSubmit inv) (runner : CloudTaskRunner)
    (call : RunnerCall) (before : inv h) : inv (call.run runner h) := by
  cases call with
  | submit request cancellation => exact keeps_submit beyond runner request cancellation h before
  | observeSubmit op => exact keeps_observeSubmit beyond runner op h before
  | reconcileUnknown => exact keeps_reconcileUnknown beyond runner h before
  | resolveUnknown op resolution => exact keeps_resolveUnknown beyond runner op resolution h before

/-- If no write of a task is reported as failed after it became visible, the durable records of
an operation extend one another: in every run of the orchestrator whose writing sections find their
record in the file, and in every run of the runner that does not take up an identifier again whose
record is gone. -/
theorem durable_records_extend {runner : CloudTaskRunner} {env : Nat → Answers}
    (reported : TasksReported env) :
    (∀ machine, (Machine.system runner env).Reach Synced machine →
      SubmitsExtend machine.host.trace ∧ LifecyclesExtend machine.host.trace) ∧
    (∀ h, (runnerSystem runner env).Reach KeepsRecords h → SubmitsExtend h.trace) := by
  constructor
  · intro machine reach
    have order : OrderInv machine := by
      apply System.Reach.invariant reach
      · intro start begins
        cases begins
        exact orderInv_fresh reported
      · intro before call after reached order synced stepped
        exact order.step (machineInv_reachable False.elim reached.reachable) synced stepped
    have host : DurableOrder machine.host := by
      cases machine with
      | down host => exact order
      | up p flight => exact order.1
    exact ⟨host.submit.forward.ordered, host.lifecycle.forward.ordered⟩
  · intro h reach
    have kept : SubmitOrder (fun _ => True) h ∧ h.env = env := by
      apply System.Reach.invariant reach
      · intro start begins
        cases begins
        exact ⟨submitOrder_fresh _ env, rfl⟩
      · intro before call after _ kept allowed stepped
        obtain ⟨order, same⟩ := kept
        have beyond : BeyondSubmit fun h => h.env = env := ⟨fun _ _ => id, fun _ _ => id, fun _ _ => id⟩
        cases stepped
        exact ⟨order.call (same.symm ▸ reported) allowed, call.keeps beyond runner same⟩
    exact kept.1.forward.ordered

/-- A task that is submitted, found ready and left alone: three records, each one after the other. -/
theorem inspected_task_extends :
    ∃ machine, (Machine.system ⟨⟨[]⟩, ⟨[]⟩⟩ fun _ =>
        { execOutput := some ⟨"task_1".toList, by decide⟩, statusOutput := some .ready }).Reach Synced machine ∧
      (lifecycleRecords machine.host.trace).map (·.phase) = [.submitting, .pending, .ready] ∧
      SubmitsExtend machine.host.trace ∧ LifecyclesExtend machine.host.trace := by
  let env : Nat → Answers := fun _ =>
    { execOutput := some ⟨"task_1".toList, by decide⟩, statusOutput := some .ready }
  have reported : TasksReported env := by
    intro _ _ _ unsynced
    cases unsynced
  let sys := Machine.system ⟨⟨[]⟩, ⟨[]⟩⟩ env
  have submitted : sys.Reach Synced _ :=
    .step (.step (.step (.step (.initial rfl) trivial (l := .restart) rfl) trivial
      (l := .startBegin ⟨['p']⟩) rfl) trivial (l := .startSubmit) rfl) trivial (l := .startCommit) rfl
  have inspected : sys.Reach Synced _ := .step submitted (l := .inspect) (fun _ found _ => found) rfl
  exact ⟨_, inspected, by decide, (durable_records_extend reported).1 _ inspected⟩

/-! ## Records that go back

A write that is visible and reported as failed is followed by one that is computed from the copy
before it.
-/

/-- Every answer is good, except that the record of the task is stored with an error. -/
def unsyncedTask (task : CloudTaskId) : Answers where
  execOutput := some task
  writeSubmit ledger := if ledger.latest = .taskRecorded then .storedUnsynced else .stored

/-- Every answer is good, except that the record of the result is stored with an error. -/
def unsyncedResult (task : CloudTaskId) : Answers where
  execOutput := some task
  statusOutput := some .ready
  writeLifecycle ledger := if ledger.phase = .ready then .storedUnsynced else .stored

theorem unsynced_records_go_back :
    (∃ machine, (Machine.system ⟨⟨[]⟩, ⟨[]⟩⟩ fun _ =>
        unsyncedTask ⟨"task_1".toList, by decide⟩).Reachable machine ∧
      (submitRecords machine.host.trace).map (·.history) =
        [[.intent], [.intent, .authorized], [.intent, .authorized, .started],
          [.intent, .authorized, .started, .taskRecorded],
          [.intent, .authorized, .started, .outcomeUnknown]] ∧
      ¬ SubmitsExtend machine.host.trace) ∧
    (∃ machine, (Machine.system ⟨⟨[]⟩, ⟨[]⟩⟩ fun _ =>
        unsyncedResult ⟨"task_1".toList, by decide⟩).Reachable machine ∧
      (lifecycleRecords machine.host.trace).map (·.phase) =
        [.submitting, .pending, .ready, .canceledLocally true] ∧
      ¬ LifecyclesExtend machine.host.trace) := by
  constructor
  · let env : Nat → Answers := fun _ => unsyncedTask ⟨"task_1".toList, by decide⟩
    have ran : (Machine.system ⟨⟨[]⟩, ⟨[]⟩⟩ env).run (.down (Host.fresh env))
        [.restart, .startBegin ⟨['p']⟩, .startSubmit] = some _ := rfl
    refine ⟨_, .run (.initial rfl) ran, by decide, ?_⟩
    intro extend
    have prefixes := extend.imp fun grown same => (grown same).history
    exact absurd prefixes (by decide)
  · let env : Nat → Answers := fun _ => unsyncedResult ⟨"task_1".toList, by decide⟩
    have ran : (Machine.system ⟨⟨[]⟩, ⟨[]⟩⟩ env).run (.down (Host.fresh env))
        [.restart, .startBegin ⟨['p']⟩, .startSubmit, .startCommit, .inspect, .cancel] = some _ := rfl
    refine ⟨_, .run (.initial rfl) ran, by decide, ?_⟩
    intro extend
    have prefixes := extend.imp fun grown same => (grown same).history
    exact absurd prefixes (by decide)

end Codebox.Cloud
