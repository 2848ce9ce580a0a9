import Codebox.Cloud.ExecDiscipline
import Codebox.Support.Journal

/-! # What replaces a durable submit record

The runner takes its record from the file at the start of a call and writes the records that
follow from it. So each replacement of one operation's record extends it, with one exception:
once the task is known, a failed write of it is followed by a record of the unknown outcome that
is computed from the copy before. If the failed write had reached the disk, the task is lost.
-/

namespace Codebox.Cloud

open Codebox.Support Proc Codebox.Login Codebox.Host

/-! ## The order of the records in the trace -/

def submitRecord : HostEvent → Option CloudSubmitLedger
  | .submitWritten ledger => some ledger
  | .lifecycleWritten _ | .lifecycleRemoved | .execStarted _ => none

/-- The submit records that became durable, oldest first. -/
def submitRecords (trace : List HostEvent) : List CloudSubmitLedger := trace.filterMap submitRecord

@[simp] theorem submitRecords_concat (trace : List HostEvent) (event : HostEvent) :
    submitRecords (trace ++ [event]) = submitRecords trace ++ (submitRecord event).toList := by
  cases event <;> simp [submitRecords, submitRecord]

/-- No submit record of this operation has become durable. -/
def Unsubmitted (op : CloudSubmitOperationId) (trace : List HostEvent) : Prop :=
  ∀ record ∈ submitRecords trace, record.operationId ≠ op

/-- A host on which the durable submit records only ever grew. All of them are of operations
that `used` knows. -/
structure SubmitOrder (used : CloudSubmitOperationId → Prop) (h : Host) : Prop where
  valid : SubmitFileValid h
  forward : Forward CloudSubmitLedger.operationId CloudSubmitLedger.Extends (submitRecords h.trace)
    h.submitFile
  written : ∀ ledger, h.submitFile = some ledger → ledger ∈ submitRecords h.trace
  used : ∀ record ∈ submitRecords h.trace, used record.operationId

/-- A write of a submit record that ends with its task is not reported as failed after it became
visible. -/
def TasksReported (env : Nat → Answers) : Prop :=
  ∀ time ledger, ledger.latest = .taskRecorded → (env time).writeSubmit ledger ≠ .storedUnsynced

section

variable {used : CloudSubmitOperationId → Prop} {h : Host} {ledger next : CloudSubmitLedger}

section

variable (order : SubmitOrder used h)

include order

theorem SubmitOrder.time (time : Nat) : SubmitOrder used (h.atTime time) :=
  ⟨order.valid, order.forward, order.written, order.used⟩

theorem SubmitOrder.exec (op : CloudSubmitOperationId) : SubmitOrder used (recordExec op h) := by
  have same : submitRecords (recordExec op h).trace = submitRecords h.trace := by
    simp [recordExec, submitRecord]
  refine ⟨order.valid, ?_, ?_, ?_⟩ <;> rw [same]
  · exact order.forward
  · exact order.written
  · exact order.used

theorem SubmitOrder.mono {used' : CloudSubmitOperationId → Prop} (more : ∀ op, used op → used' op) :
    SubmitOrder used' h :=
  ⟨order.valid, order.forward, order.written, fun record inside => more _ (order.used record inside)⟩

/-- A store of a record whose place in the order is known. -/
theorem SubmitOrder.stored (valid : next.Valid) (known : used next.operationId)
    (forward : Forward CloudSubmitLedger.operationId CloudSubmitLedger.Extends
      (submitRecords h.trace ++ [next]) (some next)) : SubmitOrder used (storeSubmit next h) := by
  have records : submitRecords (storeSubmit next h).trace = submitRecords h.trace ++ [next] := by
    simp [storeSubmit, submitRecord]
  constructor
  · intro stored found
    cases found
    exact valid
  · rw [records]
    exact forward
  · intro stored found
    cases found
    simp [records]
  · intro record inside
    rw [records] at inside
    rcases List.mem_append.mp inside with before | last
    · exact order.used record before
    · rw [List.mem_singleton.mp last]
      exact known

theorem SubmitOrder.follow (current : h.submitFile = some ledger) (follows : ledger.Follows next) (valid : next.Valid) :
    SubmitOrder used (storeSubmit next h) := by
  apply order.stored valid
  · rw [follows.own]
    exact order.used ledger (order.written ledger current)
  · exact order.forward.replace current follows.own follows.extends_

theorem SubmitOrder.begin (unsubmitted : Unsubmitted next.operationId h.trace) (known : used next.operationId)
    (valid : next.Valid) : SubmitOrder used (storeSubmit next h) :=
  order.stored valid known (order.forward.begin unsubmitted)

end

/-! ## The calls keep the order -/

/-- Every outcome keeps the order. -/
def StaysOrdered (used : CloudSubmitOperationId → Prop) {α : Type} (p : RunnerProc α) (h : Host) : Prop :=
  p.wp (fun _ => SubmitOrder used) (fun _ => SubmitOrder used) (SubmitOrder used) h

theorem keptByCalls_order (used : CloudSubmitOperationId → Prop) : KeptByCalls (SubmitOrder used) where
  valid order := order.valid
  time time order := order.time time
  follow order current follows valid _ := order.follow current follows valid

/-- The unknown outcome after a failed write of the task follows the record that is still in the
file, provided that the failed write left no trace. -/
theorem keptBySubmit_order (used : CloudSubmitOperationId → Prop) (op : CloudSubmitOperationId) :
    KeptBySubmit op (fun h => TasksReported h.env ∧ SubmitOrder used h)
      (fun h => TasksReported h.env ∧ SubmitOrder used h) where
  valid kept := kept.2.valid
  time time kept := ⟨kept.1, kept.2.time time⟩
  follow kept current follows valid _ := ⟨kept.1, kept.2.follow current follows valid⟩
  ofCalm := id
  calmTime time kept := ⟨kept.1, kept.2.time time⟩
  authorize kept current appended valid :=
    ⟨kept.1, kept.2.follow current (CloudSubmitLedger.follows_append appended) valid⟩
  unspawned kept current appended valid :=
    ⟨kept.1, kept.2.follow current (CloudSubmitLedger.follows_append appended) valid⟩
  exec kept _ _ _ := ⟨kept.1, kept.2.exec _⟩
  relapse kept _ final unsynced _ _ := absurd unsynced (kept.1 _ _ final)

/-- Recovery adds no record of an operation that has none. -/
theorem Classified.unsubmitted {h' : Host} {op : CloudSubmitOperationId} (classified : Classified h h')
    (order : SubmitOrder used h) (unsubmitted : Unsubmitted op h.trace) : Unsubmitted op h'.trace := by
  cases classified with
  | same time _ => exact unsubmitted
  | closed ledger time _ current _ =>
      intro record inside
      simp only [storeSubmit, submitRecords_concat, submitRecord, Option.toList_some, atTime_trace] at inside
      rcases List.mem_append.mp inside with before | last
      · exact unsubmitted record before
      · rw [List.mem_singleton.mp last]
        exact unsubmitted ledger (order.written ledger current)

/-- A submit keeps the order if its operation has no durable record, or has it in the file. -/
theorem submit_ordered (runner : CloudTaskRunner) (request : CloudSubmitRequest)
    (cancellation : CloudCancellation) (reported : TasksReported h.env) (order : SubmitOrder used h)
    (known : used request.operationId)
    (allowed : Owned request.operationId h.submitFile ∨ Unsubmitted request.operationId h.trace) :
    StaysOrdered used (runner.submit request cancellation) h := by
  have stays := submit_stays runner request (keptBySubmit_order used _) cancellation ⟨reported, order⟩
  apply wp_mono (stays ?_) (fun _ _ => And.right) (fun _ _ => And.right) (fun _ => And.right)
  intro h' classified kept _ _ other time
  have unsubmitted := classified.unsubmitted order (allowed.resolve_left other)
  exact ⟨kept.1, (kept.2.time time).begin unsubmitted known (CloudSubmitLedger.new_valid _ _ _)⟩

theorem observeSubmit_ordered (runner : CloudTaskRunner) (op : CloudSubmitOperationId)
    (order : SubmitOrder used h) : StaysOrdered used (runner.observeSubmit op) h :=
  observeSubmit_stays (keptByCalls_order used) runner op order

theorem reconcileUnknown_ordered (runner : CloudTaskRunner) (order : SubmitOrder used h) :
    StaysOrdered used runner.reconcileUnknown h :=
  reconcileUnknown_stays (keptByCalls_order used) runner order

theorem resolveUnknown_ordered (runner : CloudTaskRunner) (op : CloudSubmitOperationId)
    (resolution : CloudUnknownResolution) (order : SubmitOrder used h) :
    StaysOrdered used (runner.resolveUnknown op resolution) h :=
  resolveUnknown_stays (keptByCalls_order used) runner op resolution order

end

/-! ## Runs of the runner -/

theorem submitOrder_fresh (used : CloudSubmitOperationId → Prop) (env : Nat → Answers) :
    SubmitOrder used (Host.fresh env) where
  valid := by simp [SubmitFileValid, Host.fresh]
  forward := .empty
  written := by simp [Host.fresh]
  used := by simp [Host.fresh, submitRecords]

/-- An identifier is submitted again only while its own record is still in the file. -/
def KeepsRecords (h : Host) : RunnerCall → Prop
  | .submit request _ => Owned request.operationId h.submitFile ∨ Unsubmitted request.operationId h.trace
  | .observeSubmit _ | .reconcileUnknown | .resolveUnknown _ _ => True

theorem SubmitOrder.call {runner : CloudTaskRunner} {h : Host} {call : RunnerCall}
    (order : SubmitOrder (fun _ => True) h) (reported : TasksReported h.env)
    (allowed : KeepsRecords h call) : SubmitOrder (fun _ => True) (call.run runner h) := by
  cases call with
  | submit request cancellation =>
      exact wp_always.mp (submit_ordered runner request cancellation reported order trivial allowed)
  | observeSubmit op => exact wp_always.mp (observeSubmit_ordered runner op order)
  | reconcileUnknown => exact wp_always.mp (reconcileUnknown_ordered runner order)
  | resolveUnknown op resolution =>
      exact wp_always.mp (resolveUnknown_ordered runner op resolution order)

end Codebox.Cloud
