import Codebox.Cloud.CoherentRuns

/-! # Who may read a diff

A diff is read for a finished task only. The authority is an operation and its task; before each
read the runner checks it again against both files.
-/

namespace Codebox.Cloud

open Codebox.Support Proc Codebox.Host

structure DiffEligibleCloudTask where
  operationId : CloudSubmitOperationId
  taskId : CloudTaskId
  deriving Repr, DecidableEq

/-- The failures of the checks on the two records. -/
inductive CloudDiffReadError where
  | ineligibleLifecycle
  | authorityMismatch
  deriving Repr, DecidableEq

/-- The task of a finished operation whose diff may be read. -/
def CloudLifecycle.diffEligible : CloudLifecycle → Option DiffEligibleCloudTask
  | ready op task | applied op task => some ⟨op, task⟩
  | submitting _ | failedBeforeSubmit _ | outcomeUnknown _ | pending _ _ | providerError _ _
  | canceledLocally _ _ _ | abandonedUnknown _ => none

/-- Mint authority for the record in memory. -/
def diffEligibleTask : Proc Process CloudDiffReadError DiffEligibleCloudTask := do
  match (← Proc.get).state.ledger with
  | none => Proc.fail .ineligibleLifecycle
  | some ledger => do
      let lifecycle ← (Proc.ofExcept ledger.lifecycle).mapError fun _ => .authorityMismatch
      match lifecycle.diffEligible with
      | some task => return task
      | none => Proc.fail .ineligibleLifecycle

/-- The first half of the check: the lifecycle record is that of a finished task, and of this one. -/
def requireEligible (task : DiffEligibleCloudTask) (lifecycle : CloudLifecycle) :
    Except CloudDiffReadError Unit :=
  match lifecycle.diffEligible with
  | some current => if current = task then .ok () else .error .authorityMismatch
  | none => .error .ineligibleLifecycle

/-- The second half: the submit record is of the same operation and configuration, and closed with
this task. -/
def CloudTaskRunner.recordsTask (runner : CloudTaskRunner) (task : DiffEligibleCloudTask)
    (submit : CloudSubmitLedger) : Bool :=
  decide (submit.operationId = task.operationId) &&
    submit.matchesConfig runner.environment runner.branch &&
    decide (submit.latest = .taskRecorded ∨ submit.latest = .taskAdopted) &&
    decide (submit.recordedTask = some task.taskId)

def CloudTaskRunner.validateDiffAuthority (runner : CloudTaskRunner) (task : DiffEligibleCloudTask) :
    Proc Host CloudDiffReadError Unit := do
  match ← loadLifecycleLedger.mapError fun _ => .authorityMismatch with
  | none => Proc.fail .ineligibleLifecycle
  | some ledger => do
      let lifecycle ← (Proc.ofExcept ledger.lifecycle).mapError fun _ => .authorityMismatch
      Proc.ofExcept (requireEligible task lifecycle)
      match ← loadCloudLedger.mapError fun _ => .authorityMismatch with
      | none => Proc.fail .authorityMismatch
      | some submit =>
          if runner.recordsTask task submit then return () else Proc.fail .authorityMismatch

/-! ## The two files agree on the task -/

/-- The submit file is of the operation and closed with the task; an adopted one was a candidate. -/
def AgreesOnTask (op : CloudSubmitOperationId) (task : CloudTaskId) (file : Option CloudSubmitLedger) :
    Prop :=
  ∃ submit, file = some submit ∧ submit.operationId = op ∧ submit.taskId = some task ∧
    (submit.latest = .taskRecorded ∨ submit.latest = .taskAdopted ∧ task ∈ submit.candidateTaskIds)

variable {runner : CloudTaskRunner} {env : Nat → Answers} {machine : Machine} {h : Host}
  {ledger : CloudLifecycleLedger} {task : CloudTaskId}

theorem MachineInv.host {decisive : Prop} (inv : MachineInv decisive runner machine) :
    HostInv decisive runner machine.host := by
  cases machine with
  | down host => exact inv
  | up process flight => exact inv.1.host

theorem HostInv.agreesOnTask (inv : HostInv False runner h) (file : h.lifecycleFile = some ledger)
    (named : ledger.taskId = some task) : AgreesOnTask ledger.operationId task h.submitFile := by
  have accounted := inv.accounted file
  have required : ledger.phase.requiresTask = true := by rw [accounted.valid.task, named]; rfl
  obtain ⟨recorded, same, submit, found, own, holds, closed⟩ := accounted.coherent.task required
  cases named.symm.trans same
  obtain ⟨listed, held, candidate⟩ := (inv.tidy submit found).1.named closed
  cases holds.symm.trans held
  exact ⟨submit, found, own, holds, closed.imp_right fun adopted => ⟨adopted, candidate adopted⟩⟩

/-! ## The check -/

/-- From now on the process lives and its files can be read. -/
structure Readable (h : Host) : Prop where
  alive : ∀ time, h.tick ≤ time → (h.env time).crash = false
  read : ∀ time, h.tick ≤ time → (h.env time).read = .readable

theorem Readable.advance (readable : Readable h) : Readable h.advance :=
  ⟨fun time later => readable.alive time (Nat.le_of_succ_le later),
    fun time later => readable.read time (Nat.le_of_succ_le later)⟩

variable {lifecycle : CloudLifecycle} {current authority : DiffEligibleCloudTask}

/-- An authority that passes is the one the lifecycle record stands for, whatever the reads did. -/
theorem validateDiffAuthority_sound (file : h.lifecycleFile = some ledger) (valid : ledger.Valid)
    (shown : ledger.lifecycle = .ok lifecycle) (eligible : lifecycle.diffEligible = some current)
    (passed : (runner.validateDiffAuthority authority h).1 = .ok ()) : authority = current := by
  have spec : (runner.validateDiffAuthority authority).wp (fun _ _ => authority = current) (fun _ _ => True)
      (fun _ => True) h := by
    rw [CloudTaskRunner.validateDiffAuthority, wp_bind, wp_mapError, loadLifecycleLedger,
      wp_bind]
    apply wp_readFile trivial _ trivial trivial
    have file' : h.advance.lifecycleFile = some ledger := file
    simp only [file', CloudLifecycleLedger.validate_eq_ok.mpr valid, shown, wp_bind, wp_mapError,
      wp_ofExcept_ok, wp_pure, requireEligible, eligible]
    split
    · rename_i same
      have held : ∀ (value : Unit) (h' : Host), authority = current := fun _ _ => same.symm
      rw [wp_ofExcept_ok]
      apply wp_any _ (fun _ _ => trivial) (fun _ => trivial)
      exact fun _ _ => wp_any held (fun _ _ => trivial) (fun _ => trivial)
    · trivial
  have ran : runner.validateDiffAuthority authority h =
      (.ok (), (runner.validateDiffAuthority authority h).2) := Prod.ext passed rfl
  have known := wp_ok spec ran
  exact known

/-- The authority a record stands for is its own operation and task. -/
theorem diffEligible_pair (valid : ledger.Valid) (shown : ledger.lifecycle = .ok lifecycle)
    (eligible : lifecycle.diffEligible = some current) :
    ledger.operationId = current.operationId ∧ ledger.taskId = some current.taskId := by
  obtain ⟨projected, same, own, -, task⟩ := valid.lifecycle
  cases shown.symm.trans same
  rw [← own, ← task]
  cases lifecycle <;> cases eligible <;> exact ⟨rfl, rfl⟩

/-- And that one does pass when the files can be read. -/
theorem validateDiffAuthority_passes (inv : HostInv False runner h) (readable : Readable h)
    (file : h.lifecycleFile = some ledger) (shown : ledger.lifecycle = .ok lifecycle)
    (eligible : lifecycle.diffEligible = some current) :
    (runner.validateDiffAuthority current h).1 = .ok () := by
  have accounted := inv.accounted file
  obtain ⟨operation, named⟩ := diffEligible_pair accounted.valid shown eligible
  obtain ⟨submit, found, own, holds, closed⟩ := inv.agreesOnTask file named
  have records : runner.recordsTask current submit = true := by
    have phase : submit.latest = .taskRecorded ∨ submit.latest = .taskAdopted := closed.imp_right And.left
    simp [CloudTaskRunner.recordsTask, own, operation, phase, holds, CloudSubmitLedger.recordedTask,
      inv.configured found]
  have first := loadLifecycleLedger_run (readable.alive _ (Nat.le_refl _)) (readable.read _ (Nat.le_refl _))
    fun other found => (inv.accounted found).valid
  have second := loadCloudLedger_run (readable.advance.alive _ (Nat.le_refl _))
    (readable.advance.read _ (Nat.le_refl _)) (h := h.advance) inv.tidy.valid
  have found' : h.advance.submitFile = some submit := found
  simp only [CloudTaskRunner.validateDiffAuthority, Bind.bind, Proc.bind, Proc.mapError, first, file, shown,
    requireEligible, eligible, if_true, Proc.ofExcept, Proc.pure, second, found', records]
  rfl

/-- In every state a run reaches: a task in the lifecycle file is the one the submit file records for
the same operation, one of its candidates if it was adopted. When the lifecycle file is that of a
finished task, the authority minted for its record passes the check, and no other does. -/
theorem task_agreement_and_diff_authority (reachable : (Machine.system runner env).Reachable machine)
    (file : machine.host.lifecycleFile = some ledger) :
    (∀ task, ledger.taskId = some task →
        AgreesOnTask ledger.operationId task machine.host.submitFile) ∧
      ∀ lifecycle current, ledger.lifecycle = .ok lifecycle → lifecycle.diffEligible = some current →
        (∀ p flight, machine = .up p flight → p.state.ledger = some ledger →
          (diffEligibleTask p).1 = .ok current) ∧
        (Readable machine.host → (runner.validateDiffAuthority current machine.host).1 = .ok ()) ∧
        ∀ authority, (runner.validateDiffAuthority authority machine.host).1 = .ok () →
          authority = current := by
  have inv := (machineInv_reachable False.elim reachable).host
  have valid := (inv.accounted file).valid
  refine ⟨fun task named => inv.agreesOnTask file named, fun lifecycle current shown eligible => ⟨?_, ?_, ?_⟩⟩
  · intro p flight up memory
    simp only [diffEligibleTask, Bind.bind, Proc.bind, Proc.get, memory, shown, Proc.mapError, Proc.ofExcept,
      Proc.pure, eligible]
    rfl
  · intro readable
    exact validateDiffAuthority_passes inv readable file shown eligible
  · intro authority passed
    exact validateDiffAuthority_sound file valid shown eligible passed

/-- A run in which the submitted task turns out ready. -/
theorem ready_task_readable :
    ∃ machine current,
      (Machine.system ⟨⟨[]⟩, ⟨[]⟩⟩ fun _ =>
        { execOutput := some ⟨"task_1".toList, by decide⟩, statusOutput := some .ready }).Reachable machine ∧
      AgreesOnTask current.operationId current.taskId machine.host.submitFile ∧
      (CloudTaskRunner.validateDiffAuthority ⟨⟨[]⟩, ⟨[]⟩⟩ current machine.host).1 = .ok () := by
  let env : Nat → Answers := fun _ =>
    { execOutput := some ⟨"task_1".toList, by decide⟩, statusOutput := some .ready }
  have ran : (Machine.system ⟨⟨[]⟩, ⟨[]⟩⟩ env).run (.down (Host.fresh env))
      [.restart, .startBegin ⟨['p']⟩, .startSubmit, .startCommit, .inspect] = some (.up _ none) := rfl
  have reachable := System.Reachable.run (.initial rfl) ran
  have readable : ∀ h : Host, h.env = env → Readable h := by
    intro h same
    exact ⟨fun time _ => by rw [same], fun time _ => by rw [same]⟩
  have agreement := task_agreement_and_diff_authority reachable rfl
  exact ⟨_, ⟨_, _⟩, reachable, agreement.1 _ rfl, (agreement.2 _ _ rfl rfl).2.1 (readable _ rfl)⟩

end Codebox.Cloud
