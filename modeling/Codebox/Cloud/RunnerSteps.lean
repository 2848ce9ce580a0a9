import Codebox.Cloud.SubmitOutcome

/-! # What the runner does to the submit file

A call of the runner takes its record from the file, and then time passes, a record that follows
from the one in the file is stored, or the child is started. So an invariant of the host is kept by
every call if it is kept by these steps. Before the child is started the file is calm: what is
stored then is the claim of a new operation, and a child that was not started can be recorded as
such. The one record that does not follow from the file is that of an unknown outcome after a failed
write of the task: it is computed from the copy before.
-/

namespace Codebox.Cloud

open Codebox.Support Proc Codebox.Login Codebox.Host

/-- The phases that settle an operation whose child may have run. -/
def CloudLedgerPhase.settles : CloudLedgerPhase → Bool
  | taskRecorded | taskAdopted | explicitlyAbandoned => true
  | intent | authorized | started | failedBeforeSpawn | outcomeUnknown
  | reconciliationObserved => false

/-! ## Records that extend one another -/

/-- A record after another one of the same operation. -/
structure CloudSubmitLedger.Extends (earlier later : CloudSubmitLedger) : Prop where
  history : earlier.history <+: later.history
  task : ∀ task, earlier.taskId = some task → later.taskId = some task

instance : Std.Refl CloudSubmitLedger.Extends :=
  ⟨fun _ => ⟨List.prefix_rfl, fun _ => id⟩⟩

instance : IsTrans CloudSubmitLedger CloudSubmitLedger.Extends :=
  ⟨fun _ _ _ first second => ⟨first.history.trans second.history,
    fun task named => second.task task (first.task task named)⟩⟩

namespace CloudSubmitLedger

variable {ledger next : CloudSubmitLedger}

/-- The record that follows another one of the same operation. -/
structure Follows (ledger next : CloudSubmitLedger) : Prop where
  own : next.operationId = ledger.operationId
  extends_ : ledger.Extends next

theorem follows_append {phase : CloudLedgerPhase} (appended : ledger.append phase = .ok next) :
    ledger.Follows next := by
  obtain ⟨-, -, rfl⟩ := append_eq_ok.mp appended
  exact ⟨rfl, List.prefix_append _ _, fun _ => id⟩

theorem follows_classify (ledger : CloudSubmitLedger) : ledger.Follows ledger.classify :=
  ⟨rfl, List.prefix_append _ _, fun _ => id⟩

theorem follows_recordStarted {process : ProcessIdentity}
    (recorded : ledger.recordStarted process = .ok next) : ledger.Follows next := by
  unfold recordStarted at recorded
  split at recorded
  · cases recorded
  · obtain ⟨-, -, rfl⟩ := append_eq_ok.mp recorded
    exact ⟨rfl, List.prefix_append _ _, fun _ => id⟩

theorem follows_recordTask {task : CloudTaskId} (recorded : ledger.recordTask task = .ok next) :
    ledger.Follows next := by
  unfold recordTask at recorded
  split at recorded
  · cases recorded
  · rename_i unnamed
    obtain ⟨-, -, rfl⟩ := append_eq_ok.mp recorded
    refine ⟨rfl, List.prefix_append _ _, ?_⟩
    intro other named
    simp [named] at unnamed

theorem follows_recordReconciliation {tasks : List CloudTaskId} {complete : Bool}
    (recorded : ledger.recordReconciliation tasks complete = .ok next) : ledger.Follows next := by
  obtain ⟨-, -, -, -, rfl⟩ := recordReconciliation_eq_ok.mp recorded
  exact ⟨rfl, List.prefix_append _ _, fun _ => id⟩

theorem follows_recordResolution {resolution : CloudUnknownResolution}
    (recorded : ledger.recordResolution resolution = .ok next) : ledger.Follows next := by
  cases resolution with
  | adoptListedTask task =>
      obtain ⟨-, unnamed, -, -, rfl⟩ := recordAdoptedTask_eq_ok.mp recorded
      refine ⟨rfl, List.prefix_append _ _, ?_⟩
      intro other named
      simp [named] at unnamed
  | explicitlyAbandon =>
      obtain ⟨-, -, -, rfl⟩ := recordExplicitlyAbandoned_eq_ok.mp recorded
      exact ⟨rfl, List.prefix_append _ _, fun _ => id⟩

end CloudSubmitLedger

/-! ## Invariants of the steps -/

/-- The steps that every call is made of. A record that follows another one keeps blocking the next
operation if that one does, or settles its own. -/
structure KeptByCalls (inv : Host → Prop) : Prop where
  valid : ∀ {h}, inv h → SubmitFileValid h
  time : ∀ {h} (time : Nat), inv h → inv (h.atTime time)
  follow : ∀ {h ledger next}, inv h → h.submitFile = some ledger → ledger.Follows next → next.Valid →
    (ledger.latest.classified.isUnknown = true →
      next.latest.settles = true ∨ next.latest.classified.isUnknown = true) → inv (storeSubmit next h)

/-- The steps of a submit beside those, from the claim of the operation on. -/
structure KeptBySubmit (op : CloudSubmitOperationId) (calm inv : Host → Prop) : Prop
    extends KeptByCalls inv where
  ofCalm : ∀ {h}, calm h → inv h
  calmTime : ∀ {h} (time : Nat), calm h → calm (h.atTime time)
  authorize : ∀ {h ledger next}, calm h → h.submitFile = some ledger →
    ledger.append .authorized = .ok next → next.Valid → calm (storeSubmit next h)
  unspawned : ∀ {h ledger next}, calm h → h.submitFile = some ledger →
    ledger.append .failedBeforeSpawn = .ok next → next.Valid → inv (storeSubmit next h)
  exec : ∀ {h ledger}, calm h → h.submitFile = some ledger → ledger.latest = .authorized →
    ledger.operationId = op → inv (recordExec op h)
  relapse : ∀ {h recorded closed time}, inv h → h.submitFile = some recorded →
    recorded.latest = .taskRecorded → (h.env time).writeSubmit recorded = .storedUnsynced →
    closed.Valid → closed.operationId = recorded.operationId → inv (storeSubmit closed h)

/-- Every outcome keeps the invariant. -/
def Stays (inv : Host → Prop) {α : Type} (p : RunnerProc α) (h : Host) : Prop :=
  p.wp (fun _ => inv) (fun _ => inv) inv h

variable {α : Type}

section

variable {inv : Host → Prop} {h : Host} {ledger next : CloudSubmitLedger} {onOk : Unit → Host → Prop}

/-- A procedure that only reads, with the rest of the call behind it. -/
theorem KeptByCalls.reads {plain : CloudRunnerError → Prop} {p : RunnerProc α} {onOk : α → Host → Prop}
    (kept : KeptByCalls inv) (reads : ReadOnly plain p) (holds : inv h)
    (next : ∀ value time, onOk value (h.atTime time)) : p.wp onOk (fun _ => inv) inv h := by
  apply reads.wp
  · intro value time _
    exact next value time
  · intro _ time _ _
    exact kept.time time holds
  · intro time _
    exact kept.time time holds

/-- A write of a record in its place, whatever becomes of it. -/
theorem wp_storedInPlace (valid : next.Valid) (untouched : inv h.advance) (placed : inv (storeSubmit next h.advance))
    (stored : onOk () (storeSubmit next h.advance)) : (persistCloudLedger next).wp onOk (fun _ => inv) inv h := by
  apply wp_persistCloudLedger valid untouched
  · intro _
    exact stored
  · intro _ _ _
    exact placed
  · intro _ _ _
    exact untouched

section

variable (kept : KeptByCalls inv)

include kept

/-- The record that follows the one in the file. -/
theorem KeptByCalls.stores (holds : inv h) (current : h.submitFile = some ledger) (follows : ledger.Follows next)
    (valid : next.Valid) (covers : ledger.latest.classified.isUnknown = true →
      next.latest.settles = true ∨ next.latest.classified.isUnknown = true)
    (stored : inv (storeSubmit next h.advance) → onOk () (storeSubmit next h.advance)) :
    (persistCloudLedger next).wp onOk (fun _ => inv) inv h := by
  have untouched : inv h.advance := kept.time _ holds
  have placed := kept.follow untouched current follows valid covers
  exact wp_storedInPlace valid untouched placed (stored placed)

theorem KeptByCalls.classified {h' : Host} (holds : inv h) (classified : Classified h h') : inv h' := by
  cases classified with
  | same time _ => exact kept.time time holds
  | closed ledger time _ current unfinished =>
      apply kept.follow (kept.time time holds) current ledger.follows_classify
        ((kept.valid holds ledger current).classify unfinished)
      intro unknown
      rw [CloudSubmitLedger.latest_classify]
      cases phase : ledger.latest <;> simp_all [CloudLedgerPhase.classified]

/-- Every public call classifies the file first. -/
theorem KeptByCalls.recovered {rest : Option CloudSubmitLedger → RunnerProc α} {runner : CloudTaskRunner}
    (holds : inv h) (continues : ∀ h', Classified h h' → inv h' →
      (∀ ledger, h'.submitFile = some ledger → Recovered runner ledger) → Stays inv (rest h'.submitFile) h') :
    Stays inv (do
      acquireScope
      let found ← runner.recoverCurrentLedger
      rest found) h := by
  apply recovered_spec runner (kept.valid holds)
  · intro _ _ _ classified
    exact kept.classified holds classified
  · intro _ classified
    exact kept.classified holds classified
  · intro h' classified recovered
    exact continues h' classified (kept.classified holds classified) recovered

/-! ## The calls that do not submit -/

theorem observeSubmit_stays (runner : CloudTaskRunner) (op : CloudSubmitOperationId) (holds : inv h) :
    Stays inv (runner.observeSubmit op) h := by
  apply kept.recovered holds
  intro h' _ after _
  cases CloudTaskRunner.classifyObservation op h'.submitFile <;> exact after

theorem reconcileUnknown_stays (runner : CloudTaskRunner) (holds : inv h) : Stays inv runner.reconcileUnknown h := by
  apply wp_reconcileUnknown runner (kept.valid holds) (fun _ _ => kept.classified holds)
    (fun _ => kept.classified holds)
  intro h' ledger next tasks complete classified current _ _ recorded valid
  have before : inv h'.advance := kept.time _ (kept.classified holds classified)
  have follows := CloudSubmitLedger.follows_recordReconciliation recorded
  obtain ⟨-, -, -, -, rfl⟩ := CloudSubmitLedger.recordReconciliation_eq_ok.mp recorded
  have placed := kept.follow before current follows valid fun _ =>
    .inr (by simp [CloudSubmitLedger.latest, CloudLedgerPhase.classified])
  exact ⟨placed, fun _ => placed⟩

theorem resolveUnknown_stays (runner : CloudTaskRunner) (op : CloudSubmitOperationId)
    (resolution : CloudUnknownResolution) (holds : inv h) : Stays inv (runner.resolveUnknown op resolution) h := by
  apply wp_resolveUnknown runner op resolution (kept.valid holds) (fun _ _ => kept.classified holds)
    (fun _ => kept.classified holds)
  · intro h' _ classified _ _ _
    exact kept.classified holds classified
  · intro h' submit next classified current sound _ recorded
    have before : inv h'.advance := kept.time _ (kept.classified holds classified)
    -- whichever decision it is, its record settles the operation of the one in the file
    have settles : next.latest.settles = true := by
      have took := (took_recordResolution recorded).2
      cases resolution with
      | adoptListedTask task => rw [took.1]; rfl
      | explicitlyAbandon => rw [show next.latest = _ from took]; rfl
    have placed := kept.follow before current (CloudSubmitLedger.follows_recordResolution recorded)
      (sound.recordResolution recorded) fun _ => .inl settles
    exact ⟨placed, fun _ => placed⟩

end

end

/-! ## A submit -/

section

variable {op : CloudSubmitOperationId} {calm inv : Host → Prop} {h : Host} {ledger : CloudSubmitLedger}

theorem failBeforeSpawn_stays (kept : KeptBySubmit op calm inv) (error : CloudRunnerError) (quiet : calm h)
    (current : h.submitFile = some ledger) :
    Stays inv (CloudTaskRunner.failBeforeSpawn ledger error : RunnerProc α) h := by
  unfold Stays
  rw [CloudTaskRunner.failBeforeSpawn, wp_bind]
  cases appended : ledger.append .failedBeforeSpawn with
  | error _ => exact kept.ofCalm quiet
  | ok closed =>
      have valid := (kept.valid (kept.ofCalm quiet) ledger current).append (by simp) appended
      have placed := kept.unspawned (kept.calmTime (h.tick + 1) quiet) current appended valid
      rw [wp_ofExcept_ok, wp_bind]
      exact wp_storedInPlace valid (kept.time _ (kept.ofCalm quiet)) placed placed

/-- The unknown outcome of an operation, where it may be recorded. -/
theorem persistUnknown_stays (kept : KeptByCalls inv) (holds : inv h)
    (known : ledger.latest.isUnknown = false)
    (place : ∀ closed, ledger.append .outcomeUnknown = .ok closed →
      closed.Valid ∧ inv (storeSubmit closed h.advance)) :
    Stays inv (CloudTaskRunner.persistUnknown ledger) h := by
  unfold Stays
  rw [CloudTaskRunner.persistUnknown]
  simp only [known, Bool.false_eq_true, if_false, wp_bind, wp_mapError]
  cases appended : ledger.append .outcomeUnknown with
  | error _ => exact holds
  | ok closed =>
      obtain ⟨valid, placed⟩ := place closed appended
      rw [wp_ofExcept_ok]
      exact wp_storedInPlace valid (kept.time _ holds) placed placed

/-- The unknown outcome follows the record in the file. -/
theorem KeptByCalls.unknown (kept : KeptByCalls inv) (holds : inv h) (current : h.submitFile = some ledger)
    {closed : CloudSubmitLedger} (appended : ledger.append .outcomeUnknown = .ok closed) :
    closed.Valid ∧ inv (storeSubmit closed h.advance) := by
  have valid := (kept.valid holds ledger current).append (by simp) appended
  refine ⟨valid, kept.follow (kept.time _ holds) current (CloudSubmitLedger.follows_append appended) valid ?_⟩
  intro _
  obtain ⟨-, -, rfl⟩ := CloudSubmitLedger.append_eq_ok.mp appended
  exact .inr (by simp [CloudSubmitLedger.latest, CloudLedgerPhase.classified])

theorem failUnknown_stays (kept : KeptByCalls inv) (holds : inv h) (current : h.submitFile = some ledger)
    (known : ledger.latest.isUnknown = false) : Stays inv (CloudTaskRunner.failUnknown ledger : RunnerProc α) h := by
  unfold Stays
  rw [CloudTaskRunner.failUnknown, wp_bind]
  exact persistUnknown_stays kept holds known fun _ => kept.unknown holds current

theorem recordSubmission_stays (kept : KeptBySubmit op calm inv) (task : CloudTaskId) (holds : inv h)
    (current : h.submitFile = some ledger) (known : ledger.latest.isUnknown = false) :
    Stays inv (CloudTaskRunner.recordSubmission ledger task) h := by
  unfold Stays
  rw [CloudTaskRunner.recordSubmission, wp_bind]
  have sound := kept.valid holds ledger current
  cases recorded : ledger.recordTask task with
  | error error => exact holds
  | ok next =>
      have valid := sound.recordTask recorded
      have follows := CloudSubmitLedger.follows_recordTask recorded
      have final : next.latest = .taskRecorded := by
        unfold CloudSubmitLedger.recordTask at recorded
        split at recorded
        · cases recorded
        · obtain ⟨-, -, rfl⟩ := CloudSubmitLedger.append_eq_ok.mp recorded
          simp [CloudSubmitLedger.latest]
      have untouched : inv h.advance := kept.time _ holds
      have placed : inv (storeSubmit next h.advance) := by
        apply kept.follow untouched current follows valid
        intro _
        exact .inl (by rw [final]; rfl)
      simp only [wp_ofExcept_ok, wp_bind, wp_attempt]
      apply wp_persistCloudLedger valid untouched
      · intro _
        exact placed
      · -- the task is on disk although its write failed; the unknown outcome replaces it
        intro _ _ unsynced
        apply wp_mono (persistUnknown_stays kept.toKeptByCalls placed known ?_) (fun _ _ => id)
          (fun _ _ => id) (fun _ => id)
        intro closed appended
        have closedValid := sound.append (by simp) appended
        refine ⟨closedValid, kept.relapse (kept.time _ placed) rfl final unsynced closedValid ?_⟩
        rw [(CloudSubmitLedger.follows_append appended).own, follows.own]
      · intro _ _ _
        exact wp_mono (persistUnknown_stays kept.toKeptByCalls untouched known
          fun _ => kept.unknown untouched current) (fun _ _ => id) (fun _ _ => id) (fun _ => id)

theorem superviseSubmit_stays (kept : KeptBySubmit op calm inv) (process : ProcessIdentity)
    (cancellation : CloudCancellation) (holds : inv h) (current : h.submitFile = some ledger) :
    Stays inv (CloudTaskRunner.superviseSubmit ledger process cancellation) h := by
  unfold Stays
  rw [CloudTaskRunner.superviseSubmit, wp_bind]
  cases recorded : ledger.recordStarted process with
  | error error => exact holds
  | ok started =>
      have valid := (kept.valid holds ledger current).recordStarted recorded
      have phase : started.latest = .started := by
        unfold CloudSubmitLedger.recordStarted at recorded
        split at recorded
        · cases recorded
        · obtain ⟨-, -, rfl⟩ := CloudSubmitLedger.append_eq_ok.mp recorded
          simp [CloudSubmitLedger.latest]
      have known : started.latest.isUnknown = false := by rw [phase]; rfl
      simp only [wp_ofExcept_ok, wp_bind, wp_attempt]
      apply kept.stores holds current (CloudSubmitLedger.follows_recordStarted recorded) valid
      · intro _
        exact .inr (by rw [phase]; rfl)
      · intro running
        have closing : ∀ time, Stays inv (CloudTaskRunner.failUnknown started : RunnerProc CloudSubmission)
            ((storeSubmit started h.advance).atTime time) := fun time =>
          failUnknown_stays kept.toKeptByCalls (kept.time time running) rfl known
        apply (readOnly_wait cancellation _).wp
        · intro completion time _
          rcases completion with ⟨_ | _ | _, _ | task⟩
          · exact closing time
          · exact recordSubmission_stays kept task (kept.time time running) rfl known
          all_goals exact closing time
        · intro _ time _ _
          exact closing time
        · intro time _
          exact kept.time time running

theorem executeSubmit_stays (kept : KeptBySubmit op calm inv) (cancellation : CloudCancellation)
    (quiet : calm h) (current : h.submitFile = some ledger) (authorized : ledger.latest = .authorized)
    (own : ledger.operationId = op) :
    Stays inv (CloudTaskRunner.executeSubmit ledger cancellation) h := by
  have known : ledger.latest.isUnknown = false := by rw [authorized]; rfl
  unfold Stays
  rw [CloudTaskRunner.executeSubmit, wp_bind]
  apply kept.reads (readOnly_isCancelled cancellation) (kept.ofCalm quiet)
  intro cancelled time
  cases cancelled with
  | true => exact failUnknown_stays kept.toKeptByCalls (kept.time time (kept.ofCalm quiet)) current known
  | false =>
      simp only [Bool.false_eq_true, if_false, wp_bind, wp_attempt]
      have still : calm (h.atTime time).advance := kept.calmTime _ (kept.calmTime time quiet)
      have running : inv (recordExec ledger.operationId (h.atTime time).advance) := by
        rw [own]
        exact kept.exec still current authorized own
      apply wp_startCommand (kept.ofCalm still)
      · intro process
        exact superviseSubmit_stays kept process cancellation running current
      · intro failure started
        simp only [started, if_true]
        exact failUnknown_stays kept.toKeptByCalls running current known
      · intro failure unstarted
        simp only [unstarted, Bool.false_eq_true, if_false]
        exact failBeforeSpawn_stays kept _ still current

/-- A submit that owns the slot, once its claim leaves the file calm. -/
theorem freshSubmit_stays (runner : CloudTaskRunner) (request : CloudSubmitRequest)
    (kept : KeptBySubmit request.operationId calm inv) (cancellation : CloudCancellation) (holds : inv h)
    (begins : ∀ time, calm (storeSubmit (CloudSubmitLedger.new request.operationId runner.environment
      runner.branch) (h.atTime time))) :
    Stays inv (runner.freshSubmit request cancellation) h := by
  let intent := CloudSubmitLedger.new request.operationId runner.environment runner.branch
  have intentValid : intent.Valid := CloudSubmitLedger.new_valid _ _ _
  unfold Stays
  rw [CloudTaskRunner.freshSubmit, wp_bind]
  apply kept.reads readOnly_verifyVersion holds
  intro _ time
  rw [wp_bind]
  have claimed : calm (storeSubmit intent (h.atTime time).advance) := begins (time + 1)
  apply wp_storedInPlace intentValid (kept.time (time + 1) holds) (kept.ofCalm claimed)
  have later : ∀ time', calm ((storeSubmit intent (h.atTime time).advance).atTime time') :=
    fun time' => kept.calmTime time' claimed
  have closing : ∀ time' error, Stays inv
      (CloudTaskRunner.failBeforeSpawn intent error : RunnerProc CloudSubmission)
      ((storeSubmit intent (h.atTime time).advance).atTime time') :=
    fun time' error => failBeforeSpawn_stays kept error (later time') rfl
  rw [wp_bind]
  apply kept.reads (readOnly_isCancelled cancellation) (kept.ofCalm claimed)
  intro cancelled time'
  cases cancelled with
  | true => exact closing time' _
  | false =>
      simp only [Bool.false_eq_true, if_false, wp_bind, wp_attempt]
      apply readOnly_authorizeLogin.wp
      · intro _ time'' _
        apply readOnly_ensureDiagnosticSentinel.wp
        · intro _ last _
          let authorized : CloudSubmitLedger := { intent with history := [.intent, .authorized] }
          have authorize : intent.append .authorized = .ok authorized := rfl
          have valid := intentValid.append (by simp) authorize
          rw [authorize, wp_ofExcept_ok]
          have ready := kept.authorize (later (last + 1)) rfl authorize valid
          apply wp_storedInPlace (h := (storeSubmit intent (h.atTime time).advance).atTime last) valid
            (kept.ofCalm (later (last + 1))) (kept.ofCalm ready)
          exact executeSubmit_stays kept cancellation ready rfl rfl rfl
        · intro _ last _ _
          exact closing last _
        · intro last _
          exact kept.ofCalm (later last)
      · intro _ time'' _ _
        exact closing time'' _
      · intro time'' _
        exact kept.ofCalm (later time'')

/-- A record of the operation itself is never passed by. -/
theorem dispatchExisting_not_owned {op : CloudSubmitOperationId} {file : Option CloudSubmitLedger}
    (through : CloudTaskRunner.dispatchExisting op file = none) : ¬ Owned op file := by
  intro owned
  obtain ⟨ledger, found, own⟩ := owned
  cases phase : ledger.latest <;>
    simp [found, CloudTaskRunner.dispatchExisting, own, phase] at through

/-- A submit keeps the invariant if its operation has its record in the file, or a claim of it leaves
the file calm. -/
theorem submit_stays (runner : CloudTaskRunner) (request : CloudSubmitRequest)
    (kept : KeptBySubmit request.operationId calm inv) (cancellation : CloudCancellation) (holds : inv h)
    (begins : ∀ h', Classified h h' → inv h' →
      (∀ ledger, h'.submitFile = some ledger → Recovered runner ledger) →
      CloudTaskRunner.dispatchExisting request.operationId h'.submitFile = none →
      ¬ Owned request.operationId h.submitFile →
      ∀ time, calm (storeSubmit (CloudSubmitLedger.new request.operationId runner.environment
        runner.branch) (h'.atTime time))) :
    Stays inv (runner.submit request cancellation) h := by
  apply kept.recovered holds
  intro h' classified after recovered
  unfold Stays
  cases through : CloudTaskRunner.dispatchExisting request.operationId h'.submitFile with
  | some result => cases result <;> exact after
  | none =>
      have other := dispatchExisting_not_owned through
      exact freshSubmit_stays runner request kept cancellation after
        (begins h' classified after recovered through fun owned => other (classified.owned.mpr owned))

end

end Codebox.Cloud
