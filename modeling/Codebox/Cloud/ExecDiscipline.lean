import Codebox.Cloud.RunnerSteps
import Codebox.Support.Transition

/-! # When the exec command may start

The runner keeps nothing in memory between two calls, so a run of it is a sequence of calls
on one host, each of which may be cut by a crash. The observer's trace orders the starts of
the exec command among the replacements of the submit file. From it follows which operations
are unresolved at each moment, and the file on disk is what keeps the next start away.
-/

namespace Codebox.Cloud

open Codebox.Support Proc Codebox.Login Codebox.Host

/-- What one event does to the list of unresolved operations. A record of an unknown outcome
counts as unresolved even if it follows the record of a task. -/
def unresolvedAfter (open_ : List CloudSubmitOperationId) : HostEvent → List CloudSubmitOperationId
  | .execStarted op => op :: open_
  | .submitWritten ledger =>
      if ledger.latest.settles then open_.filter (· ≠ ledger.operationId)
      else if ledger.latest.isUnknown then ledger.operationId :: open_
      else open_
  | .lifecycleWritten _ | .lifecycleRemoved => open_

/-- The operations whose exec may have started and that no record has settled since. -/
def unresolved (trace : List HostEvent) : List CloudSubmitOperationId :=
  trace.foldl unresolvedAfter []

@[simp] theorem unresolved_concat (trace : List HostEvent) (event : HostEvent) :
    unresolved (trace ++ [event]) = unresolvedAfter (unresolved trace) event := by
  simp [unresolved, List.foldl_append]

/-- Every exec starts when nothing is unresolved and when `may` lets it. -/
def Disciplined (may : List HostEvent → CloudSubmitOperationId → Prop) (trace : List HostEvent) :
    Prop :=
  ∀ before op after, trace = before ++ .execStarted op :: after →
    unresolved before = [] ∧ may before op

section

variable {may : List HostEvent → CloudSubmitOperationId → Prop} {trace : List HostEvent}

theorem Disciplined.concat {event : HostEvent} (disciplined : Disciplined may trace)
    (starts : ∀ op, event = .execStarted op → unresolved trace = [] ∧ may trace op) :
    Disciplined may (trace ++ [event]) := by
  intro before op after split
  rcases List.eq_nil_or_concat after with rfl | ⟨rest, last, rfl⟩
  · obtain ⟨rfl, last⟩ := List.append_inj' split rfl
    exact starts op (List.cons.inj last).1
  · have inner : trace ++ [event] = (before ++ .execStarted op :: rest) ++ [last] := by
      simpa using split
    exact disciplined before op rest (List.append_inj' inner rfl).1

/-- If an exec never starts for an operation that has started before, none starts twice. -/
theorem Disciplined.count_le_one
    (disciplined : Disciplined (fun before op => .execStarted op ∉ before) trace)
    (op : CloudSubmitOperationId) : trace.count (.execStarted op) ≤ 1 := by
  by_cases member : HostEvent.execStarted op ∈ trace
  · -- split at one start; another one would stand before or after it
    obtain ⟨before, after, rfl⟩ := List.append_of_mem member
    have first := (disciplined before op after rfl).2
    have last : HostEvent.execStarted op ∉ after := by
      intro again
      obtain ⟨middle, rest, rfl⟩ := List.append_of_mem again
      have := (disciplined (before ++ .execStarted op :: middle) op rest (by simp)).2
      simp at this
    simp [List.count_append, List.count_eq_zero.mpr first, List.count_eq_zero.mpr last]
  · rw [List.count_eq_zero.mpr member]
    exact Nat.zero_le 1

end

/-! ## The file keeps the discipline -/

/-- A host whose file guards what the trace has left unresolved. -/
structure Guarded (may : List HostEvent → CloudSubmitOperationId → Prop) (h : Host) : Prop where
  valid : SubmitFileValid h
  disciplined : Disciplined may h.trace
  blocked : ∀ op ∈ unresolved h.trace, ∃ ledger, h.submitFile = some ledger ∧
    ledger.operationId = op ∧ ledger.latest.classified.isUnknown = true

variable {runner : CloudTaskRunner}

section

variable {may : List HostEvent → CloudSubmitOperationId → Prop} {h : Host} {ledger : CloudSubmitLedger}
  {op : CloudSubmitOperationId}

theorem Guarded.time (guarded : Guarded may h) (time : Nat) : Guarded may (h.atTime time) :=
  ⟨guarded.valid, guarded.disciplined, guarded.blocked⟩

/-- Replacing the file by a record that settles what is unresolved or keeps blocking it. -/
theorem Guarded.store (guarded : Guarded may h) (valid : ledger.Valid)
    (covers : ∀ op ∈ unresolved h.trace, op = ledger.operationId ∧
      (ledger.latest.settles = true ∨ ledger.latest.classified.isUnknown = true)) :
    Guarded may (storeSubmit ledger h) where
  valid := by
    intro stored found
    cases found
    exact valid
  disciplined := guarded.disciplined.concat nofun
  blocked := by
    intro op member
    simp only [storeSubmit, unresolved_concat, unresolvedAfter] at member
    split at member
    · obtain ⟨inside, other⟩ := List.mem_filter.mp member
      exact absurd (covers op inside).1 (by simpa using other)
    · rename_i unsettled
      refine ⟨ledger, rfl, ?_⟩
      split at member
      · rename_i unknown
        have blocks : ledger.latest.classified.isUnknown = true := by
          cases phase : ledger.latest <;> simp_all [CloudLedgerPhase.classified]
        rcases List.mem_cons.mp member with rfl | inside
        · exact ⟨rfl, blocks⟩
        · exact ⟨(covers op inside).1.symm, blocks⟩
      · obtain ⟨same, settles | blocks⟩ := covers op member
        · exact absurd settles unsettled
        · exact ⟨same.symm, blocks⟩

/-- The start of a child, with its own authorized record on disk. -/
theorem Guarded.exec (guarded : Guarded may h) (current : h.submitFile = some ledger)
    (authorized : ledger.latest = .authorized) (quiet : unresolved h.trace = [])
    (allowed : may h.trace ledger.operationId) :
    Guarded may (recordExec ledger.operationId h) where
  valid := guarded.valid
  disciplined := by
    apply guarded.disciplined.concat
    intro op same
    cases same
    exact ⟨quiet, allowed⟩
  blocked := by
    intro op member
    simp only [recordExec, unresolved_concat, unresolvedAfter, quiet, List.mem_singleton] at member
    subst member
    exact ⟨ledger, current, rfl, by rw [authorized]; rfl⟩

theorem unresolved_store_eq_nil (quiet : unresolved h.trace = [])
    (known : ledger.latest.isUnknown = false) : unresolved (storeSubmit ledger h).trace = [] := by
  simp [storeSubmit, unresolvedAfter, quiet, known]

/-- A record that follows the one in the file. -/
theorem Guarded.follow {next : CloudSubmitLedger} (guarded : Guarded may h)
    (current : h.submitFile = some ledger) (follows : ledger.Follows next) (valid : next.Valid)
    (covers : ledger.latest.classified.isUnknown = true →
      next.latest.settles = true ∨ next.latest.classified.isUnknown = true) :
    Guarded may (storeSubmit next h) := by
  apply guarded.store valid
  intro op member
  obtain ⟨blocking, found, own, unknown⟩ := guarded.blocked op member
  cases current.symm.trans found
  exact ⟨own.symm.trans follows.own.symm, covers unknown⟩

theorem keptByCalls_guarded (may : List HostEvent → CloudSubmitOperationId → Prop) :
    KeptByCalls (Guarded may) where
  valid guarded := guarded.valid
  time time guarded := guarded.time time
  follow guarded := guarded.follow

/-- A guarded host on which nothing is unresolved and the operation may start. -/
structure Free (may : List HostEvent → CloudSubmitOperationId → Prop) (op : CloudSubmitOperationId)
    (h : Host) : Prop where
  guarded : Guarded may h
  quiet : unresolved h.trace = []
  allowed : may h.trace op

theorem Free.store (free : Free may op h) (valid : ledger.Valid) : Guarded may (storeSubmit ledger h) := by
  apply free.guarded.store valid
  intro op member
  simp [free.quiet] at member

theorem Free.claim (free : Free may op h)
    (calm : ∀ before ledger op, may before op → may (before ++ [.submitWritten ledger]) op) (valid : ledger.Valid)
    (known : ledger.latest.isUnknown = false) : Free may op (storeSubmit ledger h) where
  guarded := free.store valid
  quiet := unresolved_store_eq_nil free.quiet known
  allowed := calm _ _ _ free.allowed

theorem keptBySubmit_guarded (op : CloudSubmitOperationId)
    (calm : ∀ before ledger op, may before op → may (before ++ [.submitWritten ledger]) op) :
    KeptBySubmit op (Free may op) (Guarded may) where
  toKeptByCalls := keptByCalls_guarded may
  ofCalm free := free.guarded
  calmTime time free := ⟨free.guarded.time time, free.quiet, free.allowed⟩
  authorize := by
    intro h ledger next free _ appended valid
    apply free.claim calm valid
    obtain ⟨-, -, rfl⟩ := CloudSubmitLedger.append_eq_ok.mp appended
    simp [CloudSubmitLedger.latest]
  unspawned free _ _ valid := free.store valid
  exec := by
    intro h ledger free current authorized own
    subst own
    exact free.guarded.exec current authorized free.quiet free.allowed
  relapse := by
    -- the record of the task settled its operation, so that nothing is unresolved
    intro h recorded closed time guarded current final _ valid own
    apply guarded.store valid
    intro op member
    obtain ⟨blocking, found, -, unknown⟩ := guarded.blocked op member
    cases current.symm.trans found
    simp [final, CloudLedgerPhase.classified] at unknown

/-- A record that lets a submit through blocks nothing. -/
theorem unresolved_of_dispatchExisting (guarded : Guarded may h)
    (recovered : ∀ ledger, h.submitFile = some ledger → Recovered runner ledger)
    (through : CloudTaskRunner.dispatchExisting op h.submitFile = none) : unresolved h.trace = [] := by
  apply List.eq_nil_iff_forall_not_mem.mpr
  intro other member
  obtain ⟨ledger, found, -, unknown⟩ := guarded.blocked other member
  have settled := (recovered ledger found).settled
  have blocks : ledger.latest.isUnknown = true := by
    cases phase : ledger.latest <;> simp_all [CloudLedgerPhase.classified]
  simp [found, CloudTaskRunner.dispatchExisting, blocks] at through

/-- A submit keeps the discipline if its operation may start, or has its record in the file. -/
theorem submit_guarded (runner : CloudTaskRunner) (request : CloudSubmitRequest)
    (cancellation : CloudCancellation) (guarded : Guarded may h)
    (calm : ∀ before ledger op, may before op → may (before ++ [.submitWritten ledger]) op)
    (allowed : Owned request.operationId h.submitFile ∨ may h.trace request.operationId) :
    Stays (Guarded may) (runner.submit request cancellation) h := by
  apply submit_stays runner request (keptBySubmit_guarded _ calm) cancellation guarded
  intro h' classified guarded' recovered through other time
  have before := allowed.resolve_left other
  have after : may h'.trace request.operationId := by
    cases classified with
    | same => exact before
    | closed ledger => exact calm _ _ _ before
  have quiet := unresolved_of_dispatchExisting guarded' recovered through
  have free : Free may request.operationId (h'.atTime time) := ⟨guarded'.time time, quiet, after⟩
  exact free.claim calm (CloudSubmitLedger.new_valid _ _ _) rfl

end

/-! ## Runs of the runner -/

/-- The calls of the runner that touch the submit file. -/
inductive RunnerCall where
  | submit (request : CloudSubmitRequest) (cancellation : CloudCancellation)
  | observeSubmit (operationId : CloudSubmitOperationId)
  | reconcileUnknown
  | resolveUnknown (operationId : CloudSubmitOperationId) (resolution : CloudUnknownResolution)

/-- The host a call leaves behind, whether it returned or was cut by a crash. -/
def RunnerCall.run (runner : CloudTaskRunner) (h : Host) : RunnerCall → Host
  | submit request cancellation => (runner.submit request cancellation h).2
  | observeSubmit op => (runner.observeSubmit op h).2
  | reconcileUnknown => (runner.reconcileUnknown h).2
  | resolveUnknown op resolution => (runner.resolveUnknown op resolution h).2

def runnerSystem (runner : CloudTaskRunner) (env : Nat → Answers) : System Host RunnerCall where
  initial h := h = Host.fresh env
  step h call := some (call.run runner h)

/-- An identifier is submitted again only while its own record is still in the file. -/
def KeepsIdentifiers (h : Host) : RunnerCall → Prop
  | .submit request _ => .execStarted request.operationId ∈ h.trace →
      Owned request.operationId h.submitFile
  | .observeSubmit _ | .reconcileUnknown | .resolveUnknown _ _ => True

theorem guarded_step {may : List HostEvent → CloudSubmitOperationId → Prop} {h : Host} {call : RunnerCall}
    (calm : ∀ before ledger op, may before op → may (before ++ [.submitWritten ledger]) op)
    (allowed : ∀ request cancellation, call = .submit request cancellation →
      Owned request.operationId h.submitFile ∨ may h.trace request.operationId) (guarded : Guarded may h) :
    Guarded may (call.run runner h) := by
  cases call with
  | submit request cancellation =>
      exact wp_always.mp (submit_guarded runner request cancellation guarded calm (allowed _ _ rfl))
  | observeSubmit op => exact wp_always.mp (observeSubmit_stays (keptByCalls_guarded may) runner op guarded)
  | reconcileUnknown => exact wp_always.mp (reconcileUnknown_stays (keptByCalls_guarded may) runner guarded)
  | resolveUnknown op resolution =>
      exact wp_always.mp (resolveUnknown_stays (keptByCalls_guarded may) runner op resolution guarded)

theorem guarded_fresh (may : List HostEvent → CloudSubmitOperationId → Prop) (env : Nat → Answers) :
    Guarded may (Host.fresh env) := by
  refine ⟨nofun, ?_, nofun⟩
  intro before op after empty
  simp [Host.fresh] at empty

/-- In every run, an exec starts only when no earlier one is unresolved; and if identifiers
are not reused after their record is gone, none starts twice. -/
theorem exec_starts_once {runner : CloudTaskRunner} {env : Nat → Answers} {h : Host} :
    ((runnerSystem runner env).Reachable h →
      ∀ before op after, h.trace = before ++ .execStarted op :: after → unresolved before = []) ∧
    ((runnerSystem runner env).Reach KeepsIdentifiers h →
      ∀ op, h.trace.count (.execStarted op) ≤ 1) := by
  constructor
  · intro reachable before op after split
    have guarded : Guarded (fun _ _ => True) h := by
      apply System.Reach.invariant reachable
      · intro start begins
        exact begins ▸ guarded_fresh _ env
      · intro s call s' _ guarded _ stepped
        cases stepped
        exact guarded_step (fun _ _ _ => id) (fun _ _ _ => .inr trivial) guarded
    exact (guarded.disciplined before op after split).1
  · intro reach op
    have guarded : Guarded (fun before op => .execStarted op ∉ before) h := by
      apply System.Reach.invariant reach
      · intro start begins
        exact begins ▸ guarded_fresh _ env
      · intro s call s' _ guarded kept stepped
        cases stepped
        apply guarded_step _ _ guarded
        · intro before ledger op new
          simpa using new
        · intro request cancellation same
          subst same
          by_cases started : HostEvent.execStarted request.operationId ∈ s.trace
          · exact .inl (kept started)
          · exact .inr started
    exact guarded.disciplined.count_le_one op

/-- Submitting an identifier twice in a row meets the condition and executes once. -/
theorem repeated_submit_executes_once :
    ∃ h, (runnerSystem ⟨⟨[]⟩, ⟨[]⟩⟩ fun _ => { execOutput := some ⟨"task_1".toList, by decide⟩ }).Reach
        KeepsIdentifiers h ∧
      h.trace.count (.execStarted ⟨1, by decide⟩) = 1 ∧
      ∀ op, h.trace.count (.execStarted op) ≤ 1 := by
  let env : Nat → Answers := fun _ => { execOutput := some ⟨"task_1".toList, by decide⟩ }
  let call : RunnerCall := .submit ⟨⟨1, by decide⟩, ⟨['p']⟩⟩ {}
  have first : (runnerSystem ⟨⟨[]⟩, ⟨[]⟩⟩ env).Reach KeepsIdentifiers
      (call.run ⟨⟨[]⟩, ⟨[]⟩⟩ (Host.fresh env)) := .step (.initial rfl) (by simp [call, KeepsIdentifiers, Host.fresh]) rfl
  have kept : KeepsIdentifiers (call.run ⟨⟨[]⟩, ⟨[]⟩⟩ (Host.fresh env)) call := by
    intro _
    exact ⟨_, rfl, rfl⟩
  have second : (runnerSystem ⟨⟨[]⟩, ⟨[]⟩⟩ env).Reach KeepsIdentifiers
      (call.run ⟨⟨[]⟩, ⟨[]⟩⟩ (call.run ⟨⟨[]⟩, ⟨[]⟩⟩ (Host.fresh env))) := .step first kept rfl
  exact ⟨_, second, by decide, exec_starts_once.2 second⟩

/-- Two operations in turn, then the first identifier again: its record is gone, so nothing
stops a second exec of it. -/
theorem reused_identifier_executes_twice :
    ∃ h, (runnerSystem ⟨⟨[]⟩, ⟨[]⟩⟩ fun _ => { execOutput := some ⟨"task_1".toList, by decide⟩ }).Reachable
        h ∧ h.trace.count (.execStarted ⟨1, by decide⟩) = 2 := by
  let env : Nat → Answers := fun _ => { execOutput := some ⟨"task_1".toList, by decide⟩ }
  have ran : (runnerSystem ⟨⟨[]⟩, ⟨[]⟩⟩ env).run (Host.fresh env)
      [.submit ⟨⟨1, by decide⟩, ⟨['p']⟩⟩ {}, .submit ⟨⟨2, by decide⟩, ⟨['q']⟩⟩ {},
        .submit ⟨⟨1, by decide⟩, ⟨['p']⟩⟩ {}] = some _ := rfl
  exact ⟨_, .run (.initial rfl) ran, by decide⟩

end Codebox.Cloud
