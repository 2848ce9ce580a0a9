import Codebox.Cloud.Orchestrator
import Codebox.Support.Replace
import Codebox.Support.Transition

/-! # Writing the ledgers

The three ledger writers on the state directory itself. Each checks its record, then replaces its
file through a temporary one. They differ in the temporary name and in what they do with the
temporary file after an error: the login ledger and the submit ledger name it after the operation,
the lifecycle ledger draws a random name; the login ledger never removes it. The rest of the model
writes a ledger in one effect of the host, which the writers refine.
-/

namespace Codebox.Persist

open Codebox.Support Proc Codebox.Login Codebox.Cloud

inductive StateFile where
  | loginLedger
  | loginTemporary (operationId : LoginOperationId)
  | cloudSubmitLedger
  | cloudSubmitTemporary (operationId : CloudSubmitOperationId)
  | cloudLifecycle
  | lifecycleTemporary (uuid : Nat)
  deriving Repr, DecidableEq

/-- The state directory. Random names are modelled as ones never handed out before. -/
structure StateDir where
  files : Directory StateFile UInt8
  issued : Nat

/-- The bytes of the serializer. -/
structure Encoding where
  login : LoginLedger → List UInt8
  submit : CloudSubmitLedger → List UInt8
  lifecycle : CloudLifecycleLedger → List UInt8

/-- All three ledgers have the same limit. -/
def maxLedgerBytes : Nat := 64 * 1024

def errorAs {ε : Type} (invalid unavailable : ε) : FileError → ε
  | .invalid => invalid
  | .unavailable => unavailable

/-- Check a record and its size, then replace the file. -/
def checked {ε : Type} (valid : Except ε Unit) (bytes : List UInt8) (invalid unavailable : ε)
    (replace : Proc StateDir FileError Unit) : Proc StateDir ε Unit := do
  Proc.ofExcept valid
  if maxLedgerBytes < bytes.length then Proc.fail invalid
  else replace.mapError (errorAs invalid unavailable)

def onFiles (p : Proc (Directory StateFile UInt8) FileError Unit) : Proc StateDir FileError Unit :=
  p.on StateDir.files fun dir files => { dir with files := files }

section

variable (json : Encoding) (faults : Faults)

def persistLedger (ledger : LoginLedger) : Proc StateDir LoginBrokerError Unit :=
  checked ledger.validate (json.login ledger) .ledgerInvalid .ledgerUnavailable
    (onFiles (Directory.replace faults (.loginTemporary ledger.operationId) .loginLedger (json.login ledger)))

def persistCloudLedger (ledger : CloudSubmitLedger) : Proc StateDir CloudRunnerError Unit :=
  checked ledger.validate (json.submit ledger) CloudSubmitLedger.ledgerInvalid ⟨.ledgerUnavailable, none⟩
    (onFiles (Directory.replaceOrClean faults (.cloudSubmitTemporary ledger.operationId)
      .cloudSubmitLedger (json.submit ledger)))

def newTemporaryName : Proc StateDir FileError Nat := fun dir =>
  (.ok dir.issued, { dir with issued := dir.issued + 1 })

def persistLifecycleLedger (ledger : CloudLifecycleLedger) : Proc StateDir CloudLifecycleError Unit :=
  checked ledger.validate (json.lifecycle ledger) CloudLifecycleLedger.invalidLedger
    CloudLifecycleLedger.unavailableLedger do
      let uuid ← newTemporaryName
      onFiles (Directory.replaceOrClean faults (.lifecycleTemporary uuid) .cloudLifecycle
        (json.lifecycle ledger))

end

/-! ## One call of a writer -/

inductive LedgerRecord where
  | login (ledger : LoginLedger)
  | submit (ledger : CloudSubmitLedger)
  | lifecycle (ledger : CloudLifecycleLedger)
  deriving Repr, DecidableEq

/-- The operation a record is about, and with it the writer. -/
inductive Operation where
  | login (operationId : LoginOperationId)
  | submit (operationId : CloudSubmitOperationId)
  | lifecycle (operationId : CloudSubmitOperationId)
  deriving Repr, DecidableEq

namespace LedgerRecord

def operation : LedgerRecord → Operation
  | login ledger => .login ledger.operationId
  | submit ledger => .submit ledger.operationId
  | lifecycle ledger => .lifecycle ledger.operationId

def final : LedgerRecord → StateFile
  | login _ => .loginLedger
  | submit _ => .cloudSubmitLedger
  | lifecycle _ => .cloudLifecycle

def Valid : LedgerRecord → Prop
  | login ledger => ledger.Valid
  | submit ledger => ledger.Valid
  | lifecycle ledger => ledger.Valid

def bytes (json : Encoding) : LedgerRecord → List UInt8
  | login ledger => json.login ledger
  | submit ledger => json.submit ledger
  | lifecycle ledger => json.lifecycle ledger

/-- The temporary file its writer creates. -/
def temporary (dir : StateDir) : LedgerRecord → StateFile
  | login ledger => .loginTemporary ledger.operationId
  | submit ledger => .cloudSubmitTemporary ledger.operationId
  | lifecycle _ => .lifecycleTemporary dir.issued

/-- The record passes the checks its writer makes before it touches a file. -/
def Storable (json : Encoding) (record : LedgerRecord) : Prop :=
  record.Valid ∧ (record.bytes json).length ≤ maxLedgerBytes

/-- The faults leave behind a temporary file that the next write of the operation needs. A random
name is never needed again. -/
def strands (faults : Faults) : LedgerRecord → Bool
  | login _ => faults.strands
  | submit _ => faults.strands && !faults.cleans
  | lifecycle _ => false

end LedgerRecord

inductive WriterError where
  | login (error : LoginBrokerError)
  | submit (error : CloudRunnerError)
  | lifecycle (error : CloudLifecycleError)
  deriving Repr, DecidableEq

/-- A call of the writer of a record. -/
def write (json : Encoding) (faults : Faults) : LedgerRecord → Proc StateDir WriterError Unit
  | .login ledger => (persistLedger json faults ledger).mapError .login
  | .submit ledger => (persistCloudLedger json faults ledger).mapError .submit
  | .lifecycle ledger => (persistLifecycleLedger json faults ledger).mapError .lifecycle

/-- The call with its error forgotten. -/
def persist (json : Encoding) (faults : Faults) : LedgerRecord → Proc StateDir Unit Unit
  | .login ledger => (persistLedger json faults ledger).mapError fun _ => ()
  | .submit ledger => (persistCloudLedger json faults ledger).mapError fun _ => ()
  | .lifecycle ledger => (persistLifecycleLedger json faults ledger).mapError fun _ => ()

/-- No temporary file is in the way of any writer. -/
structure Clean (dir : StateDir) : Prop where
  login : ∀ op, dir.files (.loginTemporary op) = none
  submit : ∀ op, dir.files (.cloudSubmitTemporary op) = none
  lifecycle : ∀ uuid, dir.issued ≤ uuid → dir.files (.lifecycleTemporary uuid) = none

/-- The temporary file that a write of the operation creates is there already. -/
def Operation.BlockedIn (dir : StateDir) : Operation → Prop
  | login op => (dir.files (.loginTemporary op)).isSome = true
  | submit op => (dir.files (.cloudSubmitTemporary op)).isSome = true
  | lifecycle _ => False

def ledgerFiles : List StateFile := [.loginLedger, .cloudSubmitLedger, .cloudLifecycle]

/-- Every ledger file has its old content, but for the one written, which may have the new one. -/
def Intact (json : Encoding) (record : LedgerRecord) (before after : StateDir) : Prop :=
  ∀ name ∈ ledgerFiles,
    after.files name = before.files name ∨ name = record.final ∧ after.files name = some (record.bytes json)

/-- Where a call on a clean directory leaves it. -/
structure Written (json : Encoding) (faults : Faults) (record : LedgerRecord) (before after : StateDir) :
    Prop where
  intact : Intact json record before after
  clean : (record.Storable json → record.strands faults = false) → Clean after
  blocked : record.Storable json → record.strands faults = true → record.operation.BlockedIn after

section

variable {json : Encoding} {faults : Faults} {record : LedgerRecord} {dir : StateDir}

/-! The three writers have one form: check the record and its size, replace the file, name the error. -/

namespace LedgerRecord

def check : LedgerRecord → Except WriterError Unit
  | login ledger => ledger.validate.mapError .login
  | submit ledger => ledger.validate.mapError .submit
  | lifecycle ledger => ledger.validate.mapError .lifecycle

def error (record : LedgerRecord) (failure : FileError) : WriterError :=
  match record with
  | login _ => .login (errorAs .ledgerInvalid .ledgerUnavailable failure)
  | submit _ => .submit (errorAs CloudSubmitLedger.ledgerInvalid ⟨.ledgerUnavailable, none⟩ failure)
  | lifecycle _ =>
      .lifecycle (errorAs CloudLifecycleLedger.invalidLedger CloudLifecycleLedger.unavailableLedger failure)

def replace (json : Encoding) (faults : Faults) : LedgerRecord → Proc StateDir FileError Unit
  | login ledger =>
      onFiles (Directory.replace faults (.loginTemporary ledger.operationId) .loginLedger (json.login ledger))
  | submit ledger =>
      onFiles (Directory.replaceOrClean faults (.cloudSubmitTemporary ledger.operationId) .cloudSubmitLedger
        (json.submit ledger))
  | lifecycle ledger => do
      let uuid ← newTemporaryName
      onFiles (Directory.replaceOrClean faults (.lifecycleTemporary uuid) .cloudLifecycle (json.lifecycle ledger))

def replaceEnding (faults : Faults) (dir : StateDir) (record : LedgerRecord) : Ending :=
  match record with
  | login _ => Directory.ending faults (record.temporary dir) dir.files
  | submit _ | lifecycle _ => Directory.endingOrClean faults (record.temporary dir) dir.files

/-- How a call for a valid record ends. -/
def ending (json : Encoding) (faults : Faults) (dir : StateDir) (record : LedgerRecord) : Ending :=
  if maxLedgerBytes < (record.bytes json).length then .failed .invalid else record.replaceEnding faults dir

theorem check_eq_ok : record.check = .ok () ↔ record.Valid := by
  have mapped {ε : Type} (wrap : ε → WriterError) (result : Except ε Unit) :
      result.mapError wrap = .ok () ↔ result = .ok () := by
    cases result <;> simp [Except.mapError]
  cases record <;> simp [check, mapped, Valid]

theorem ledger_ne_temporary {name : StateFile} (record : LedgerRecord) (listed : name ∈ ledgerFiles) :
    name ≠ record.temporary dir := by
  rintro rfl
  cases record <;> simp [temporary, ledgerFiles] at listed

end LedgerRecord

theorem mapError_checked {ε ε' : Type} {valid : Except ε Unit} {bytes : List UInt8} {invalid unavailable : ε}
    {replace : Proc StateDir FileError Unit} (wrap : ε → ε') :
    (checked valid bytes invalid unavailable replace).mapError wrap =
      checked (valid.mapError wrap) bytes (wrap invalid) (wrap unavailable) replace := by
  have named : (fun failure => wrap (errorAs invalid unavailable failure)) =
      errorAs (wrap invalid) (wrap unavailable) := by
    funext failure
    cases failure <;> rfl
  rw [checked, mapError_bind, mapError_ofExcept, checked, ← named]
  split
  · rfl
  · rw [mapError_mapError]

theorem write_eq_checked : write json faults record =
    checked record.check (record.bytes json) (record.error .invalid) (record.error .unavailable)
      (record.replace json faults) := by
  cases record <;> exact mapError_checked _

theorem persist_eq_write : persist json faults record = (write json faults record).mapError fun _ => () := by
  cases record <;> rw [write, mapError_mapError, persist]

/-- A record that does not pass the checks is refused, and nothing is changed. -/
theorem write_unfit (unfit : ¬ record.Storable json) :
    ∃ error, write json faults record dir = (.error error, dir) := by
  rw [write_eq_checked, checked]
  cases checks : record.check with
  | error error => exact ⟨error, rfl⟩
  | ok =>
      have large : maxLedgerBytes < (record.bytes json).length :=
        Nat.lt_of_not_le fun fits => unfit ⟨LedgerRecord.check_eq_ok.mp checks, fits⟩
      rw [if_pos large]
      exact ⟨_, rfl⟩

theorem write_storable (storable : record.Storable json) : write json faults record dir =
    ((record.replace json faults dir).1.mapError record.error, (record.replace json faults dir).2) := by
  have named : errorAs (record.error .invalid) (record.error .unavailable) = record.error := by
    funext failure
    cases failure <;> rfl
  rw [write_eq_checked, checked, LedgerRecord.check_eq_ok.mpr storable.1, if_neg (Nat.not_lt.mpr storable.2), named,
    ← mapError_apply]
  rfl

namespace LedgerRecord

theorem replace_spec (faults : Faults) (dir : StateDir) (fits : (record.bytes json).length ≤ maxLedgerBytes) :
    (record.replace json faults dir).1 = (record.ending json faults dir).outcome ∧
      Directory.Replaced (record.ending json faults dir) (record.temporary dir) record.final (record.bytes json)
        dir.files (record.replace json faults dir).2.files := by
  rw [ending, if_neg (Nat.not_lt.mpr fits)]
  cases record with
  | login => exact Directory.replace_spec _ _ _ (by simp)
  | submit | lifecycle => exact Directory.replaceOrClean_spec _ _ _ (by simp)

theorem replace_blocks (clean : Clean dir) :
    record.operation.BlockedIn (record.replace json faults dir).2 ↔ record.strands faults = true := by
  cases record with
  | login ledger =>
      have left : (((login ledger).replace json faults dir).2.files (.loginTemporary ledger.operationId)).isSome =
          ((dir.files (.loginTemporary ledger.operationId)).isSome || faults.strands) :=
        Directory.replace_leaves _ _ _ (by simp)
      rw [clean.login] at left
      exact Eq.congr_left left
  | submit ledger =>
      exact Eq.congr_left (Directory.replaceOrClean_leaves faults (json.submit ledger)
        (clean.submit ledger.operationId) (by simp : _ ≠ StateFile.cloudSubmitLedger))
  | lifecycle => simp [operation, Operation.BlockedIn, strands]

/-- A random name is spent, whatever became of its file. -/
theorem replace_spends {uuid : Nat} (later : (record.replace json faults dir).2.issued ≤ uuid) :
    dir.issued ≤ uuid ∧ StateFile.lifecycleTemporary uuid ≠ record.temporary dir := by
  cases record with
  | login | submit => exact ⟨later, by simp [temporary]⟩
  | lifecycle =>
      have spent : dir.issued < uuid := later
      exact ⟨Nat.le_of_lt spent, by simpa [temporary] using Nat.ne_of_gt spent⟩

end LedgerRecord

theorem Clean.replace (clean : Clean dir) (storable : record.Storable json) (fine : record.strands faults = false) :
    Clean (record.replace json faults dir).2 := by
  have others := (LedgerRecord.replace_spec faults dir storable.2).2.others
  have free : ¬ record.operation.BlockedIn (record.replace json faults dir).2 := by
    rw [LedgerRecord.replace_blocks clean, fine]
    decide
  refine ⟨fun op => ?_, fun op => ?_, fun uuid later => ?_⟩
  · by_cases own : StateFile.loginTemporary op = record.temporary dir
    · cases record <;> simp only [LedgerRecord.temporary, StateFile.loginTemporary.injEq, reduceCtorEq] at own
      cases own
      simpa [LedgerRecord.operation, Operation.BlockedIn] using free
    · exact (others _ own (by cases record <;> simp [LedgerRecord.final])).trans (clean.login op)
  · by_cases own : StateFile.cloudSubmitTemporary op = record.temporary dir
    · cases record <;> simp only [LedgerRecord.temporary, StateFile.cloudSubmitTemporary.injEq, reduceCtorEq] at own
      cases own
      simpa [LedgerRecord.operation, Operation.BlockedIn] using free
    · exact (others _ own (by cases record <;> simp [LedgerRecord.final])).trans (clean.submit op)
  · obtain ⟨later, other⟩ := LedgerRecord.replace_spends later
    exact (others _ other (by cases record <;> simp [LedgerRecord.final])).trans (clean.lifecycle uuid later)

theorem intact_replace (storable : record.Storable json) :
    Intact json record dir (record.replace json faults dir).2 := by
  obtain ⟨-, others, final⟩ := LedgerRecord.replace_spec faults dir storable.2
  intro name listed
  by_cases own : name = record.final
  · cases own
    rw [final]
    split
    · exact .inr ⟨rfl, rfl⟩
    · exact .inl rfl
  · exact .inl (others name (record.ledger_ne_temporary listed) own)

/-- The step lemma: what one call leaves of a clean directory, however it ends. -/
theorem persist_written (clean : Clean dir) :
    Written json faults record dir (persist json faults record dir).2 := by
  rw [persist_eq_write, mapError_apply]
  by_cases storable : record.Storable json
  · rw [write_storable storable]
    exact ⟨intact_replace storable, fun fine => clean.replace storable (fine storable),
      fun _ => (LedgerRecord.replace_blocks clean).mpr⟩
  · obtain ⟨error, refused⟩ : ∃ error, write json faults record dir = (.error error, dir) := write_unfit storable
    rw [refused]
    exact ⟨fun _ _ => .inl rfl, fun _ => clean, fun fits => absurd fits storable⟩

theorem succeeds_persist : Proc.Succeeds (persist json faults record) dir ↔
    record.Storable json ∧ (record.ending json faults dir).outcome = .ok () := by
  rw [persist_eq_write, Proc.Succeeds]
  simp only [mapError_apply, Prod.mk.injEq, exists_eq_right']
  by_cases storable : record.Storable json
  · rw [write_storable storable, (LedgerRecord.replace_spec faults dir storable.2).1]
    cases (record.ending json faults dir).outcome <;> simp [storable, Outcome.mapError]
  · obtain ⟨error, refused⟩ : ∃ error, write json faults record dir = (.error error, dir) := write_unfit storable
    simp [refused, storable, Outcome.mapError]

/-- A call without faults stores a record that passes the checks, if nothing is in its way. -/
theorem persist_noFaults (clean : Clean dir) (storable : record.Storable json) :
    Proc.Succeeds (persist json noFaults record) dir := by
  have free : dir.files (record.temporary dir) = none := by
    cases record with
    | login => exact clean.login _
    | submit => exact clean.submit _
    | lifecycle => exact clean.lifecycle _ (Nat.le_refl _)
  have fine : Faults.ending noFaults = .stored := rfl
  rw [succeeds_persist, LedgerRecord.ending, if_neg (Nat.not_lt.mpr storable.2)]
  refine ⟨storable, ?_⟩
  cases record <;>
    simp [LedgerRecord.replaceEnding, Directory.endingOrClean, Directory.ending, free, fine, Ending.outcome]

theorem persist_blocked (blocked : record.operation.BlockedIn dir) :
    ¬ Proc.Succeeds (persist json faults record) dir := by
  rw [succeeds_persist]
  rintro ⟨⟨-, fits⟩, okay⟩
  rw [LedgerRecord.ending, if_neg (Nat.not_lt.mpr fits)] at okay
  cases record with
  | login ledger =>
      have there : (dir.files (.loginTemporary ledger.operationId)).isSome = true := blocked
      simp [LedgerRecord.replaceEnding, Directory.ending, LedgerRecord.temporary, there, Ending.outcome] at okay
  | submit ledger =>
      have there : (dir.files (.cloudSubmitTemporary ledger.operationId)).isSome = true := blocked
      simp only [LedgerRecord.replaceEnding, Directory.endingOrClean, Directory.ending, LedgerRecord.temporary, there,
        if_true] at okay
      split at okay <;> cases okay
  | lifecycle => exact blocked

end

/-! ## Faults and later calls -/

/-- Calls on one state directory. It begins with no temporary file, whatever its ledgers hold. -/
def system (json : Encoding) : System StateDir (LedgerRecord × Faults) where
  initial dir := Clean dir
  step dir call := some (persist json call.2 call.1 dir).2

/-- A call whose faults leave no temporary file in the way. -/
def Recoverable (json : Encoding) (_ : StateDir) (call : LedgerRecord × Faults) : Prop :=
  call.1.Storable json → call.1.strands call.2 = false

/-- Calls without faults, one after another. -/
def persistAll (json : Encoding) : List LedgerRecord → StateDir → StateDir
  | [], dir => dir
  | record :: later, dir => persistAll json later (persist json noFaults record dir).2

section

variable {json : Encoding} {faults : Faults} {record : LedgerRecord} {dir : StateDir}

theorem Clean.persist (clean : Clean dir) (recoverable : Recoverable json dir (record, faults)) :
    Clean (persist json faults record dir).2 :=
  (persist_written clean).clean recoverable

theorem strands_noFaults : record.strands noFaults = false := by
  cases record <;> rfl

theorem Clean.persistAll (clean : Clean dir) (later : List LedgerRecord) : Clean (persistAll json later dir) := by
  induction later generalizing dir with
  | nil => exact clean
  | cons record later ih => exact ih (clean.persist fun _ => strands_noFaults)

theorem clean_reach (reach : (system json).Reach (Recoverable json) dir) : Clean dir := by
  apply reach.invariant
  · exact fun _ begins => begins
  · intro before call after _ clean recoverable stepped
    cases stepped
    exact clean.persist recoverable

/-- A call of a writer, on a directory that earlier faults left usable: every ledger file has its
whole old content, or the one written its whole new content, and every later call without faults for
the same operation succeeds, exactly if the call was recoverable. -/
theorem ledger_survives_faults_iff (reach : (system json).Reach (Recoverable json) dir)
    (record : LedgerRecord) (faults : Faults) :
    (Intact json record dir (persist json faults record dir).2 ∧
      ∀ later next, next.operation = record.operation → next.Storable json →
        Proc.Succeeds (persist json noFaults next)
          (persistAll json later (persist json faults record dir).2)) ↔
      Recoverable json dir (record, faults) := by
  have clean := clean_reach reach
  have written : Written json faults record dir (persist json faults record dir).2 := persist_written clean
  constructor
  · rintro ⟨-, later⟩ storable
    cases strands : record.strands faults with
    | false => rfl
    | true => exact absurd (later [] record rfl storable) (persist_blocked (written.blocked storable strands))
  · intro recoverable
    refine ⟨written.intact, fun later next _ storable => ?_⟩
    exact persist_noFaults ((clean.persist recoverable).persistAll later) storable

end

/-! ## The writers on the host -/

/-- The same call as one effect of the host. -/
def hostWrite : LedgerRecord → Proc Host WriterError Unit
  | .login ledger => (Login.persistLedger ledger).mapError .login
  | .submit ledger => (Cloud.persistCloudLedger ledger).mapError .submit
  | .lifecycle ledger => (Cloud.persistLifecycleLedger ledger).mapError .lifecycle

/-- The effect after it, before which the process may die. -/
def nextEffect : Proc Host WriterError Unit := do
  let _ ← Host.ask

/-- The ledgers of the host as files. -/
def hostFiles (json : Encoding) (h : Host) : StateFile → Option (List UInt8)
  | .loginLedger => h.loginFile.map json.login
  | .cloudSubmitLedger => h.submitFile.map json.submit
  | .cloudLifecycle => h.lifecycleFile.map json.lifecycle
  | .loginTemporary _ | .cloudSubmitTemporary _ | .lifecycleTemporary _ => none

/-- Directory and host hold the same ledgers. -/
def Mirrors (json : Encoding) (dir : StateDir) (h : Host) : Prop :=
  ∀ name ∈ ledgerFiles, dir.files name = hostFiles json h name

/-- Which answer an ending is. A process that dies after the rename has stored the record. -/
def answer : Ending → WriteOutcome
  | .stored | .died _ => .stored
  | .unsynced => .storedUnsynced
  | .failed .unavailable => .refused
  | .failed .invalid => .rejected

namespace LedgerRecord

def outcome (answers : Answers) : LedgerRecord → WriteOutcome
  | login ledger => answers.writeLogin ledger
  | submit ledger => answers.writeSubmit ledger
  | lifecycle ledger => answers.writeLifecycle ledger

def store : LedgerRecord → Host → Host
  | login ledger => Host.storeLogin ledger
  | submit ledger => Host.storeSubmit ledger
  | lifecycle ledger => Host.storeLifecycle ledger

end LedgerRecord

/-- The host answers a write as the faults decide it: it crashes before the effect or before the next
one, as the process dies before the rename or after it. -/
structure Answering (ended : Ending) (record : LedgerRecord) (h : Host) : Prop where
  crash : h.answers.crash = decide (ended = .died false)
  outcome : record.outcome h.answers = answer ended
  next : h.advance.answers.crash = decide (ended = .died true)

/-- The host that answers so. -/
def answeringHost (ended : Ending) (h : Host) : Host :=
  { h with env := fun time => {
      crash := decide (ended = .died (decide (time ≠ h.tick)))
      writeLogin := fun _ => answer ended
      writeSubmit := fun _ => answer ended
      writeLifecycle := fun _ => answer ended } }

section

variable {json : Encoding} {faults : Faults} {record : LedgerRecord} {dir : StateDir} {h : Host} {ended : Ending}

theorem answeringHost_answers (ended : Ending) (record : LedgerRecord) (h : Host) :
    Answering ended record (answeringHost ended h) := by
  refine ⟨by simp [Host.answers, answeringHost], ?_, ?_⟩
  · cases record <;> rfl
  · simp [Host.answers, answeringHost, Host.advance]

theorem hostWrite_eq : hostWrite record = (do
    Proc.ofExcept record.check
    Host.replaceFile (record.outcome ·) record.store (record.error .invalid) (record.error .unavailable)) := by
  cases record with
  | login | submit | lifecycle =>
      exact (mapError_bind ..).trans (by rw [mapError_ofExcept, Host.mapError_replaceFile]; rfl)

theorem nextEffect_eq : nextEffect h = (if h.answers.crash then .crashed else .ok (), h.advance) := by
  cases dies : h.answers.crash <;> simp [nextEffect, Bind.bind, Proc.bind, Host.ask, dies, Pure.pure, Proc.pure]

/-- How a call that is answered ends, the next effect included. -/
theorem hostWrite_answered (valid : record.Valid) (answering : Answering ended record h) :
    ∃ time, (hostWrite record >>= fun _ => nextEffect) h =
      (ended.outcome.mapError record.error, (if ended.renamed then record.store h else h).atTime time) := by
  obtain ⟨crash, outcome, next⟩ := answering
  have stores : record.store h.advance = (record.store h).advance := by cases record <;> rfl
  have asks : (record.store h).advance.answers = h.advance.answers := by cases record <;> rfl
  rw [hostWrite_eq, LedgerRecord.check_eq_ok.mpr valid]
  change ∃ time, Proc.bind (Host.replaceFile _ _ _ _) _ h = _
  simp only [Proc.bind, Host.replaceFile_eq, crash, outcome, stores]
  cases ended with
  | stored =>
      refine ⟨(record.store h).tick + 2, nextEffect_eq.trans ?_⟩
      rw [asks, next]
      rfl
  | unsynced => exact ⟨(record.store h).tick + 1, rfl⟩
  | failed error => cases error <;> exact ⟨h.tick + 1, rfl⟩
  | died renamed =>
      cases renamed with
      | false => exact ⟨h.tick + 1, rfl⟩
      | true =>
          refine ⟨(record.store h).tick + 2, nextEffect_eq.trans ?_⟩
          rw [asks, next]
          rfl

theorem hostFiles_store (name : StateFile) : hostFiles json (record.store h) name =
    if name = record.final then some (record.bytes json) else hostFiles json h name := by
  cases record <;> cases name <;> rfl

theorem Mirrors.replace {after : StateDir} (mirrors : Mirrors json dir h)
    (replaced : Directory.Replaced ended (record.temporary dir) record.final (record.bytes json) dir.files
      after.files) :
    Mirrors json after (if ended.renamed then record.store h else h) := by
  intro name listed
  by_cases own : name = record.final
  · rw [own, replaced.final]
    split
    · rw [hostFiles_store, if_pos rfl]
    · exact mirrors record.final (own ▸ listed)
  · rw [replaced.others name (record.ledger_ne_temporary listed) own, mirrors name listed]
    split
    · rw [hostFiles_store, if_neg own]
    · rfl

/-- A writer's call is the host's effect, on a host that answers it as the faults decide: both return
the same, an error by its name, or die, and the ledgers stay the same. -/
theorem write_refines_host (mirrors : Mirrors json dir h)
    (answering : Answering (record.ending json faults dir) record h) :
    ((hostWrite record >>= fun _ => nextEffect) h).1 = (write json faults record dir).1 ∧
      Mirrors json (write json faults record dir).2 ((hostWrite record >>= fun _ => nextEffect) h).2 := by
  cases checks : record.check with
  | error error =>
      rw [hostWrite_eq, write_eq_checked, checked, checks]
      exact ⟨rfl, mirrors⟩
  | ok =>
      have valid := LedgerRecord.check_eq_ok.mp checks
      obtain ⟨time, ran⟩ := hostWrite_answered valid answering
      rw [ran]
      by_cases fits : (record.bytes json).length ≤ maxLedgerBytes
      · obtain ⟨outcome, replaced⟩ := LedgerRecord.replace_spec faults dir fits
        rw [write_storable ⟨valid, fits⟩, outcome]
        exact ⟨rfl, mirrors.replace replaced⟩
      · rw [write_eq_checked, checked, checks, LedgerRecord.ending]
        rw [if_pos (Nat.lt_of_not_le fits), if_pos (Nat.lt_of_not_le fits)]
        exact ⟨rfl, mirrors⟩

end

/-! ## A temporary file in the way -/

def emptyDir : StateDir := ⟨fun _ => none, 0⟩

theorem emptyDir_clean : Clean emptyDir := ⟨fun _ => rfl, fun _ => rfl, fun _ _ => rfl⟩

/-- A letter for the ledger, its operation, and how far it has come. -/
def letters : Encoding where
  login ledger := [0x6c, .ofNat ledger.operationId.value, .ofNat ledger.history.length]
  submit ledger := [0x73, .ofNat ledger.operationId.value, .ofNat ledger.history.length]
  lifecycle ledger := [0x63, .ofNat ledger.operationId.value, .ofNat ledger.history.length]

def faultAt (step : FileStep) (fault : Fault) : Faults := fun other =>
  if other = step then fault else .none

def firstLogin : LedgerRecord := .login (.new ⟨1, by decide⟩)

def firstLedger : CloudSubmitLedger := .new ⟨1, by decide⟩ ⟨[]⟩ ⟨[]⟩

def firstSubmit : LedgerRecord := .submit firstLedger

theorem cleaned_submit_survives :
    Proc.Succeeds (persist letters noFaults firstSubmit)
      (persist letters (faultAt .rename (.error 0)) firstSubmit emptyDir).2 :=
  have storable : firstSubmit.Storable letters := ⟨CloudSubmitLedger.new_valid .., by decide⟩
  ((ledger_survives_faults_iff (.initial emptyDir_clean) firstSubmit (faultAt .rename (.error 0))).mpr
    fun _ => by decide).2 [] firstSubmit rfl storable

/-- A login record whose write fails once, and a submit record whose writer dies while it writes:
the next write of the same record is refused, on a host on which everything works. -/
theorem leftover_temporary_blocks :
    firstLogin.Storable letters ∧ firstSubmit.Storable letters ∧
      (persist letters noFaults firstLogin
        (persist letters (faultAt .write (.error 1)) firstLogin emptyDir).2).1 = .error () ∧
      (persist letters noFaults firstSubmit
        (persist letters (faultAt .write (.crash 2)) firstSubmit emptyDir).2).1 = .error () := by
  refine ⟨⟨(LoginLedger.new_sound _).valid, by decide⟩, ⟨CloudSubmitLedger.new_valid .., by decide⟩, ?_, ?_⟩
  · decide
  · decide

/-! The first submit record is stored, and the next one is written. -/

def firstDir : StateDir := (persist letters noFaults firstSubmit emptyDir).2

def firstHost : Host := { Host.fresh fun _ => {} with submitFile := some firstLedger }

def nextSubmit : LedgerRecord := .submit { firstLedger with history := [.intent, .authorized] }

def nextRun (faults : Faults) : Outcome WriterError Unit × Host :=
  (hostWrite nextSubmit >>= fun _ => nextEffect) (answeringHost (nextSubmit.ending letters faults firstDir) firstHost)

/-- With a directory that is not synced the host fails and has the new record; with a process that dies
in the write or after the rename it dies too, and has the old record or the new one. -/
theorem next_submit_refines_host :
    ((nextRun (faultAt .syncDirectory (.error 0))).1 = .error (.submit ⟨.ledgerUnavailable, none⟩) ∧
      (nextRun (faultAt .syncDirectory (.error 0))).2.submitFile.map letters.submit = some [0x73, 1, 2]) ∧
    ((nextRun (faultAt .write (.crash 2))).1 = .crashed ∧
      (nextRun (faultAt .write (.crash 2))).2.submitFile.map letters.submit = some [0x73, 1, 1]) ∧
    (nextRun (faultAt .rename (.crash 1))).1 = .crashed ∧
      (nextRun (faultAt .rename (.crash 1))).2.submitFile.map letters.submit = some [0x73, 1, 2] := by
  have mirrors (ended : Ending) : Mirrors letters firstDir (answeringHost ended firstHost) :=
    (by decide : ∀ name ∈ ledgerFiles, firstDir.files name = hostFiles letters firstHost name)
  have unsynced := write_refines_host (mirrors _)
    (answeringHost_answers (nextSubmit.ending letters (faultAt .syncDirectory (.error 0)) firstDir) nextSubmit firstHost)
  have cut := write_refines_host (mirrors _)
    (answeringHost_answers (nextSubmit.ending letters (faultAt .write (.crash 2)) firstDir) nextSubmit firstHost)
  have renamed := write_refines_host (mirrors _)
    (answeringHost_answers (nextSubmit.ending letters (faultAt .rename (.crash 1)) firstDir) nextSubmit firstHost)
  exact ⟨⟨unsynced.1.trans (by decide), (unsynced.2 .cloudSubmitLedger (by decide)).symm.trans (by decide)⟩,
    ⟨cut.1.trans (by decide), (cut.2 .cloudSubmitLedger (by decide)).symm.trans (by decide)⟩,
    renamed.1.trans (by decide), (renamed.2 .cloudSubmitLedger (by decide)).symm.trans (by decide)⟩

end Codebox.Persist
