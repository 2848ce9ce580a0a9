import Codebox.Support.History

/-! # The login ledger

The login broker's durable record of one device login, and the errors of the login layer.
The Cloud runner reads this record before it authorizes a submit.
-/

namespace Codebox.Login

open Codebox.Support

/-- Scope errors; only a held lease is told apart from the other variants. -/
inductive CredentialScopeError where
  | loginAlreadyRunning
  | rejected
  deriving Repr, DecidableEq

inductive LoginBrokerError where
  | credentialScope (error : CredentialScopeError)
  | versionMismatch | loginAlreadyRunning | alreadyLoggedIn | providerOutputInvalid
  | outputLimitExceeded | statusUnavailable | loginFailed | outcomeUnknown | process
  | ledgerUnavailable | ledgerInvalid
  deriving Repr, DecidableEq

/-- The source's `From<CredentialScopeError>`. -/
def LoginBrokerError.ofScope : CredentialScopeError → LoginBrokerError
  | .loginAlreadyRunning => .loginAlreadyRunning
  | error => .credentialScope error

/-- The operating-system identity of one spawned child. -/
structure ProcessIdentity where
  pid : Nat
  startTimeTicks : Nat
  deriving Repr, DecidableEq

structure LoginOperationId where
  value : Nat
  notNil : 0 < value
  deriving Repr, DecidableEq

inductive LedgerPhase where
  | intent | started | deviceInstructions | loggedIn | loggedOut | failed | outcomeUnknown
  deriving Repr, DecidableEq

namespace LedgerPhase

def isUncertain : LedgerPhase → Bool
  | intent | started | deviceInstructions | outcomeUnknown => true
  | loggedIn | loggedOut | failed => false

attribute [simp] isUncertain.eq_1 isUncertain.eq_2 isUncertain.eq_3 isUncertain.eq_4
  isUncertain.eq_5 isUncertain.eq_6 isUncertain.eq_7

def validTransition : LedgerPhase → LedgerPhase → Bool
  | intent, next => next == started || next == failed || next == outcomeUnknown
  | started, next =>
      next == deviceInstructions || next == loggedIn || next == loggedOut || next == failed ||
        next == outcomeUnknown
  | deviceInstructions, next | outcomeUnknown, next =>
      next == loggedIn || next == loggedOut || next == failed || next == outcomeUnknown
  | loggedIn, _ | loggedOut, _ | failed, _ => false

/-- How far along a login the phase is. -/
def stage : LedgerPhase → Nat
  | intent => 1
  | started => 2
  | deviceInstructions => 3
  | outcomeUnknown => 4
  | loggedIn | loggedOut | failed => 5

theorem stage_lt {phase next : LedgerPhase} (step : phase.validTransition next = true)
    (moved : phase ≠ next) : phase.stage < next.stage := by
  revert step moved
  cases phase <;> cases next <;> decide

end LedgerPhase

def ledgerSchemaVersion : Nat := 1
def maxHistoryEntries : Nat := 32

def loginLedgerRules : HistoryRules LedgerPhase where
  first := .intent
  next := LedgerPhase.validTransition
  limit := maxHistoryEntries

structure LoginLedger where
  schemaVersion : Nat
  operationId : LoginOperationId
  process : Option ProcessIdentity
  history : List LedgerPhase
  deriving Repr, DecidableEq

namespace LoginLedger

def new (op : LoginOperationId) : LoginLedger where
  schemaVersion := ledgerSchemaVersion
  operationId := op
  process := none
  history := [.intent]

def latest (ledger : LoginLedger) : LedgerPhase :=
  ledger.history.getLast?.getD .outcomeUnknown

def append (ledger : LoginLedger) (phase : LedgerPhase) : Except LoginBrokerError LoginLedger :=
  if maxHistoryEntries ≤ ledger.history.length ∨ ledger.latest.validTransition phase = false
  then .error .ledgerInvalid
  else .ok { ledger with history := ledger.history ++ [phase] }

def recordStarted (ledger : LoginLedger) (process : ProcessIdentity) :
    Except LoginBrokerError LoginLedger :=
  if ledger.process.isSome then .error .ledgerInvalid
  else append { ledger with process := some process } .started

structure Valid (ledger : LoginLedger) : Prop where
  schema : ledger.schemaVersion = ledgerSchemaVersion
  history : loginLedgerRules.accepts ledger.history = true
  started : .started ∈ ledger.history ↔ ledger.process.isSome = true

theorem valid_iff (ledger : LoginLedger) :
    ledger.Valid ↔ ledger.schemaVersion = ledgerSchemaVersion ∧
      loginLedgerRules.accepts ledger.history = true ∧
      (.started ∈ ledger.history ↔ ledger.process.isSome = true) :=
  ⟨fun ⟨a, b, c⟩ => ⟨a, b, c⟩, fun ⟨a, b, c⟩ => ⟨a, b, c⟩⟩

instance (ledger : LoginLedger) : Decidable ledger.Valid :=
  decidable_of_iff' _ (valid_iff ledger)

def validate (ledger : LoginLedger) : Except LoginBrokerError Unit :=
  if ledger.Valid then .ok () else .error .ledgerInvalid

variable {ledger ledger' : LoginLedger} {phase : LedgerPhase} {process : Option ProcessIdentity}

@[simp] theorem validate_eq_ok : ledger.validate = .ok () ↔ ledger.Valid := by
  unfold validate
  split <;> simp_all

theorem append_eq_ok :
    ledger.append phase = .ok ledger' ↔
      ledger.history.length < maxHistoryEntries ∧ ledger.latest.validTransition phase = true ∧
        ledger' = { ledger with history := ledger.history ++ [phase] } := by
  unfold append
  split <;> grind

@[simp] theorem latest_concat : latest { ledger with history := ledger.history ++ [phase] } = phase := by
  simp [latest]

/-- A valid record no phase of which is repeated; the broker writes no others, so the bound on
the history of a login is never met. -/
structure Sound (ledger : LoginLedger) : Prop where
  valid : ledger.Valid
  short : ledger.history.length ≤ ledger.latest.stage

theorem Sound.room (sound : ledger.Sound) : ledger.history.length < maxHistoryEntries := by
  have bound : ledger.latest.stage ≤ 5 := by
    cases ledger.latest <;> decide
  have short := sound.short
  simp only [maxHistoryEntries]
  omega

theorem Valid.getLast? (valid : ledger.Valid) : ledger.history.getLast? = some ledger.latest := by
  obtain ⟨last, tail⟩ := HistoryRules.accepts_getLast? valid.history
  simp [latest, tail]

theorem new_sound (op : LoginOperationId) : (new op).Sound where
  valid := ⟨rfl, by simp only [new]; decide, by simp [new]⟩
  short := by simp only [new, latest]; decide

/-- One phase further, with the child that phase asks for. -/
theorem Valid.grow (valid : ledger.Valid) (room : ledger.history.length < maxHistoryEntries)
    (step : ledger.latest.validTransition phase = true)
    (child : .started ∈ ledger.history ++ [phase] ↔ process.isSome = true) :
    Valid { ledger with history := ledger.history ++ [phase], process := process } where
  schema := valid.schema
  history := (HistoryRules.accepts_concat_iff valid.getLast?).mpr ⟨valid.history, room, step⟩
  started := child

theorem Valid.append (valid : ledger.Valid) (other : phase ≠ .started)
    (appended : ledger.append phase = .ok ledger') : ledger'.Valid := by
  obtain ⟨room, step, rfl⟩ := append_eq_ok.mp appended
  apply valid.grow room step
  rw [← valid.started]
  simp [Ne.symm other]

theorem Valid.recordStarted {process : ProcessIdentity} (valid : ledger.Valid)
    (recorded : ledger.recordStarted process = .ok ledger') : ledger'.Valid := by
  unfold LoginLedger.recordStarted at recorded
  split at recorded
  · cases recorded
  · obtain ⟨room, step, rfl⟩ := append_eq_ok.mp recorded
    exact valid.grow room step (by simp)

theorem Sound.grow (sound : ledger.Sound) (step : ledger.latest.validTransition phase = true)
    (moved : ledger.latest ≠ phase) (child : .started ∈ ledger.history ++ [phase] ↔ process.isSome = true) :
    Sound { ledger with history := ledger.history ++ [phase], process := process } where
  valid := sound.valid.grow sound.room step child
  short := by
    have later := LedgerPhase.stage_lt step moved
    have short := sound.short
    simp only [latest, List.length_append, List.length_singleton, List.getLast?_concat,
      Option.getD_some]
    omega

theorem Sound.append (sound : ledger.Sound) (moved : ledger.latest ≠ phase) (other : phase ≠ .started)
    (appended : ledger.append phase = .ok ledger') : ledger'.Sound ∧ ledger'.latest = phase := by
  obtain ⟨-, step, rfl⟩ := append_eq_ok.mp appended
  refine ⟨sound.grow step moved ?_, latest_concat⟩
  rw [← sound.valid.started]
  simp [Ne.symm other]

theorem Sound.recordStarted {process : ProcessIdentity} (sound : ledger.Sound)
    (recorded : ledger.recordStarted process = .ok ledger') :
    ledger'.Sound ∧ ledger'.latest = .started := by
  unfold LoginLedger.recordStarted at recorded
  split at recorded
  · cases recorded
  · obtain ⟨-, step, rfl⟩ := append_eq_ok.mp recorded
    have step' : ledger.latest.validTransition .started = true := step
    refine ⟨sound.grow step' ?_ (by simp), latest_concat⟩
    intro same
    rw [same] at step'
    exact absurd step' (by decide)

end LoginLedger

end Codebox.Login
