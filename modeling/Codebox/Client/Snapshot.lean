import Mathlib.Algebra.GroupWithZero.Nat
import Codebox.Client.Prompt
import Codebox.Client.Wire
import Codebox.Domain.Reducer
import Codebox.Session.Displayed
import Codebox.Session.Join

/-! # Snapshots in the browser

The server writes a snapshot of the session with derived serializers: an object for each record, a
variant with its tag before its fields, and the hyphenated text of each identifier. The browser then
compares the session state with the phase of the turn. It accepts what a running worker shows. Of a
stopped runtime it refuses a turn that is still queued and a session that requires recovery.
-/

namespace Codebox.Client

open Codebox.Cloud Codebox.Session
open Codebox.Domain (Uuid)

/-! ## Identifiers -/

/-- Groups of the given lengths with a hyphen between them. -/
def hyphenate : List Nat → List Char → List Char
  | n :: m :: lengths, digits => digits.take n ++ '-' :: hyphenate (m :: lengths) (digits.drop n)
  | _, digits => digits

/-- The digits of a UUID in base sixteen, the last one first. -/
def hexDigits (uuid : Uuid) : List Char := (List.range 32).map fun i => hexDigit (uuid.toNat / 16 ^ i % 16)

def hyphenated (uuid : Uuid) : String := String.ofList (hyphenate [8, 4, 4, 4, 12] (hexDigits uuid).reverse)

inductive Identifier where
  | session (id : SessionId)
  | process (id : Nat)
  | turn (id : TurnId)
  | operation (id : CloudSubmitOperationId)

/-- The UUIDs that the identifiers stand for. -/
structure Naming where
  uuid : Identifier → Uuid
  notNil : ∀ id, uuid id ≠ 0

variable {digits : List Char} {c : Char} {uuid : Uuid} {state : P0SessionState}

theorem matchesGroups_hyphenate {allowed : Char → Bool} {n : Nat} {lengths : List Nat}
    (length : digits.length = (n :: lengths).sum) (all : ∀ c ∈ digits, allowed c = true) :
    matchesGroups allowed (n :: lengths) (hyphenate (n :: lengths) digits) = true := by
  induction lengths generalizing n digits with
  | nil =>
      have whole : digits.length = n := by simpa using length
      simpa [matchesGroups, hyphenate, whole] using all
  | cons m lengths ih =>
      rw [List.sum_cons] at length
      have first : (digits.take n).length = n := by
        rw [List.length_take]
        omega
      have start : (digits.take n).all allowed = true :=
        List.all_eq_true.mpr fun c mem => all c (List.mem_of_mem_take mem)
      have rest : matchesGroups allowed (m :: lengths) (hyphenate (m :: lengths) (digits.drop n)) = true := by
        apply ih
        · rw [List.length_drop]
          omega
        · exact fun c mem => all c (List.mem_of_mem_drop mem)
      rw [hyphenate]
      generalize digits.take n = group at first start
      subst first
      simp [matchesGroups, start, rest]

theorem mem_hyphenate (mem : c ∈ digits) (lengths : List Nat) : c ∈ hyphenate lengths digits := by
  fun_induction hyphenate lengths digits with
  | case1 n m lengths digits ih =>
      rw [← List.take_append_drop n digits, List.mem_append] at mem
      rcases mem with first | rest
      · exact List.mem_append_left _ first
      · exact List.mem_append_right _ (List.mem_cons_of_mem _ (ih rest))
  | case2 => exact mem

theorem mod_eq_zero_of_digits {n k : Nat} (zero : ∀ i < k, n / 16 ^ i % 16 = 0) : n % 16 ^ k = 0 := by
  induction k with
  | zero => exact Nat.mod_one n
  | succ k ih =>
      rw [Nat.mod_pow_succ, ih fun i less => zero i (Nat.lt_succ_of_lt less), zero k (Nat.lt_succ_self k)]
      rfl

theorem hexDigit_of_nil : ∀ n < 16, hexDigit n ∈ "00000000-0000-0000-0000-000000000000".toList → n = 0 := by
  decide

theorem hyphenated_ne_nil (notNil : uuid ≠ 0) : hyphenated uuid ≠ "00000000-0000-0000-0000-000000000000" := by
  intro same
  have zero : ∀ i < 32, uuid.toNat / 16 ^ i % 16 = 0 := by
    intro i less
    have digit : hexDigit (uuid.toNat / 16 ^ i % 16) ∈ hexDigits uuid := List.mem_map_of_mem (List.mem_range.mpr less)
    have found := mem_hyphenate (List.mem_reverse.mpr digit) [8, 4, 4, 4, 12]
    rw [← String.toList_ofList (l := hyphenate _ _), ← hyphenated, same] at found
    exact hexDigit_of_nil _ (Nat.mod_lt _ (by decide)) found
  apply notNil
  apply BitVec.eq_of_toNat_eq
  have whole := mod_eq_zero_of_digits zero
  have small : uuid.toNat < 16 ^ 32 := uuid.isLt
  rwa [Nat.mod_eq_of_lt small] at whole

theorem isHex_hexDigit : ∀ n < 16, isHex (hexDigit n) = true := by
  decide

theorem isUuid_hyphenated (notNil : uuid ≠ 0) : isUuid (.string (hyphenated uuid)) = true := by
  simp only [isUuid, Bool.and_eq_true, bne_iff_ne, ne_eq]
  refine ⟨?_, hyphenated_ne_nil notNil⟩
  rw [hyphenated, String.toList_ofList]
  apply matchesGroups_hyphenate
  · simp [hexDigits]
  · intro c mem
    obtain ⟨i, -, rfl⟩ := List.mem_map.mp (List.mem_reverse.mp mem)
    exact isHex_hexDigit _ (Nat.mod_lt _ (by decide))

/-! ## Serializers -/

def record (fields : List (String × Value)) : Value := .object (fields.map fun field => (some field.1, field.2))

def taskText (task : CloudTaskId) : Value := .string (String.ofList task.text)

def stateText : P0SessionState → String
  | .ready => "ready"
  | .running => "running"
  | .recoveryRequired => "recovery_required"
  | .monitoringDegraded => "monitoring_degraded"
  | .stopped => "stopped"

namespace Naming

variable (naming : Naming)

def text (id : Identifier) : Value := .string (hyphenated (naming.uuid id))

def ofLifecycle (lifecycle : P0CloudLifecycle) : Value :=
  let tagged (state : String) (fields : List (String × Value)) : Value :=
    record (("state", .string state) :: ("operation_id", naming.text (.operation lifecycle.operationId)) :: fields)
  match lifecycle with
  | .submitting _ => tagged "submitting" []
  | .failedBeforeSubmit _ => tagged "failed_before_submit" []
  | .outcomeUnknown _ => tagged "outcome_unknown" []
  | .pending _ task => tagged "pending" [("task_id", taskText task)]
  | .ready _ task => tagged "ready" [("task_id", taskText task)]
  | .applied _ task => tagged "applied" [("task_id", taskText task)]
  | .providerError _ task => tagged "provider_error" [("task_id", taskText task)]
  | .canceledLocally _ task mayContinue =>
      tagged "canceled_locally" [("task_id", task.elim .null taskText), ("provider_may_continue", .bool mayContinue)]
  | .abandonedUnknown _ => tagged "abandoned_unknown" []

def ofProjection : P0TurnProjection → Value
  | .queued => record [("phase", .string "queued")]
  | .starting cancelRequested => record [("phase", .string "starting"), ("cancel_requested", .bool cancelRequested)]
  | .cloud lifecycle cancelRequested =>
      record [("phase", .string "cloud"), ("lifecycle", naming.ofLifecycle lifecycle),
        ("cancel_requested", .bool cancelRequested)]
  | .monitoringDegraded op lastKnownPending cancelRequested =>
      record [("phase", .string "monitoring_degraded"), ("operation_id", naming.text (.operation op)),
        ("last_known_pending", naming.ofLifecycle lastKnownPending), ("cancel_requested", .bool cancelRequested)]
  | .canceledBeforeCloudStart => record [("phase", .string "canceled_before_cloud_start")]
  | .stoppedBeforeCloudStart => record [("phase", .string "stopped_before_cloud_start")]
  | .stoppedAfterLowerFailure => record [("phase", .string "stopped_after_lower_failure")]

def ofTurn (turn : TurnId × P0TurnProjection) : Value :=
  record [("turn_id", naming.text (.turn turn.1)), ("projection", naming.ofProjection turn.2)]

def ofSnapshot (snapshot : P0SessionSnapshot) : Value :=
  record [
    ("identity", record [("session_id", naming.text (.session snapshot.identity.sessionId)),
      ("instance_id", naming.text (.process snapshot.identity.instanceId))]),
    ("state", .string (stateText snapshot.state)),
    ("current_turn", snapshot.currentTurn.elim .null naming.ofTurn),
    ("high_water_seq", .integer snapshot.highWaterSeq)]

end Naming

section

variable {naming : Naming} {lifecycle : P0CloudLifecycle} {projection : P0TurnProjection} {turn : TurnId}

@[simp] theorem exactKeys_record {fields : List (String × Value)} {keys : List String} :
    exactKeys (record fields) keys = true ↔ (fields.map Prod.fst).Perm keys := by
  have names : (fields.map fun field => (some field.1, field.2)).map Prod.fst = (fields.map Prod.fst).map some := by
    simp
  simp only [exactKeys, record, List.isPerm_iff, names]
  exact List.map_perm_map_iff fun _ _ same => Option.some.inj same

attribute [simp] Value.text.eq_1 Value.isString.eq_1 Value.isBoolean.eq_1

@[simp] theorem isOneOf_string (text : String) (texts : List String) :
    (Value.string text).isOneOf texts = texts.contains text := rfl

@[simp] theorem isText_string (text other : String) : (Value.string text).isText other = (text == other) := rfl

@[simp] theorem truthy_record (fields : List (String × Value)) : (record fields).truthy = true := rfl

@[simp] theorem isNull_record (fields : List (String × Value)) : (record fields).isNull = false := rfl

@[simp] theorem get_record_cons (name key : String) (value : Value) (fields : List (String × Value)) :
    (record ((name, value) :: fields)).get key = if key = name then value else (record fields).get key := by
  by_cases same : key = name
  · simp [Value.get, record, same]
  · simp [Value.get, record, List.lookup_cons, beq_eq_false_iff_ne.mpr same, same]

@[simp] theorem isUuid_text (id : Identifier) : isUuid (naming.text id) = true :=
  isUuid_hyphenated (naming.notNil id)

@[simp] theorem isText_text (id : Identifier) : (naming.text id).isText (naming.text id).text = true := by
  simp [Naming.text]

theorem isTaskChar_of_char (char : isTaskIdChar c = true) : isTaskChar c = true := by
  delta isTaskIdChar Char.isAlphanum Char.isAlpha Char.isUpper Char.isLower Char.isDigit at char
  simpa [isTaskChar, Char.le_def] using char

@[simp] theorem validCloudTaskId_text (task : CloudTaskId) : validCloudTaskId (taskText task) = true := by
  have fine := task.wellFormed
  simp only [isTaskIdText, Bool.and_eq_true, decide_eq_true_eq, List.all_eq_true, List.isPrefixOf_iff_prefix] at fine
  obtain ⟨⟨⟨-, short⟩, rest, text⟩, chars⟩ := fine
  simp only [validCloudTaskId, taskText, String.toList_ofList, Bool.and_eq_true, decide_eq_true_eq, beq_iff_eq,
    List.all_eq_true]
  refine ⟨⟨short, by rw [← text]; rfl⟩, fun c mem => isTaskChar_of_char (chars c (List.mem_of_mem_drop mem))⟩

theorem validCloudLifecycle_ofLifecycle (known : Sys.NotSubmitting lifecycle) :
    validCloudLifecycle (naming.ofLifecycle lifecycle) = true := by
  cases lifecycle with
  | submitting op => exact absurd rfl known
  | canceledLocally op task mayContinue =>
      cases task <;> simp [validCloudLifecycle, Naming.ofLifecycle, cloudStates, Value.isNull]
  | _ => simp [validCloudLifecycle, Naming.ofLifecycle, cloudStates]

theorem get_operation :
    (naming.ofLifecycle lifecycle).get "operation_id" = naming.text (.operation lifecycle.operationId) := by
  cases lifecycle <;> simp [Naming.ofLifecycle]

theorem validProjection_ofProjection {allowed : Option Role} {record : TurnRecord}
    (fits : record.Fits Sys.NotSubmitting allowed) : validProjection (naming.ofProjection record.projection) = true := by
  cases projection : record.projection with
  | cloud lifecycle asked =>
      have known : Sys.NotSubmitting lifecycle := fits.known lifecycle (by rw [projection]; rfl)
      simp [validProjection, Naming.ofProjection, validCloudLifecycle_ofLifecycle known]
  | monitoringDegraded op pending asked =>
      have known : Sys.NotSubmitting pending := fits.known pending (by rw [projection]; rfl)
      obtain ⟨waits, rfl⟩ := fits.degraded op pending asked projection
      have state : (naming.ofLifecycle pending).get "state" = .string "pending" := by
        cases pending <;> first | rfl | cases waits
      simp [validProjection, Naming.ofProjection, validCloudLifecycle_ofLifecycle known, state, get_operation]
  | _ => simp [validProjection, Naming.ofProjection]

theorem validSnapshot_ofSnapshot {snapshot : P0SessionSnapshot} :
    validSnapshot (naming.ofSnapshot snapshot) = true ↔ snapshot.highWaterSeq < 2 ^ 53 ∧
      (∀ turn ∈ snapshot.currentTurn, validProjection (naming.ofProjection turn.2) = true) ∧
      validSnapshotCombination (stateText snapshot.state) (snapshot.currentTurn.elim .null naming.ofTurn) = true := by
  have seq : isSeq (.integer snapshot.highWaterSeq) = true ↔ snapshot.highWaterSeq < 2 ^ 53 := by
    have bound : maxSafeInteger = 9007199254740991 := rfl
    simp only [isSeq, bound, Bool.and_eq_true, decide_eq_true_eq]
    omega
  have state : sessionStates.contains (stateText snapshot.state) = true := by
    cases snapshot.state <;> rfl
  cases current : snapshot.currentTurn with
  | none => simp [validSnapshot, Naming.ofSnapshot, current, seq, state, Value.isNull, -List.contains_eq_mem]
  | some turn => simp [validSnapshot, Naming.ofSnapshot, current, seq, state, Naming.ofTurn, -List.contains_eq_mem]

/-- What a running worker shows fits the session state. -/
theorem combination_shown (known : ∀ lifecycle, projection.lifecycle = some lifecycle → Sys.NotSubmitting lifecycle)
    (shown : projection.sessionState = some state) :
    validSnapshotCombination (stateText state) (naming.ofTurn (turn, projection)) = true := by
  cases projection with
  | cloud lifecycle asked =>
      cases shown
      cases lifecycle with
      | submitting op => exact absurd rfl (known _ rfl)
      | _ =>
          simp [validSnapshotCombination, Naming.ofTurn, Naming.ofProjection, Naming.ofLifecycle, readyCloudStates,
            stateForLifecycle, stateText]
  | _ =>
      cases shown <;> simp [validSnapshotCombination, Naming.ofTurn, Naming.ofProjection, stateText]

theorem combination_stopped (begun : projection.isStarting = false) :
    validSnapshotCombination "stopped" (naming.ofTurn (turn, projection)) = true ↔ projection ≠ .queued := by
  cases projection with
  | starting asked => cases begun
  | _ => simp [validSnapshotCombination, Naming.ofTurn, Naming.ofProjection]

theorem combination_recovery :
    validSnapshotCombination "recovery_required" (naming.ofTurn (turn, projection)) = true ↔
      ∃ op asked, projection = .cloud (.outcomeUnknown op) asked := by
  cases projection with
  | cloud lifecycle asked =>
      cases lifecycle <;>
        simp [validSnapshotCombination, Naming.ofTurn, Naming.ofProjection, Naming.ofLifecycle]
  | _ => simp [validSnapshotCombination, Naming.ofTurn, Naming.ofProjection]

end

/-! ## Snapshots of the runtime -/

section

variable {inner : Inner} {runner : CloudTaskRunner} {env : Nat → Answers} {sys : Sys}

/-- A stopped runtime shows no turn as starting: its worker has taken the start off the display. -/
theorem begun_of_stopped (reachable : (Sys.system inner runner env).Reachable sys)
    (stopped : sys.runtime.workerStopped = true) {record : TurnRecord} (current : sys.runtime.currentTurn = some record) :
    record.projection.isStarting = false := by
  by_contra starting
  have fits := Sys.displayed_reachable reachable record current
  have control := Sys.controlled_reachable reachable
  obtain ⟨role, -⟩ | role := fits.starting (eq_true_of_ne_false starting)
  · exact ((Control.worker control).stopped _ record role current stopped).2 rfl
  · exact ((Control.worker control).stopped _ record role current stopped).2 rfl

/-- What the browser takes from a stopped runtime: it has stopped in the session's eyes too and shows
no turn that is still queued, or it requires recovery and shows why. -/
def Presentable (runtime : RuntimeState) : Prop :=
  runtime.sessionState = .stopped ∧ (∀ record, runtime.currentTurn = some record → record.projection ≠ .queued) ∨
    runtime.sessionState = .recoveryRequired ∧ ∃ record op asked, runtime.currentTurn = some record ∧
      record.projection = .cloud (.outcomeUnknown op) asked

theorem combination_iff (naming : Naming) (reachable : (Sys.system inner runner env).Reachable sys) :
    validSnapshotCombination (stateText sys.runtime.sessionState)
      ((sys.runtime.snapshot inner).currentTurn.elim .null naming.ofTurn) = true ↔
      (sys.runtime.workerStopped = true → Presentable sys.runtime) := by
  have consistent := Control.runtime (Sys.controlled_reachable reachable)
  have ended (stopped : sys.runtime.workerStopped = true) :
      sys.runtime.sessionState = .stopped ∨ sys.runtime.sessionState = .recoveryRequired :=
    consistent.stoppedState stopped
  cases current : sys.runtime.currentTurn with
  | none =>
      obtain stopped | up := sys.runtime.workerStopped.eq_false_or_eq_true
      · rcases ended stopped with state | state <;>
          simp [RuntimeState.snapshot, Presentable, current, stopped, state, stateText, validSnapshotCombination,
            Value.isNull]
      · have state : sys.runtime.sessionState = .ready := consistent.vacant current up
        simp [RuntimeState.snapshot, current, up, state, stateText, validSnapshotCombination, Value.isNull]
  | some record =>
      have shown : (sys.runtime.snapshot inner).currentTurn = some (record.turnId, record.projection) := by
        simp [RuntimeState.snapshot, current]
      rw [shown, Option.elim_some]
      obtain stopped | up := sys.runtime.workerStopped.eq_false_or_eq_true
      · rcases ended stopped with state | state
        · rw [state, stateText, combination_stopped (begun_of_stopped reachable stopped current)]
          simp [Presentable, current, stopped, state]
        · rw [state, stateText, combination_recovery]
          simp [Presentable, current, stopped, state]
      · have known := (Sys.displayed_reachable reachable record current).known
        have fits : validSnapshotCombination (stateText sys.runtime.sessionState)
            (naming.ofTurn (record.turnId, record.projection)) = true :=
          combination_shown known (consistent.shown record current up)
        simp [fits, up]

/-- The browser accepts the snapshot of a reachable runtime, unless that has stopped and is not
presentable. -/
theorem snapshot_accepted_iff (naming : Naming) (reachable : (Sys.system inner runner env).Reachable sys) :
    validSnapshot (naming.ofSnapshot (sys.runtime.snapshot inner)) = true ↔
      sys.runtime.highWaterSeq < 2 ^ 53 ∧ (sys.runtime.workerStopped = true → Presentable sys.runtime) := by
  have displayed := Sys.displayed_reachable reachable
  rw [validSnapshot_ofSnapshot, ← combination_iff naming reachable]
  refine and_congr_right fun _ => and_iff_right ?_
  intro turn shown
  obtain ⟨record, current, rfl⟩ := Option.map_eq_some_iff.mp shown
  exact validProjection_ofProjection (displayed record current)

end

/-- One UUID for every identifier. -/
def plainNaming : Naming := ⟨fun _ => 1, fun _ => Domain.one_notNil⟩

/-- What decides about a snapshot. -/
def glance (sys : Sys) : P0SessionState × Bool × Option P0TurnProjection × Bool :=
  (sys.runtime.sessionState, sys.runtime.workerStopped, sys.runtime.currentTurn.map TurnRecord.projection,
    decide (sys.runtime.highWaterSeq < 2 ^ 53))

theorem first_snapshot_accepted :
    ∃ sys, (Sys.system plainInner plainRunner fun _ => plainAnswers).Reachable sys ∧
      sys.runtime.sessionState = .running ∧
      validSnapshot (plainNaming.ofSnapshot (sys.runtime.snapshot plainInner)) = true := by
  have found : (Sys.scheduled plainInner plainRunner (fun _ => plainAnswers) (canceledEarly.take 4)).map glance =
      some (.running, false, some (.starting false), true) := by
    decide +kernel
  obtain ⟨sys, ran, seen⟩ := Option.map_eq_some_iff.mp found
  simp only [glance, Prod.mk.injEq, decide_eq_true_eq] at seen
  obtain ⟨running, up, -, safe⟩ := seen
  have reachable := Sys.scheduled_reachable ran
  refine ⟨sys, reachable, running, (snapshot_accepted_iff plainNaming reachable).mpr ⟨safe, ?_⟩⟩
  intro stopped
  cases up.symm.trans stopped

/-- Some run ends in a runtime whose snapshot the browser refuses. -/
def Refuses (answers : Answers) : Prop :=
  ∃ sys, (Sys.system plainInner plainRunner fun _ => answers).Reachable sys ∧ sys.runtime.highWaterSeq < 2 ^ 53 ∧
    ∀ naming : Naming, validSnapshot (naming.ofSnapshot (sys.runtime.snapshot plainInner)) = false

theorem refuses_of_scheduled {answers : Answers} {schedule : List Session.Label} {stopped : Bool}
    {projection : P0TurnProjection}
    (found : (Sys.scheduled plainInner plainRunner (fun _ => answers) schedule).map glance =
      some (state, stopped, some projection, true))
    (refused : ∀ naming turn, validSnapshotCombination (stateText state) (Naming.ofTurn naming (turn, projection)) = false) :
    Refuses answers := by
  obtain ⟨sys, ran, seen⟩ := Option.map_eq_some_iff.mp found
  simp only [glance, Prod.mk.injEq, decide_eq_true_eq] at seen
  obtain ⟨session, -, shown, safe⟩ := seen
  obtain ⟨record, current, projected⟩ := Option.map_eq_some_iff.mp shown
  refine ⟨sys, Sys.scheduled_reachable ran, safe, fun naming => ?_⟩
  rw [← Bool.not_eq_true, validSnapshot_ofSnapshot]
  simp [RuntimeState.snapshot, session, current, projected, refused]

/-- A late start result stops the runtime under the next queued turn, and a late unknown start makes
a stopped runtime require recovery. -/
theorem stopped_snapshots_refused : Refuses plainAnswers ∧ Refuses namelessSubmit := by
  constructor
  · have found : (Sys.scheduled plainInner plainRunner (fun _ => plainAnswers)
        (canceledEarly ++ [.startTurn ⟨['q']⟩, .worker])).map glance = some (.stopped, true, some .queued, true) := by
      decide +kernel
    exact refuses_of_scheduled found fun _ _ => rfl
  · have found : (Sys.scheduled plainInner plainRunner (fun _ => namelessSubmit) abandonedEarly).map glance =
        some (.recoveryRequired, true, some .stoppedBeforeCloudStart, true) := by
      decide +kernel
    exact refuses_of_scheduled found fun _ _ => rfl

end Codebox.Client
