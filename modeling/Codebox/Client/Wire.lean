import Mathlib.Algebra.Group.Int.Defs
import Mathlib.Data.List.Perm.Basic

/-! # Values of the wire in the browser

What a script reads from a parsed text: `undefined` is there for a property that an object does not
have, the numbers are told apart only by what the code asks of them, and a string with half a
surrogate pair, of which nothing is asked but that it is a string, has a constructor of its own. The
validators are the ones that the controller runs on each answer and on each frame.
-/

namespace Codebox.Client

inductive Value where
  | undefined
  | null
  | bool (b : Bool)
  /-- A number with an integral value. -/
  | integer (n : Int)
  /-- Any other number. -/
  | fraction
  | string (text : String)
  /-- A string with half a surrogate pair. -/
  | brokenString
  | array (items : List Value)
  /-- The properties by name, with no name for one that has half a surrogate pair. -/
  | object (members : List (Option String × Value))
  deriving Repr, Inhabited

namespace Value

/-- Reading a property. -/
def get (value : Value) (key : String) : Value :=
  match value with
  | .object members => (members.lookup (some key)).getD .undefined
  | _ => .undefined

/-- The operator `in`. -/
def has (value : Value) (key : String) : Bool :=
  match value with
  | .object members => (members.lookup (some key)).isSome
  | _ => false

def truthy : Value → Bool
  | .undefined | .null | .bool false => false
  | .integer n => n != 0
  | .string text => text != ""
  | _ => true

def isNull : Value → Bool
  | .null => true
  | _ => false

def isBoolean : Value → Bool
  | .bool _ => true
  | _ => false

def isString : Value → Bool
  | .string _ | .brokenString => true
  | _ => false

/-- Strict equality with a string. -/
def isText (value : Value) (text : String) : Bool :=
  match value with
  | .string found => found == text
  | _ => false

/-- Strict equality with a number. -/
def isNumber (value : Value) (n : Nat) : Bool :=
  match value with
  | .integer found => found == n
  | _ => false

/-- Membership in a set of strings. -/
def isOneOf (value : Value) (texts : List String) : Bool :=
  match value with
  | .string text => texts.contains text
  | _ => false

/-- The text of a value that has been checked to be a string. -/
def text : Value → String
  | .string text => text
  | _ => ""

/-- The number of a value that has been checked to be a sequence number. -/
def seq : Value → Nat
  | .integer n => n.toNat
  | _ => 0

end Value

def exactKeys (value : Value) (expected : List String) : Bool :=
  match value with
  | .object members => (members.map Prod.fst).isPerm (expected.map some)
  | _ => false

def isHex (c : Char) : Bool := ('0' ≤ c && c ≤ '9') || ('a' ≤ c && c ≤ 'f') || ('A' ≤ c && c ≤ 'F')

/-- Groups of characters of one class, of the given lengths and with a dash between them. -/
def matchesGroups (allowed : Char → Bool) : List Nat → List Char → Bool
  | [], text => text.isEmpty
  | [n], text => text.length == n && text.all allowed
  | n :: rest, text => (text.take n).length == n && (text.take n).all allowed && text[n]? == some '-' &&
      matchesGroups allowed rest (text.drop (n + 1))

def isUuid : Value → Bool
  | .string text => matchesGroups isHex [8, 4, 4, 4, 12] text.toList && text != "00000000-0000-0000-0000-000000000000"
  | _ => false

def maxSafeInteger : Int := 2 ^ 53 - 1

def isSeq : Value → Bool
  | .integer n => 0 ≤ n && n ≤ maxSafeInteger
  | _ => false

/-! ## Validators -/

def loginStates : List String := ["logged_out", "device_login_pending", "logged_in", "outcome_unknown"]

def sessionStates : List String := ["ready", "running", "recovery_required", "monitoring_degraded", "stopped"]

def eventTypes : List String :=
  ["turn_accepted", "turn_canceled_before_cloud_start", "lifecycle_changed", "cancel_requested", "monitoring_degraded",
    "recovery_observed", "recovery_resolved", "runtime_stopped"]

def cloudStates : List String :=
  ["failed_before_submit", "outcome_unknown", "pending", "ready", "applied", "provider_error", "canceled_locally",
    "abandoned_unknown"]

def readyCloudStates : List String :=
  ["failed_before_submit", "ready", "applied", "provider_error", "canceled_locally", "abandoned_unknown"]

def isTaskChar (c : Char) : Bool :=
  ('A' ≤ c && c ≤ 'Z') || ('a' ≤ c && c ≤ 'z') || ('0' ≤ c && c ≤ '9') || c == '_' || c == '-'

def validCloudTaskId : Value → Bool
  | .string text => text.toList.length ≤ 128 && text.toList.take 5 == ['t', 'a', 's', 'k', '_'] &&
      (text.toList.drop 5).all isTaskChar
  | _ => false

def validCloudLifecycle (value : Value) : Bool :=
  value.truthy && (value.get "state").isOneOf cloudStates && isUuid (value.get "operation_id") &&
    match (value.get "state").text with
    | "submitting" | "failed_before_submit" | "outcome_unknown" | "abandoned_unknown" =>
        exactKeys value ["state", "operation_id"]
    | "pending" | "ready" | "applied" | "provider_error" =>
        exactKeys value ["state", "operation_id", "task_id"] && validCloudTaskId (value.get "task_id")
    | "canceled_locally" =>
        exactKeys value ["state", "operation_id", "task_id", "provider_may_continue"] &&
          ((value.get "task_id").isNull || validCloudTaskId (value.get "task_id")) &&
          (value.get "provider_may_continue").isBoolean
    | _ => false

def validProjection (value : Value) : Bool :=
  value.truthy && (value.get "phase").isString &&
    match (value.get "phase").text with
    | "queued" | "canceled_before_cloud_start" | "stopped_before_cloud_start" | "stopped_after_lower_failure" =>
        exactKeys value ["phase"]
    | "starting" => exactKeys value ["phase", "cancel_requested"] && (value.get "cancel_requested").isBoolean
    | "cloud" =>
        exactKeys value ["phase", "lifecycle", "cancel_requested"] && validCloudLifecycle (value.get "lifecycle") &&
          (value.get "cancel_requested").isBoolean
    | "monitoring_degraded" =>
        exactKeys value ["phase", "operation_id", "last_known_pending", "cancel_requested"] &&
          isUuid (value.get "operation_id") && validCloudLifecycle (value.get "last_known_pending") &&
          ((value.get "last_known_pending").get "state").isText "pending" &&
          (value.get "operation_id").isText ((value.get "last_known_pending").get "operation_id").text &&
          (value.get "cancel_requested").isBoolean
    | _ => false

def validSnapshotCombination (state : String) (currentTurn : Value) : Bool :=
  if currentTurn.isNull then state == "ready" || state == "stopped"
  else
    let projection := currentTurn.get "projection"
    let phase := (projection.get "phase").text
    let lifecycle := (projection.get "lifecycle").get "state"
    match state with
    | "ready" => phase == "canceled_before_cloud_start" || (phase == "cloud" && lifecycle.isOneOf readyCloudStates)
    | "running" => phase == "queued" || phase == "starting" || (phase == "cloud" && lifecycle.isText "pending")
    | "recovery_required" => phase == "cloud" && lifecycle.isText "outcome_unknown"
    | "monitoring_degraded" => phase == "monitoring_degraded"
    | "stopped" =>
        phase == "canceled_before_cloud_start" || phase == "stopped_before_cloud_start" ||
          phase == "stopped_after_lower_failure" || phase == "cloud" || phase == "monitoring_degraded"
    | _ => false

def validSnapshot (value : Value) : Bool :=
  exactKeys value ["identity", "state", "current_turn", "high_water_seq"] &&
    exactKeys (value.get "identity") ["session_id", "instance_id"] &&
    isUuid ((value.get "identity").get "session_id") && isUuid ((value.get "identity").get "instance_id") &&
    (value.get "state").isOneOf sessionStates && isSeq (value.get "high_water_seq") &&
    if (value.get "current_turn").isNull then validSnapshotCombination (value.get "state").text .null
    else
      exactKeys (value.get "current_turn") ["turn_id", "projection"] && isUuid ((value.get "current_turn").get "turn_id") &&
        validProjection ((value.get "current_turn").get "projection") &&
        validSnapshotCombination (value.get "state").text (value.get "current_turn")

def validLoginStatus (value : Value) : Bool :=
  value.truthy && (value.get "state").isOneOf loginStates &&
    if (value.get "state").isText "device_login_pending" || (value.get "state").isText "outcome_unknown" then
      exactKeys value ["state", "operation_id"] && isUuid (value.get "operation_id")
    else exactKeys value ["state"]

/-- An integer within bounds. -/
def isWithin (value : Value) (lower upper : Int) : Bool :=
  match value with
  | .integer n => lower ≤ n && n ≤ upper
  | _ => false

def validBootstrap (value : Value) : Bool :=
  exactKeys value ["actor", "expires_in_seconds", "p0_session_id", "instance_id"] && (value.get "actor").isText "operator" &&
    isWithin (value.get "expires_in_seconds") 300 43200 && isUuid (value.get "p0_session_id") &&
    isUuid (value.get "instance_id")

def isCodeChar (c : Char) : Bool := ('A' ≤ c && c ≤ 'Z') || ('0' ≤ c && c ≤ '9')

def isVerificationCode : Value → Bool
  | .string text => matchesGroups isCodeChar [4, 5] text.toList
  | _ => false

def validDeviceLogin (value : Value) : Bool :=
  exactKeys value ["operation_id", "verification_url", "verification_code", "expires_in_seconds"] &&
    isUuid (value.get "operation_id") && (value.get "verification_url").isText "https://auth.openai.com/codex/device" &&
    isVerificationCode (value.get "verification_code") && (value.get "expires_in_seconds").isNumber 900

def validTurnReceipt (value : Value) : Bool :=
  exactKeys value ["turn_id", "high_water_seq"] && isUuid (value.get "turn_id") && isSeq (value.get "high_water_seq")

def isTaskList : Value → Bool
  | .array items => items.length ≤ 100 && items.all validCloudTaskId
  | _ => false

def validPayload (value : Value) : Bool :=
  value.truthy && (value.get "type").isOneOf eventTypes &&
    match (value.get "type").text with
    | "turn_accepted" | "turn_canceled_before_cloud_start" | "monitoring_degraded" => exactKeys value ["type"]
    | "lifecycle_changed" => exactKeys value ["type", "lifecycle"] && validCloudLifecycle (value.get "lifecycle")
    | "cancel_requested" => exactKeys value ["type", "actor"] && (value.get "actor").isText "operator"
    | "recovery_observed" =>
        exactKeys value ["type", "actor", "operation_id", "task_ids", "complete"] && (value.get "actor").isText "operator" &&
          isUuid (value.get "operation_id") && isTaskList (value.get "task_ids") && (value.get "complete").isBoolean
    | "recovery_resolved" =>
        exactKeys value ["type", "actor", "operation_id", "decision"] && (value.get "actor").isText "operator" &&
          isUuid (value.get "operation_id") &&
          ((value.get "decision").isText "adopt" || (value.get "decision").isText "abandon")
    | "runtime_stopped" =>
        exactKeys value ["type", "reason"] &&
          ((value.get "reason").isText "shutdown" || (value.get "reason").isText "lower_failure")
    | _ => false

def validEnvelope (value : Value) (sessionId : String) : Bool :=
  exactKeys value ["schema_version", "session_id", "seq", "turn_id", "payload"] && (value.get "schema_version").isNumber 1 &&
    (value.get "session_id").isText sessionId && isSeq (value.get "seq") &&
    ((value.get "turn_id").isNull || isUuid (value.get "turn_id")) && validPayload (value.get "payload")

def validStored (value : Value) : Bool :=
  exactKeys value ["schema_version", "instance_id", "session_id", "event_seq"] &&
    (value.get "schema_version").isNumber 1 && isUuid (value.get "instance_id") && isUuid (value.get "session_id") &&
    isSeq (value.get "event_seq")

end Codebox.Client
