import Codebox.Client.Wire

/-! # Requests of the browser

The answers that the controller tells apart: each code of an error has the status it comes with and a
disposition, and an answer that cannot be read leaves the outcome of a mutation open.
-/

namespace Codebox.Client

inductive Message where
  | none
  | authenticationRequired
  | stateChanged
  | recoveryRequired
  | actionRejected
  | serviceFailed
  | requestFailed
  | responseTooLarge
  | diffTooLarge
  | invalidBootstrap
  | invalidPrompt
  | protocolError
  | streamWaiting
  deriving Repr, DecidableEq, Inhabited

/-! ## Error codes -/

def reauthCodes : List String := ["authentication_required"]

def resyncCodes : List String :=
  ["instance_changed", "session_changed", "history_gap", "future_cursor", "operation_changed", "diff_authority_changed"]

def recoveryCodes : List String := ["login_outcome_unknown", "provider_outcome_unknown", "provider_recovery_required"]

def rejectedCodes : List String :=
  ["origin_forbidden", "session_limit", "idempotency_key_invalid", "idempotency_conflict", "unsupported_media_type",
    "request_too_large", "body_not_empty", "malformed_json", "invalid_request", "invalid_value", "acknowledgement_required",
    "task_not_listed", "login_already_running", "already_logged_in", "login_failed", "turn_already_running",
    "no_current_turn", "session_wrong_state", "recovery_decision_stale", "provider_turn_running", "no_current_operation",
    "provider_wrong_state", "diff_not_ready", "diff_canceled"]

def serviceCodes : List String :=
  ["idempotency_unavailable", "service_unavailable", "login_unavailable", "login_version_mismatch", "login_provider_drift",
    "login_output_limit", "login_status_unavailable", "login_process_unavailable", "login_state_unavailable",
    "login_state_invalid", "session_config_invalid", "session_stopped", "subscriber_limit", "session_sequence_exhausted",
    "provider_state_conflict", "provider_scope_unavailable", "provider_busy", "provider_runner_unavailable",
    "provider_read_unavailable", "provider_operation_conflict", "provider_state_invalid", "provider_state_unavailable",
    "diff_scope_unavailable", "diff_busy", "diff_version_mismatch", "diff_boundary_unavailable", "diff_process_unavailable",
    "diff_timeout", "diff_output_limit", "diff_provider_drift", "diff_invalid"]

def httpCodes : List String := reauthCodes ++ resyncCodes ++ recoveryCodes ++ rejectedCodes ++ serviceCodes

/-- The status of each code, as groups of codes with one status. -/
def httpStatus : List (Nat × List String) :=
  [(400, ["idempotency_key_invalid", "malformed_json"]),
    (401, ["authentication_required"]),
    (403, ["origin_forbidden"]),
    (409, ["instance_changed", "idempotency_conflict", "login_already_running", "already_logged_in", "login_failed",
      "login_outcome_unknown", "turn_already_running", "no_current_turn", "session_wrong_state", "session_changed",
      "operation_changed", "history_gap", "future_cursor", "provider_state_conflict", "provider_turn_running",
      "no_current_operation", "provider_wrong_state", "recovery_decision_stale", "provider_operation_conflict",
      "provider_outcome_unknown", "provider_recovery_required", "diff_not_ready", "diff_authority_changed",
      "diff_canceled"]),
    (413, ["request_too_large"]),
    (415, ["unsupported_media_type"]),
    (422, ["body_not_empty", "invalid_request", "invalid_value", "acknowledgement_required", "task_not_listed"]),
    (429, ["session_limit"]),
    (503, ["idempotency_unavailable", "service_unavailable", "login_unavailable", "login_version_mismatch",
      "login_provider_drift", "login_output_limit", "login_status_unavailable", "login_process_unavailable",
      "login_state_unavailable", "login_state_invalid", "session_config_invalid", "session_stopped", "subscriber_limit",
      "session_sequence_exhausted", "provider_scope_unavailable", "provider_busy", "provider_runner_unavailable",
      "provider_read_unavailable", "provider_state_invalid", "provider_state_unavailable", "diff_scope_unavailable",
      "diff_busy", "diff_version_mismatch", "diff_boundary_unavailable", "diff_process_unavailable", "diff_output_limit",
      "diff_provider_drift", "diff_invalid"]),
    (504, ["diff_timeout"])]

def statusOf (code : String) : Option Nat := (httpStatus.find? fun group => group.2.contains code).map Prod.fst

def operationErrorCodes : List String :=
  ["provider_scope_unavailable", "provider_busy", "provider_turn_running", "no_current_operation", "provider_wrong_state",
    "recovery_decision_stale", "task_not_listed", "acknowledgement_required", "provider_runner_unavailable",
    "provider_read_unavailable", "provider_operation_conflict", "provider_outcome_unknown", "provider_state_invalid",
    "provider_state_unavailable", "provider_recovery_required"]

inductive Disposition where
  | reauth
  | resync
  | recovery
  | rejected
  | service
  | unknown
  deriving Repr, DecidableEq

def errorDisposition (code : String) : Disposition × Message :=
  if reauthCodes.contains code then (.reauth, .authenticationRequired)
  else if resyncCodes.contains code then (.resync, .stateChanged)
  else if recoveryCodes.contains code then (.recovery, .recoveryRequired)
  else if rejectedCodes.contains code then (.rejected, .actionRejected)
  else if serviceCodes.contains code then (.service, .serviceFailed)
  else (.unknown, .requestFailed)

/-! ## Requests -/

/-- The mutations that share one path through the controller. -/
inductive Mutation where
  | startDeviceLogin
  | cancelDeviceLogin
  | submitPrompt
  | cancelTurn
  deriving Repr, DecidableEq

inductive Route where
  | session
  | login
  | bootstrap
  | mutation (mutation : Mutation)
  | diff
  | logout
  deriving Repr, DecidableEq

/-- Whether the request changes something, so that an unread answer leaves its outcome open. -/
def Route.mutates : Route → Bool
  | .session | .login | .diff => false
  | .bootstrap | .mutation _ | .logout => true

/-- The check of a body that comes with the expected status. -/
def Route.validate : Route → Value → Bool
  | .session => validSnapshot
  | .login => validLoginStatus
  | .bootstrap => validBootstrap
  | .mutation .startDeviceLogin => validDeviceLogin
  | .mutation .cancelDeviceLogin => validLoginStatus
  | .mutation .submitPrompt => validTurnReceipt
  | .mutation .cancelTurn => validSnapshot
  | .diff => Value.isString
  | .logout => Value.isNull

/-- What comes back from the network. -/
inductive Reply where
  /-- No answer, one that came too late, or one whose body cannot be read. -/
  | thrown
  /-- A body over its limit, with the expected status or not. -/
  | tooLarge (expected : Bool)
  | redirected
  | expected (value : Value)
  | refused (status : Nat) (value : Value)

structure Failure where
  ambiguous : Bool
  disposition : Disposition
  message : Message
  deriving Repr, DecidableEq

inductive Result where
  | ok (value : Value)
  | failed (failure : Failure)

/-- The code of a well-formed error. -/
def errorCode (status : Nat) (value : Value) : Option String :=
  let error := value.get "error"
  let code := error.get "code"
  if exactKeys value ["error"] && error.truthy && code.isOneOf httpCodes && statusOf code.text == some status &&
      (error.get "message").isString then
    if exactKeys error ["code", "message"] || (operationErrorCodes.contains code.text &&
        exactKeys error ["code", "message", "operation_id"] && isUuid (error.get "operation_id")) then
      some code.text
    else none
  else none

def request (route : Route) (reply : Reply) : Result :=
  let unread (message : Message) : Result := .failed ⟨route.mutates, .unknown, message⟩
  match reply with
  | .thrown | .redirected => unread .requestFailed
  | .tooLarge expected => unread (if expected && route == .diff then .diffTooLarge else .responseTooLarge)
  | .expected value => if route.validate value then .ok value else unread .requestFailed
  | .refused status value =>
      match errorCode status value with
      | some code => .failed ⟨false, (errorDisposition code).1, (errorDisposition code).2⟩
      | none => unread .requestFailed

end Codebox.Client
