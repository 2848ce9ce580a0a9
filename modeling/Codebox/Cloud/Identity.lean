import Mathlib.Logic.Basic

/-! # Identities, provider values and errors of the Cloud layer

The values every Cloud module exchanges: operation and task identities, the provider's
task status, the durable local projection of one operation, and the two error types.
Texts are lists of characters. An identity that the source validates once and never
rebuilds carries its validity, so a later reader cannot meet a malformed one.
-/

namespace Codebox.Cloud

/-- The replay key of one Cloud submit. Both constructors of the source exclude the nil
value, which is zero here. -/
structure CloudSubmitOperationId where
  value : Nat
  notNil : value ≠ 0
  deriving Repr, DecidableEq

def maxTaskIdBytes : Nat := 128

/-- The characters `CloudTaskId::try_new` lets through; all of them are one byte long. -/
def isTaskIdChar (c : Char) : Bool := c.isAlphanum || c == '_' || c == '-'

/-- The safe positional form of a provider task identifier. -/
def isTaskIdText (text : List Char) : Bool :=
  !text.isEmpty && decide (text.length ≤ maxTaskIdBytes) &&
    "task_".toList.isPrefixOf text && text.all isTaskIdChar

structure CloudTaskId where
  text : List Char
  wellFormed : isTaskIdText text = true
  deriving DecidableEq

instance : Repr CloudTaskId := ⟨fun task _ => repr (String.ofList task.text)⟩

/-- Administrator configuration and provider values that the model passes along and only
compares; their texts were validated when they were built. -/
structure CloudEnvironmentId where
  text : List Char
  deriving Repr, DecidableEq

structure CloudBranch where
  text : List Char
  deriving Repr, DecidableEq

structure CloudCursor where
  text : List Char
  deriving Repr, DecidableEq

structure CloudPrompt where
  text : List Char
  deriving Repr, DecidableEq

inductive CloudTaskStatus where
  | pending | ready | applied | error
  deriving Repr, DecidableEq

/-- One row of the provider's task list; the display columns are never read again. -/
structure CloudTaskSummary where
  id : CloudTaskId
  deriving Repr, DecidableEq

def maxTasks : Nat := 20

/-- A page as `decode_cloud_list` lets it through: bounded, without a repeated task. -/
structure CloudTaskListPage where
  tasks : List CloudTaskSummary
  cursor : Option CloudCursor
  bounded : tasks.length ≤ maxTasks
  distinct : (tasks.map CloudTaskSummary.id).Nodup
  deriving DecidableEq

/-- The durable local projection of one operation. -/
inductive CloudLifecycle where
  | submitting (operationId : CloudSubmitOperationId)
  | failedBeforeSubmit (operationId : CloudSubmitOperationId)
  | outcomeUnknown (operationId : CloudSubmitOperationId)
  | pending (operationId : CloudSubmitOperationId) (taskId : CloudTaskId)
  | ready (operationId : CloudSubmitOperationId) (taskId : CloudTaskId)
  | applied (operationId : CloudSubmitOperationId) (taskId : CloudTaskId)
  | providerError (operationId : CloudSubmitOperationId) (taskId : CloudTaskId)
  | canceledLocally (operationId : CloudSubmitOperationId) (taskId : Option CloudTaskId)
      (providerMayContinue : Bool)
  | abandonedUnknown (operationId : CloudSubmitOperationId)
  deriving Repr, DecidableEq

namespace CloudLifecycle

def operationId : CloudLifecycle → CloudSubmitOperationId
  | submitting op | failedBeforeSubmit op | outcomeUnknown op | pending op _ | ready op _
  | applied op _ | providerError op _ | canceledLocally op _ _ | abandonedUnknown op => op

def taskId : CloudLifecycle → Option CloudTaskId
  | pending _ task | ready _ task | applied _ task | providerError _ task => some task
  | canceledLocally _ task _ => task
  | submitting _ | failedBeforeSubmit _ | outcomeUnknown _ | abandonedUnknown _ => none

-- One rewrite per constructor: a projection of an unknown lifecycle stays folded.
attribute [simp] operationId.eq_1 operationId.eq_2 operationId.eq_3 operationId.eq_4
  operationId.eq_5 operationId.eq_6 operationId.eq_7 operationId.eq_8 operationId.eq_9
  taskId.eq_1 taskId.eq_2 taskId.eq_3 taskId.eq_4 taskId.eq_5 taskId.eq_6 taskId.eq_7
  taskId.eq_8 taskId.eq_9

end CloudLifecycle

structure DuplicateRiskAcknowledgement where
  operationId : CloudSubmitOperationId
  deriving Repr, DecidableEq

inductive UnknownSubmitDecision where
  | adoptListedTask (taskId : CloudTaskId)
  | abandonAfterReconciliation (acknowledgement : DuplicateRiskAcknowledgement)
  deriving Repr, DecidableEq

structure CloudSubmission where
  operationId : CloudSubmitOperationId
  taskId : CloudTaskId
  deriving Repr, DecidableEq

structure CloudReconciliation where
  operationId : CloudSubmitOperationId
  tasks : List CloudTaskSummary
  complete : Bool
  deriving Repr, DecidableEq

inductive CloudSubmitObservation where
  | absent
  | failedBeforeSpawn
  | outcomeUnknown
  | taskRecorded (submission : CloudSubmission)
  | explicitlyAbandoned
  deriving Repr, DecidableEq

inductive CloudUnknownResolution where
  | adoptListedTask (taskId : CloudTaskId)
  | explicitlyAbandon
  deriving Repr, DecidableEq

inductive CloudRunnerErrorCategory where
  | scope | busy | version | notAuthenticated | loginOutcomeUnknown | diagnosticBoundary
  | ledgerInvalid | ledgerUnavailable | process | timeout | canceledBeforeStart
  | providerOutput | outcomeUnknown | recoveryRequired | priorFailedBeforeSpawn
  | priorExplicitlyAbandoned | reconciliationCycle | noUnknownOperation | operationConflict
  | resolutionUnavailable | resolutionConflict | candidateNotRecorded
  deriving Repr, DecidableEq

structure CloudRunnerError where
  category : CloudRunnerErrorCategory
  operationId : Option CloudSubmitOperationId := none
  deriving Repr, DecidableEq

namespace CloudRunnerError

@[simp] def forOperation (category : CloudRunnerErrorCategory) (op : CloudSubmitOperationId) :
    CloudRunnerError := ⟨category, some op⟩

@[simp] def withOperation (error : CloudRunnerError) (op : CloudSubmitOperationId) :
    CloudRunnerError := forOperation error.category op

end CloudRunnerError

inductive CloudLifecycleErrorCategory where
  | scope | busy | turnAlreadyRunning | noCurrentOperation | wrongState | staleDecision
  | taskNotListed | acknowledgementRequired | lowerRunner | providerRead | operationConflict
  | outcomeUnknown | ledgerInvalid | ledgerUnavailable | recoveryRequired
  deriving Repr, DecidableEq

structure CloudLifecycleError where
  category : CloudLifecycleErrorCategory
  operationId : Option CloudSubmitOperationId := none
  deriving Repr, DecidableEq

namespace CloudLifecycleError

@[simp] def forOperation (category : CloudLifecycleErrorCategory) (op : CloudSubmitOperationId) :
    CloudLifecycleError := ⟨category, some op⟩

end CloudLifecycleError

end Codebox.Cloud
