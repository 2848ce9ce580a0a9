import Mathlib.Algebra.Group.Nat.Defs
import Mathlib.Data.List.Basic
import Codebox.Support.Fold

/-! # The session reducer

A session is replayed from its durable events: `SessionReducer::apply` takes one envelope, checks its
stream, its sequence number and its schema version, and lets the payload move the projection. The
checks are made in that order, and a payload that does not fit the status is refused before the
identities it names are compared.

The event, causation and correlation identifiers of an envelope are not read by the reducer and are
left out; an instant is a number of nanoseconds.
-/

namespace Codebox.Domain

open Codebox.Support

/-! ## Identities and sequence numbers -/

abbrev Uuid := BitVec 128

structure SessionId where
  uuid : Uuid
  notNil : uuid ≠ 0
  deriving Repr, DecidableEq

structure TurnId where
  uuid : Uuid
  notNil : uuid ≠ 0
  deriving Repr, DecidableEq

structure ApprovalId where
  uuid : Uuid
  notNil : uuid ≠ 0
  deriving Repr, DecidableEq

structure SandboxId where
  uuid : Uuid
  notNil : uuid ≠ 0
  deriving Repr, DecidableEq

/-- A `u64`. -/
structure EventSeq where
  value : Nat
  bounded : value < 2 ^ 64
  deriving Repr, DecidableEq

namespace EventSeq

def initial : EventSeq := ⟨0, Nat.two_pow_pos 64⟩

/-- The next number, unless it is not representable. -/
def checkedNext (seq : EventSeq) : Option EventSeq :=
  if bounded : seq.value + 1 < 2 ^ 64 then some ⟨seq.value + 1, bounded⟩ else none

theorem checkedNext_eq_some {seq next : EventSeq} :
    seq.checkedNext = some next ↔ next.value = seq.value + 1 := by
  unfold checkedNext
  split
  · rw [Option.some.injEq]
    constructor
    · rintro rfl
      rfl
    · intro same
      cases next
      simp_all
  · have := next.bounded
    simp
    omega

end EventSeq

/-! ## Events -/

def domainEventSchemaV1 : UInt16 := 1

inductive ApprovalDecision where
  | approved | denied
  deriving Repr, DecidableEq

inductive DomainEventKind where
  | sessionCreated | sandboxProvisioned | provisioningFailed | turnStarted | approvalRequested
  | approvalResolved | turnCancellationRequested | turnCancelled | turnCompleted | turnFailed
  | sessionIdled | sessionResumed | sessionArchivingStarted | sessionArchived
  deriving Repr, DecidableEq

inductive DomainEvent where
  | sessionCreated
  | sandboxProvisioned (sandboxId : SandboxId)
  | provisioningFailed
  | turnStarted (turnId : TurnId)
  | approvalRequested (turnId : TurnId) (approvalId : ApprovalId)
  | approvalResolved (turnId : TurnId) (approvalId : ApprovalId) (decision : ApprovalDecision)
  | turnCancellationRequested (turnId : TurnId)
  | turnCancelled (turnId : TurnId)
  | turnCompleted (turnId : TurnId)
  | turnFailed (turnId : TurnId)
  | sessionIdled
  | sessionResumed
  | sessionArchivingStarted
  | sessionArchived
  deriving Repr, DecidableEq

def DomainEvent.kind : DomainEvent → DomainEventKind
  | sessionCreated => .sessionCreated
  | sandboxProvisioned _ => .sandboxProvisioned
  | provisioningFailed => .provisioningFailed
  | turnStarted _ => .turnStarted
  | approvalRequested _ _ => .approvalRequested
  | approvalResolved _ _ _ => .approvalResolved
  | turnCancellationRequested _ => .turnCancellationRequested
  | turnCancelled _ => .turnCancelled
  | turnCompleted _ => .turnCompleted
  | turnFailed _ => .turnFailed
  | sessionIdled => .sessionIdled
  | sessionResumed => .sessionResumed
  | sessionArchivingStarted => .sessionArchivingStarted
  | sessionArchived => .sessionArchived

structure DomainEventEnvelope where
  streamId : SessionId
  seq : EventSeq
  schemaVersion : UInt16
  occurredAt : Int
  payload : DomainEvent
  deriving Repr, DecidableEq

/-! ## The reducer -/

inductive SessionStatus where
  | provisioning | ready | running | waitingApproval | cancelling | idle | failed | archiving | archived
  deriving Repr, DecidableEq

structure SessionProjection where
  sessionId : SessionId
  status : SessionStatus
  activeTurn : Option TurnId
  pendingApproval : Option ApprovalId
  sandboxId : Option SandboxId
  lastActivity : Int
  lastSeq : EventSeq
  deriving Repr, DecidableEq

inductive SessionReducerError where
  | wrongStream (expected actual : SessionId)
  | sequenceOverflow (current : EventSeq)
  | unexpectedSequence (expected actual : EventSeq)
  | unsupportedSchemaVersion (supported actual : UInt16)
  | sessionNotCreated (event : DomainEventKind)
  | invalidTransition (state : SessionStatus) (event : DomainEventKind)
  | activeTurnMismatch (expected : Option TurnId) (actual : TurnId)
  | pendingApprovalMismatch (expected : Option ApprovalId) (actual : ApprovalId)
  deriving Repr, DecidableEq

def requireStatus (projection : SessionProjection) (expected : SessionStatus) (event : DomainEventKind) :
    Except SessionReducerError Unit :=
  if projection.status = expected then .ok () else .error (.invalidTransition projection.status event)

def requireActiveTurn (projection : SessionProjection) (actual : TurnId) : Except SessionReducerError Unit :=
  if projection.activeTurn = some actual then .ok ()
  else .error (.activeTurnMismatch projection.activeTurn actual)

def requirePendingApproval (projection : SessionProjection) (actual : ApprovalId) :
    Except SessionReducerError Unit :=
  if projection.pendingApproval = some actual then .ok ()
  else .error (.pendingApprovalMismatch projection.pendingApproval actual)

def applyTransition (projection : SessionProjection) (event : DomainEvent) :
    Except SessionReducerError SessionProjection :=
  match event with
  | .sessionCreated => .error (.invalidTransition projection.status event.kind)
  | .sandboxProvisioned sandboxId => do
      requireStatus projection .provisioning event.kind
      return { projection with status := .ready, sandboxId := some sandboxId }
  | .provisioningFailed => do
      requireStatus projection .provisioning event.kind
      return { projection with status := .failed }
  | .turnStarted turnId => do
      requireStatus projection .ready event.kind
      return { projection with status := .running, activeTurn := some turnId }
  | .approvalRequested turnId approvalId => do
      requireStatus projection .running event.kind
      requireActiveTurn projection turnId
      return { projection with status := .waitingApproval, pendingApproval := some approvalId }
  | .approvalResolved turnId approvalId _ => do
      requireStatus projection .waitingApproval event.kind
      requireActiveTurn projection turnId
      requirePendingApproval projection approvalId
      return { projection with status := .running, pendingApproval := none }
  | .turnCancellationRequested turnId => do
      requireStatus projection .running event.kind
      requireActiveTurn projection turnId
      return { projection with status := .cancelling }
  | .turnCancelled turnId => do
      requireStatus projection .cancelling event.kind
      requireActiveTurn projection turnId
      return { projection with status := .ready, activeTurn := none }
  | .turnCompleted turnId => do
      requireStatus projection .running event.kind
      requireActiveTurn projection turnId
      return { projection with status := .ready, activeTurn := none }
  | .turnFailed turnId => do
      requireStatus projection .running event.kind
      requireActiveTurn projection turnId
      return { projection with status := .failed, activeTurn := none }
  | .sessionIdled => do
      requireStatus projection .ready event.kind
      return { projection with status := .idle }
  | .sessionResumed => do
      requireStatus projection .idle event.kind
      return { projection with status := .ready }
  | .sessionArchivingStarted =>
      match projection.status with
      | .ready | .idle | .failed => .ok { projection with status := .archiving }
      | status => .error (.invalidTransition status event.kind)
  | .sessionArchived => do
      requireStatus projection .archiving event.kind
      return { projection with status := .archived }

structure SessionReducer where
  streamId : SessionId
  lastSeq : EventSeq
  projection : Option SessionProjection
  deriving Repr, DecidableEq

namespace SessionReducer

def new (streamId : SessionId) : SessionReducer := ⟨streamId, .initial, none⟩

/-- The projection after an event that has passed the checks of its envelope. -/
def project (reducer : SessionReducer) (event : DomainEventEnvelope) :
    Except SessionReducerError SessionProjection :=
  match reducer.projection with
  | none =>
      if event.payload ≠ .sessionCreated then .error (.sessionNotCreated event.payload.kind)
      else .ok ⟨reducer.streamId, .provisioning, none, none, none, event.occurredAt, event.seq⟩
  | some current => do
      let next ← applyTransition current event.payload
      return { next with lastActivity := event.occurredAt, lastSeq := event.seq }

def apply (reducer : SessionReducer) (event : DomainEventEnvelope) :
    Except SessionReducerError SessionReducer :=
  if event.streamId ≠ reducer.streamId then
    .error (.wrongStream reducer.streamId event.streamId)
  else match reducer.lastSeq.checkedNext with
    | none => .error (.sequenceOverflow reducer.lastSeq)
    | some expected =>
        if event.seq ≠ expected then .error (.unexpectedSequence expected event.seq)
        else if event.schemaVersion ≠ domainEventSchemaV1 then
          .error (.unsupportedSchemaVersion domainEventSchemaV1 event.schemaVersion)
        else do
          let projection ← reducer.project event
          return ⟨reducer.streamId, event.seq, some projection⟩

/-- Fold a stream of events. -/
def replay (reducer : SessionReducer) (events : List DomainEventEnvelope) :
    Except SessionReducerError SessionReducer :=
  events.foldlM apply reducer

end SessionReducer

/-! ## What an event does -/

/-- What is checked of an event that names the turn under way. -/
structure OfTurn (projection : SessionProjection) (status : SessionStatus) (turn : TurnId) : Prop where
  status : projection.status = status
  turn : projection.activeTurn = some turn

/-- The transitions, with what each of them asks of the projection. -/
inductive Moves (p : SessionProjection) : DomainEvent → SessionProjection → Prop where
  | sandboxProvisioned (sandbox : SandboxId) (starting : p.status = .provisioning) :
      Moves p (.sandboxProvisioned sandbox) { p with status := .ready, sandboxId := some sandbox }
  | provisioningFailed (starting : p.status = .provisioning) :
      Moves p .provisioningFailed { p with status := .failed }
  | turnStarted (turn : TurnId) (ready : p.status = .ready) :
      Moves p (.turnStarted turn) { p with status := .running, activeTurn := some turn }
  | approvalRequested (turn : TurnId) (approval : ApprovalId) (running : OfTurn p .running turn) :
      Moves p (.approvalRequested turn approval)
        { p with status := .waitingApproval, pendingApproval := some approval }
  | approvalResolved (turn : TurnId) (approval : ApprovalId) (decision : ApprovalDecision)
      (waiting : OfTurn p .waitingApproval turn) (pending : p.pendingApproval = some approval) :
      Moves p (.approvalResolved turn approval decision) { p with status := .running, pendingApproval := none }
  | turnCancellationRequested (turn : TurnId) (running : OfTurn p .running turn) :
      Moves p (.turnCancellationRequested turn) { p with status := .cancelling }
  | turnCancelled (turn : TurnId) (cancelling : OfTurn p .cancelling turn) :
      Moves p (.turnCancelled turn) { p with status := .ready, activeTurn := none }
  | turnCompleted (turn : TurnId) (running : OfTurn p .running turn) :
      Moves p (.turnCompleted turn) { p with status := .ready, activeTurn := none }
  | turnFailed (turn : TurnId) (running : OfTurn p .running turn) :
      Moves p (.turnFailed turn) { p with status := .failed, activeTurn := none }
  | sessionIdled (ready : p.status = .ready) : Moves p .sessionIdled { p with status := .idle }
  | sessionResumed (idle : p.status = .idle) : Moves p .sessionResumed { p with status := .ready }
  | sessionArchivingStarted (settled : p.status = .ready ∨ p.status = .idle ∨ p.status = .failed) :
      Moves p .sessionArchivingStarted { p with status := .archiving }
  | sessionArchived (archiving : p.status = .archiving) : Moves p .sessionArchived { p with status := .archived }

section

variable {α : Type} {p next : SessionProjection} {event : DomainEvent} {rest : Except SessionReducerError α} {value : α}

theorem requireStatus_bind {status : SessionStatus} {kind : DomainEventKind} :
    (requireStatus p status kind >>= fun _ => rest) = .ok value ↔ p.status = status ∧ rest = .ok value := by
  unfold requireStatus
  split <;> simp_all [bind, Except.bind]

theorem requireActiveTurn_bind {turn : TurnId} :
    (requireActiveTurn p turn >>= fun _ => rest) = .ok value ↔ p.activeTurn = some turn ∧ rest = .ok value := by
  unfold requireActiveTurn
  split <;> simp_all [bind, Except.bind]

theorem requirePendingApproval_bind {approval : ApprovalId} :
    (requirePendingApproval p approval >>= fun _ => rest) = .ok value ↔
      p.pendingApproval = some approval ∧ rest = .ok value := by
  unfold requirePendingApproval
  split <;> simp_all [bind, Except.bind]

theorem applyTransition_eq_ok : applyTransition p event = .ok next ↔ Moves p event next := by
  constructor
  · intro applied
    cases event <;> simp only [applyTransition, requireStatus_bind, requireActiveTurn_bind,
      requirePendingApproval_bind, pure, Except.pure, Except.ok.injEq] at applied
    case sessionCreated => cases applied
    case sandboxProvisioned sandbox =>
      obtain ⟨starting, rfl⟩ := applied
      exact .sandboxProvisioned sandbox starting
    case provisioningFailed =>
      obtain ⟨starting, rfl⟩ := applied
      exact .provisioningFailed starting
    case turnStarted turn =>
      obtain ⟨ready, rfl⟩ := applied
      exact .turnStarted turn ready
    case approvalRequested turn approval =>
      obtain ⟨running, active, rfl⟩ := applied
      exact .approvalRequested turn approval ⟨running, active⟩
    case approvalResolved turn approval decision =>
      obtain ⟨waiting, active, pending, rfl⟩ := applied
      exact .approvalResolved turn approval decision ⟨waiting, active⟩ pending
    case turnCancellationRequested turn =>
      obtain ⟨running, active, rfl⟩ := applied
      exact .turnCancellationRequested turn ⟨running, active⟩
    case turnCancelled turn =>
      obtain ⟨cancelling, active, rfl⟩ := applied
      exact .turnCancelled turn ⟨cancelling, active⟩
    case turnCompleted turn =>
      obtain ⟨running, active, rfl⟩ := applied
      exact .turnCompleted turn ⟨running, active⟩
    case turnFailed turn =>
      obtain ⟨running, active, rfl⟩ := applied
      exact .turnFailed turn ⟨running, active⟩
    case sessionIdled =>
      obtain ⟨ready, rfl⟩ := applied
      exact .sessionIdled ready
    case sessionResumed =>
      obtain ⟨idle, rfl⟩ := applied
      exact .sessionResumed idle
    case sessionArchivingStarted =>
      split at applied <;> cases applied <;> rename_i status <;> apply Moves.sessionArchivingStarted
      · exact .inl status
      · exact .inr (.inl status)
      · exact .inr (.inr status)
    case sessionArchived =>
      obtain ⟨archiving, rfl⟩ := applied
      exact .sessionArchived archiving
  · intro moves
    cases moves <;> simp only [applyTransition, requireStatus_bind, requireActiveTurn_bind,
      requirePendingApproval_bind, pure, Except.pure, and_true]
    case sandboxProvisioned starting => exact starting
    case provisioningFailed starting => exact starting
    case turnStarted ready => exact ready
    case approvalRequested running => exact ⟨running.status, running.turn⟩
    case approvalResolved waiting pending => exact ⟨waiting.status, waiting.turn, pending⟩
    case turnCancellationRequested running => exact ⟨running.status, running.turn⟩
    case turnCancelled cancelling => exact ⟨cancelling.status, cancelling.turn⟩
    case turnCompleted running => exact ⟨running.status, running.turn⟩
    case turnFailed running => exact ⟨running.status, running.turn⟩
    case sessionIdled ready => exact ready
    case sessionResumed idle => exact idle
    case sessionArchivingStarted settled => rcases settled with status | status | status <;> rw [status]
    case sessionArchived archiving => exact archiving

end

/-- A payload moves a projection that may not exist yet: the first one creates it. -/
inductive Starts (stream : SessionId) (event : DomainEventEnvelope) :
    Option SessionProjection → SessionProjection → Prop where
  | created (first : event.payload = .sessionCreated) :
      Starts stream event none ⟨stream, .provisioning, none, none, none, event.occurredAt, event.seq⟩
  | moved (current next : SessionProjection) (moves : Moves current event.payload next) :
      Starts stream event (some current) { next with lastActivity := event.occurredAt, lastSeq := event.seq }

/-- An envelope that the reducer takes, and the reducer it leaves. -/
structure Takes (reducer : SessionReducer) (event : DomainEventEnvelope) (next : SessionReducer) : Prop where
  stream : event.streamId = reducer.streamId
  seq : event.seq.value = reducer.lastSeq.value + 1
  version : event.schemaVersion = domainEventSchemaV1
  projection : ∃ projection, Starts reducer.streamId event reducer.projection projection ∧
    next = ⟨reducer.streamId, event.seq, some projection⟩

section

variable {reducer next : SessionReducer} {event : DomainEventEnvelope}

theorem project_eq_ok {projection : SessionProjection} : reducer.project event = .ok projection ↔
    Starts reducer.streamId event reducer.projection projection := by
  obtain ⟨stream, seq, current⟩ := reducer
  unfold SessionReducer.project
  cases current with
  | none =>
      simp only
      split
      · rename_i other
        simp only [reduceCtorEq, false_iff]
        rintro ⟨first⟩
        exact other first
      · rename_i first
        rw [ne_eq, not_not] at first
        rw [Except.ok.injEq]
        constructor
        · rintro rfl
          exact .created first
        · rintro ⟨_⟩
          rfl
  | some current =>
      simp only
      constructor
      · intro projected
        cases applied : applyTransition current event.payload with
        | error error => simp [applied, bind, Except.bind] at projected
        | ok moved =>
            simp only [applied, bind, Except.bind, pure, Except.pure, Except.ok.injEq] at projected
            subst projected
            exact .moved current moved (applyTransition_eq_ok.mp applied)
      · intro starts
        cases starts with
        | moved _ moved moves =>
            simp [applyTransition_eq_ok.mpr moves, bind, Except.bind, pure, Except.pure]

theorem apply_eq_ok : reducer.apply event = .ok next ↔ Takes reducer event next := by
  unfold SessionReducer.apply
  constructor
  · intro applied
    split at applied
    · cases applied
    rename_i stream
    split at applied
    · cases applied
    rename_i expected following
    split at applied
    · cases applied
    rename_i seq
    split at applied
    · cases applied
    rename_i version
    rw [ne_eq, not_not] at stream seq version
    subst seq
    cases projected : reducer.project event with
    | error error => simp [projected, bind, Except.bind] at applied
    | ok projection =>
        simp only [projected, bind, Except.bind, pure, Except.pure, Except.ok.injEq] at applied
        exact ⟨stream, EventSeq.checkedNext_eq_some.mp following, version, projection,
          project_eq_ok.mp projected, applied.symm⟩
  · rintro ⟨stream, seq, version, projection, starts, rfl⟩
    simp [stream, EventSeq.checkedNext_eq_some.mpr seq, version, project_eq_ok.mpr starts, bind, Except.bind,
      pure, Except.pure]

end

/-! ## The projection of a replayed stream -/

/-- A turn is under way. -/
def SessionStatus.HasTurn (status : SessionStatus) : Prop :=
  status = .running ∨ status = .waitingApproval ∨ status = .cancelling

/-- The sandbox may be missing, since it was never provisioned. -/
def SessionStatus.MayLackSandbox (status : SessionStatus) : Prop :=
  status = .provisioning ∨ status = .failed ∨ status = .archiving ∨ status = .archived

/-- What the identities of a projection say about its status. -/
structure Consistent (p : SessionProjection) : Prop where
  turn : p.activeTurn.isSome = true ↔ p.status.HasTurn
  approval : p.pendingApproval.isSome = true ↔ p.status = .waitingApproval
  /-- Only a provisioned session gets further. -/
  sandbox : ¬ p.status.MayLackSandbox → p.sandboxId.isSome = true
  unprovisioned : p.status = .provisioning → p.sandboxId = none

variable {event : DomainEvent} {events : List DomainEventEnvelope} {stream : SessionId}

theorem Consistent.moves {p next : SessionProjection} (consistent : Consistent p) (moves : Moves p event next) :
    Consistent next := by
  obtain ⟨turn, approval, sandbox, unprovisioned⟩ := consistent
  -- the status before is known in each case; the identities not touched are as it says
  cases moves with
  | approvalRequested turn approval running | turnCancellationRequested turn running | turnCompleted turn running
  | turnFailed turn running =>
      obtain ⟨status, active⟩ := running
      constructor <;> simp_all [SessionStatus.HasTurn, SessionStatus.MayLackSandbox]
  | approvalResolved turn approval decision waiting pending =>
      obtain ⟨status, active⟩ := waiting
      constructor <;> simp_all [SessionStatus.HasTurn, SessionStatus.MayLackSandbox]
  | turnCancelled turn cancelling =>
      obtain ⟨status, active⟩ := cancelling
      constructor <;> simp_all [SessionStatus.HasTurn, SessionStatus.MayLackSandbox]
  | sessionArchivingStarted settled =>
      rcases settled with status | status | status <;>
        constructor <;> simp_all [SessionStatus.HasTurn, SessionStatus.MayLackSandbox]
  | _ => constructor <;> simp_all [SessionStatus.HasTurn, SessionStatus.MayLackSandbox]

/-- An event provisions the sandbox it names, and no other event touches it. -/
theorem Moves.sandbox {p next : SessionProjection} (moves : Moves p event next) (sandbox : SandboxId)
    (unprovisioned : p.status = .provisioning → p.sandboxId = none) :
    next.sandboxId = some sandbox ↔ p.sandboxId = some sandbox ∨ event = .sandboxProvisioned sandbox := by
  cases moves with
  | sandboxProvisioned other status =>
      simp [unprovisioned status]
  | _ => simp

/-- The reducer that a stream of events leads to. -/
structure Replayed (stream : SessionId) (events : List DomainEventEnvelope) (reducer : SessionReducer) : Prop where
  stream : reducer.streamId = stream
  counted : reducer.lastSeq.value = events.length
  created : reducer.projection.isSome = true ↔ events ≠ []
  current : ∀ p, reducer.projection = some p → p.lastSeq = reducer.lastSeq ∧ Consistent p ∧
    ∀ sandbox, p.sandboxId = some sandbox ↔ ∃ event ∈ events, event.payload = .sandboxProvisioned sandbox

theorem Replayed.takes {reducer next : SessionReducer} {event : DomainEventEnvelope}
    (replayed : Replayed stream events reducer) (takes : Takes reducer event next) :
    Replayed stream (events ++ [event]) next := by
  obtain ⟨own, counted, created, current⟩ := replayed
  obtain ⟨stream', last, before⟩ := reducer
  obtain ⟨-, seq, -, projection, starts, rfl⟩ := takes
  have length : event.seq.value = (events ++ [event]).length := by
    rw [List.length_append, List.length_singleton, ← counted]
    exact seq
  refine ⟨own, length, by simp, ?_⟩
  rintro p ⟨⟩
  cases starts with
  | created first =>
      have empty : events = [] := by
        by_contra some
        cases created.mpr some
      refine ⟨rfl, ⟨by simp [SessionStatus.HasTurn], by simp, by simp [SessionStatus.MayLackSandbox], by simp⟩, ?_⟩
      simp [empty, first]
  | moved before next moves =>
      obtain ⟨-, consistent, provisioned⟩ := current before rfl
      have moved := consistent.moves moves
      refine ⟨rfl, ⟨moved.turn, moved.approval, moved.sandbox, moved.unprovisioned⟩, ?_⟩
      intro sandbox
      simp [moves.sandbox sandbox consistent.unprovisioned, provisioned sandbox, or_and_right, exists_or]

theorem replayed_of_replay {reducer : SessionReducer} (ran : (SessionReducer.new stream).replay events = .ok reducer) :
    Replayed stream events reducer := by
  refine foldlM_invariant ?_ ?_ ran
  · exact ⟨rfl, rfl, by simp [SessionReducer.new], nofun⟩
  · intro taken mid event next replayed applied
    exact replayed.takes (apply_eq_ok.mp applied)

/-- Whatever stream of events the empty reducer accepts, the projection exists once there was one, the
sequence numbers count the events, and the identities in the projection are there exactly when its
status, or for the sandbox the events, say so. -/
theorem projection_of_accepted {stream : SessionId} {events : List DomainEventEnvelope} {reducer : SessionReducer}
    (ran : (SessionReducer.new stream).replay events = .ok reducer) :
    (reducer.projection.isSome = true ↔ events ≠ []) ∧ reducer.lastSeq.value = events.length ∧
    ∀ p, reducer.projection = some p → p.lastSeq.value = events.length ∧
      (p.activeTurn.isSome = true ↔
        p.status = .running ∨ p.status = .waitingApproval ∨ p.status = .cancelling) ∧
      (p.pendingApproval.isSome = true ↔ p.status = .waitingApproval) ∧
      (p.sandboxId.isSome = true ↔ ∃ event ∈ events, ∃ sandbox, event.payload = .sandboxProvisioned sandbox) ∧
      (p.status ≠ .provisioning → p.status ≠ .failed → p.status ≠ .archiving → p.status ≠ .archived →
        p.sandboxId.isSome = true) := by
  obtain ⟨-, counted, created, current⟩ := replayed_of_replay ran
  refine ⟨created, counted, ?_⟩
  intro p found
  obtain ⟨last, consistent, provisioned⟩ := current p found
  refine ⟨last ▸ counted, consistent.turn, consistent.approval, ?_, ?_⟩
  · rw [Option.isSome_iff_exists]
    constructor
    · rintro ⟨sandbox, here⟩
      obtain ⟨event, member, named⟩ := (provisioned sandbox).mp here
      exact ⟨event, member, sandbox, named⟩
    · rintro ⟨event, member, sandbox, named⟩
      exact ⟨sandbox, (provisioned sandbox).mpr ⟨event, member, named⟩⟩
  · intro started sound kept open'
    apply consistent.sandbox
    simp [SessionStatus.MayLackSandbox, started, sound, kept, open']

/-! A short stream: a session with one turn that waits for an approval. -/

theorem one_notNil : (1 : Uuid) ≠ 0 := by decide

def sampleStream : SessionId := ⟨1, one_notNil⟩

def sampleTurn : TurnId := ⟨1, one_notNil⟩

def sampleApproval : ApprovalId := ⟨1, one_notNil⟩

def sampleSandbox : SandboxId := ⟨1, one_notNil⟩

/-- The payloads as envelopes of the stream, numbered from `first`. -/
def enveloped (first : Nat) : List DomainEvent → List DomainEventEnvelope
  | [] => []
  | payload :: rest =>
      if bounded : first < 2 ^ 64 then
        ⟨sampleStream, ⟨first, bounded⟩, domainEventSchemaV1, 0, payload⟩ :: enveloped (first + 1) rest
      else []

theorem waiting_has_identities :
    ∃ reducer p, (SessionReducer.new sampleStream).replay (enveloped 1 [.sessionCreated,
        .sandboxProvisioned sampleSandbox, .turnStarted sampleTurn, .approvalRequested sampleTurn sampleApproval]) =
        .ok reducer ∧ reducer.projection = some p ∧ p.status = .waitingApproval ∧ p.activeTurn.isSome = true ∧
      p.pendingApproval.isSome = true ∧ p.sandboxId.isSome = true := by
  have ran : (SessionReducer.new sampleStream).replay (enveloped 1 [.sessionCreated,
      .sandboxProvisioned sampleSandbox, .turnStarted sampleTurn,
      .approvalRequested sampleTurn sampleApproval]) = .ok _ := rfl
  obtain ⟨-, -, facts⟩ := projection_of_accepted ran
  obtain ⟨-, turn, approval, -, sandbox⟩ := facts _ rfl
  exact ⟨_, _, ran, rfl, rfl, turn.mpr (.inr (.inl rfl)), approval.mpr rfl,
    sandbox (by decide) (by decide) (by decide) (by decide)⟩

end Codebox.Domain
