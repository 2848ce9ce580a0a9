import Codebox.Cloud.Cancelers

/-! # Who wakes a cancellation that waits

`cancel` blocks on a condition variable while a submit is in flight, and only a `start` that has the
lock again notifies it. A start has many ways to return from there, some by an error of the ledger or
of the file, and after any of them a blocked call has been notified. Nothing is assumed about the
submit: it may report anything, and leave the host in any state.
-/

namespace Codebox.Cloud

open Codebox.Support Proc Codebox.Host

/-- A call of `cancel` on the condition variable. -/
structure Blocked where
  /-- The operation that the call saw as submitting. -/
  operationId : CloudSubmitOperationId
  /-- The notifications that had been issued when it gave the lock up. -/
  seen : Nat
  deriving Repr, DecidableEq

structure Waiters where
  machine : Machine
  blocked : Nat → Option Blocked

inductive WaitLabel where
  /-- A section of any call but `cancel`, a crash or a new process. -/
  | other (call : Call)
  /-- The submit in flight reports any result and leaves any host. -/
  | submitted (result : Except CloudRunnerError CloudSubmission) (host : Host)
  /-- A thread enters `cancel`, or has the lock again, notified or not. -/
  | cancel (thread : Nat)

namespace Waiters

/-- One pass of a thread under the lock; it consumes what was notified before. -/
def pass (s : Waiters) (thread : Nat) (p : Process) (flight : Option Flight) : Waiters :=
  match Cloud.cancel p with
  | (.ok (.waiting op), p') =>
      ⟨.up p' flight, Function.update s.blocked thread (some ⟨op, p'.state.notifications⟩)⟩
  | (.ok (.answered _), p') => ⟨.up p' flight, Function.update s.blocked thread none⟩
  | (.error _, p') => ⟨.up p' flight, Function.update s.blocked thread none⟩
  | (.crashed, p') => ⟨.down p'.host, fun _ => none⟩

/-- The calls of a process end with it. -/
def beside (s : Waiters) : Machine → Waiters
  | .down host => ⟨.down host, fun _ => none⟩
  | .up p flight => ⟨.up p flight, s.blocked⟩

def step (runner : CloudTaskRunner) (s : Waiters) : WaitLabel → Option Waiters
  | .other .cancel => none
  | .other call => (s.machine.step runner call).map s.beside
  | .submitted result host => match s.machine with
      | .up p (some (.submitting ticket _)) =>
          some { s with machine := .up { p with host := host } (some (.submitted ticket result)) }
      | _ => none
  | .cancel thread => match s.machine with
      | .up p flight => some (s.pass thread p flight)
      | .down _ => none

def system (runner : CloudTaskRunner) (env : Nat → Answers) : System Waiters WaitLabel where
  initial s := s = ⟨.down (Host.fresh env), fun _ => none⟩
  step := step runner

/-- A start is in flight for the operation that the call saw. -/
def InFlight (s : Waiters) (call : Blocked) : Prop :=
  ∃ p flight, s.machine = .up p (some flight) ∧ flight.operationId = call.operationId

/-- A notification came after the call had given the lock up. -/
def Notified (s : Waiters) (call : Blocked) : Prop :=
  ∃ p flight, s.machine = .up p flight ∧ call.seen < p.state.notifications

end Waiters

/-! ## What the sections do to the signal and the notifications -/

section

variable {α : Type} {inv : OrchestratorState → Prop} {p : Process}

theorem keeps_onHost {ε : Type} (proc : Proc Host ε α) : Proc.Keeps (fun p => inv p.state) (onHost proc) := by
  apply keeps_on
  intro p kept
  exact kept

theorem keeps_onRunner (proc : RunnerProc α) : Proc.Keeps (fun p => inv p.state) (onRunner proc) :=
  keeps_mapError (keeps_onHost proc)

theorem keeps_persist (ledger : CloudLifecycleLedger) : Proc.Keeps (fun p => inv p.state) (persist ledger) :=
  keeps_bind (keeps_onRunner _) fun _ => keeps_onHost _

theorem keeps_remove : Proc.Keeps (fun p => inv p.state) remove :=
  keeps_bind (keeps_onRunner _) fun _ => keeps_onHost _

theorem keeps_currentLedger : Proc.Keeps (fun p => inv p.state) currentLedger := by
  apply keeps_bind
  · exact keeps_bind keeps_get fun _ => keeps_pure _
  · intro state
    cases state.ledger with
    | none => exact keeps_fail _
    | some ledger => exact keeps_pure _

end

/-- Nothing to signal, and `count` notifications so far. -/
def Unsignaled (count : Nat) (state : OrchestratorState) : Prop :=
  state.cancellation = none ∧ state.notifications = count

variable {α : Type} {ticket : StartTicket}

section

variable {runner : CloudTaskRunner} {count : Nat} {p : Process}

/-- Every call that advances a record ends this way. -/
theorem unsignaled_advance (next : CloudLifecycleLedger) (value : CloudLifecycle → α) :
    Proc.Keeps (fun p => Unsignaled count p.state) (do
      persistAfterEffect next
      let lifecycle ← Proc.ofExcept next.lifecycle
      setLedger (some next)
      return value lifecycle) := by
  apply keeps_bind
  · exact keeps_mapError (keeps_persist next)
  · intro _
    apply keeps_bind
    · exact keeps_ofExcept _
    · intro lifecycle
      exact keeps_bind (keeps_modify fun _ => id) fun _ => keeps_pure _

theorem unsignaled_inspect : Proc.Keeps (fun p => Unsignaled count p.state) inspect := by
  refine keeps_bind keeps_currentLedger fun ledger => ?_
  refine keeps_bind (keeps_ofExcept _) fun current => ?_
  cases current with
  | pending op task =>
      refine keeps_bind (keeps_mapError (keeps_onHost _)) fun status => ?_
      refine keeps_bind (keeps_ofExcept _) fun next => ?_
      exact unsignaled_advance next id
  | submitting op => exact keeps_fail _
  | outcomeUnknown op => exact keeps_fail _
  | _ => exact keeps_pure _

theorem unsignaled_reconcileUnknown : Proc.Keeps (fun p => Unsignaled count p.state) (reconcileUnknown runner) := by
  apply keeps_bind
  · refine keeps_bind keeps_currentLedger fun ledger => ?_
    split
    · exact keeps_pure _
    · exact keeps_fail _
  intro ledger
  refine keeps_bind (keeps_onRunner _) fun reconciliation => ?_
  split
  · exact keeps_fail _
  refine keeps_bind (keeps_ofExcept _) fun next => ?_
  refine keeps_bind (keeps_mapError (keeps_persist next)) fun _ => ?_
  exact keeps_bind (keeps_modify fun _ => id) fun _ => keeps_pure _

theorem unsignaled_commitResolution (ledger : CloudLifecycleLedger) (resolution : CloudUnknownResolution)
    (expected : CloudSubmitObservation) (recorded : Except CloudLifecycleError CloudLifecycleLedger) :
    Proc.Keeps (fun p => Unsignaled count p.state) (commitResolution runner ledger resolution expected recorded) := by
  refine keeps_bind (keeps_onRunner _) fun observation => ?_
  split
  · exact keeps_fail _
  refine keeps_bind (keeps_mapError (keeps_ofExcept _)) fun next => ?_
  exact unsignaled_advance next id

theorem unsignaled_resolveUnknown (op : CloudSubmitOperationId) (decision : UnknownSubmitDecision) :
    Proc.Keeps (fun p => Unsignaled count p.state) (resolveUnknown runner op decision) := by
  refine keeps_bind keeps_currentLedger fun ledger => ?_
  split
  · exact keeps_fail _
  split
  · exact keeps_ofExcept _
  split
  · exact keeps_fail _
  split
  · split
    · exact keeps_fail _
    refine keeps_bind (keeps_mapError (keeps_onHost _)) fun status => ?_
    exact unsignaled_commitResolution _ _ _ _
  · split
    · exact keeps_fail _
    exact unsignaled_commitResolution _ _ _ _

section

/-! While a submit is in flight, the calls beside it are refused at once. -/

variable {op : CloudSubmitOperationId} (held : p.state.ledger = some (.submitting op))

include held

theorem currentLedger_submitting : currentLedger p = (.ok (.submitting op), p) := by
  simp [currentLedger, getState, Bind.bind, Proc.bind, Proc.get, held, Pure.pure, Proc.pure]

theorem inspect_submitting : (inspect p).2 = p := by
  simp only [inspect, Bind.bind, Proc.bind, currentLedger_submitting held]
  rfl

theorem reconcileUnknown_submitting : (reconcileUnknown runner p).2 = p := by
  simp only [reconcileUnknown, requirePhase, Bind.bind, Proc.bind, currentLedger_submitting held]
  rfl

theorem resolveUnknown_submitting (own : CloudSubmitOperationId) (decision : UnknownSubmitDecision) :
    (resolveUnknown runner own decision p).2 = p := by
  simp only [resolveUnknown, Bind.bind, Proc.bind, currentLedger_submitting held]
  by_cases same : op = own
  · simp [CloudLifecycleLedger.submitting, same, Proc.fail, CloudLifecyclePhase.isTerminal]
  · simp [CloudLifecycleLedger.submitting, same, Proc.fail]

end

/-- What one pass of `cancel` does to the signal and to the record that holds the slot. -/
def Passed (p p' : Process) : CancelPass → Prop
  | .answered _ => p'.state.cancellation = p.state.cancellation ∧ ∀ op, p.state.ledger ≠ some (.submitting op)
  | .waiting op => p.state.cancellation.isSome = true ∧ p'.state.ledger = p.state.ledger ∧
      ∃ ledger, p.state.ledger = some ledger ∧ ledger.operationId = op

theorem cancel_passed :
    Cloud.cancel.wp (fun pass p' => p'.state.notifications = p.state.notifications ∧ Passed p p' pass)
      (fun _ p' => p'.state = p.state) (fun _ => True) p := by
  rw [Cloud.cancel, wp_bind]
  apply wp_currentLedger
  · intro ledger found
    rw [wp_bind]
    cases shown : ledger.lifecycle with
    | error _ => rfl
    | ok projected =>
        obtain ⟨own, phase⟩ := CloudLifecycleLedger.lifecycle_eq_ok shown
        have decided : projected.phase ≠ .submitting → ∀ op, p.state.ledger ≠ some (.submitting op) := by
          intro moved op held
          cases found.symm.trans held
          exact moved phase
        rw [wp_ofExcept_ok]
        cases projected with
        | submitting op =>
            rw [wp_bind, wp_getState]
            cases held : p.state.cancellation with
            | none => rfl
            | some token => exact ⟨rfl, by simp [held], rfl, ledger, found, own.symm⟩
        | pending op task =>
            rw [wp_bind]
            cases ledger.recordCanceledWithTask with
            | error _ => rfl
            | ok next =>
                simp only [wp_ofExcept_ok, wp_bind, persistAfterEffect, wp_mapError]
                apply wp_write
                · intro host _ _
                  cases next.lifecycle with
                  | error _ => rfl
                  | ok shown => exact ⟨rfl, rfl, decided (by simp)⟩
                · intro _ _ _ _
                  rfl
                · intro _ _ _
                  trivial
        | _ => exact ⟨rfl, rfl, decided (by simp)⟩
  · intro _
    rfl

/-- However a start returns from its second section, it has taken the signal back and notified. -/
def Woken (p p' : Process) : Prop :=
  Unsignaled (p.state.notifications + 1) p'.state

theorem loseSlot_woken (ticket : StartTicket) :
    (loseSlot ticket).wp (fun _ => Woken p) (fun _ => Woken p) (fun _ => True) p :=
  ⟨rfl, rfl⟩

theorem rollbackAfterConflict_woken (ticket : StartTicket) (conflicting : CloudSubmitOperationId) :
    (rollbackAfterConflict ticket conflicting).wp (fun _ => Woken p) (fun _ => Woken p) (fun _ => True) p := by
  -- the file may refuse the record it had before; the waiting calls are notified either way
  rw [rollbackAfterConflict, wp_bind, wp_attempt]
  refine wp_mono (keeps_iff.mp (?kept : Proc.Keeps (fun p' : Process => p'.state = p.state) _) p rfl)
    ?_ ?_ ?_
  case kept =>
    split
    · exact @keeps_persist (· = p.state) _
    · exact @keeps_remove (· = p.state)
  · intro _ p' same
    exact ⟨rfl, by simp [same]⟩
  · intro _ p' same
    exact ⟨rfl, by simp [same]⟩
  · intro _ _
    trivial

theorem commitStart_woken {next : CloudLifecycleLedger} {shown : CloudLifecycle}
    (projected : next.lifecycle = .ok shown) :
    (commitStart (.ok next)).wp (fun _ => Woken p) (fun _ => Woken p) (fun _ => True) p := by
  simp only [commitStart, wp_bind, wp_ofExcept_ok, wp_attempt, persistAfterEffect,
    wp_mapError]
  apply wp_write
  · intro host _ _
    simp only [projected, wp_ofExcept_ok]
    exact ⟨rfl, rfl⟩
  · intro _ _ _ _
    exact ⟨rfl, rfl⟩
  · intro _ _ _
    trivial

/-- The ledger of a claimed slot records every outcome, so no error of the ledger passes the
notification by. -/
theorem startCommit_woken (result : Except CloudRunnerError CloudSubmission)
    (held : p.state.ledger = some (.submitting ticket.operationId)) :
    (startCommit ticket result).wp (fun _ => Woken p) (fun _ => Woken p) (fun _ => True) p := by
  have claimed : ¬ ((CloudLifecycleLedger.submitting ticket.operationId).operationId ≠ ticket.operationId ∨
      (CloudLifecycleLedger.submitting ticket.operationId).phase ≠ .submitting) := by
    simp [CloudLifecycleLedger.submitting]
  rw [startCommit, wp_bind, wp_getState, held]
  simp only [if_neg claimed]
  split
  · split
    · exact rollbackAfterConflict_woken ticket _
    · exact commitStart_woken rfl
  · split
    · exact rollbackAfterConflict_woken ticket _
    · split
      · exact commitStart_woken rfl
      · split
        · exact loseSlot_woken ticket
        · exact commitStart_woken rfl
      · split
        · exact loseSlot_woken ticket
        · exact commitStart_woken rfl
      · exact rollbackAfterConflict_woken ticket _
      · exact commitStart_woken rfl

end

namespace Waiters

/-- The slot and the signal are those of the submit in flight. -/
structure Watched (p : Process) (flight : Option Flight) : Prop where
  claims : ∀ submit, flight = some submit → p.state.ledger = some (.submitting submit.operationId)
  token : p.state.cancellation.isSome = true → flight.isSome = true

/-- The call is woken by a start in flight, or it has been. -/
structure Wakes (p : Process) (flight : Option Flight) (call : Blocked) : Prop where
  seen : call.seen ≤ p.state.notifications
  wakes : flight.map Flight.operationId = some call.operationId ∨ call.seen < p.state.notifications

structure Attended (blocked : Nat → Option Blocked) (p : Process) (flight : Option Flight) : Prop where
  watched : Watched p flight
  wakes : ∀ thread call, blocked thread = some call → Wakes p flight call

def Inv (s : Waiters) : Prop :=
  match s.machine with
  | .down _ => ∀ thread, s.blocked thread = none
  | .up p flight => Attended s.blocked p flight

section

variable {runner : CloudTaskRunner} {env : Nat → Answers} {s s' : Waiters} {p p' : Process}
  {flight flight' : Option Flight} {blocked : Nat → Option Blocked} {proc : OrchestratorProc α} {machine' : Machine}

theorem inv_down (s : Waiters) (host : Host) : Inv (s.beside (.down host)) := fun _ => rfl

theorem Watched.state (watched : Watched p flight) (same : p'.state = p.state) : Watched p' flight := by
  constructor
  · rw [same]
    exact watched.claims
  · rw [same]
    exact watched.token

theorem Wakes.carry {call : Blocked} (wakes : Wakes p flight call)
    (same : p'.state.notifications = p.state.notifications)
    (stays : flight.isSome = true → flight'.map Flight.operationId = flight.map Flight.operationId) :
    Wakes p' flight' call := by
  constructor
  · rw [same]
    exact wakes.seen
  · rcases wakes.wakes with inside | notified
    · left
      rw [stays, inside]
      cases flight with
      | none => cases inside
      | some submit => rfl
    · right
      rw [same]
      exact notified

theorem Attended.same (attended : Attended blocked p flight) (same : p'.state = p.state)
    (stays : flight'.map Flight.operationId = flight.map Flight.operationId) : Attended blocked p' flight' := by
  constructor
  · constructor
    · rintro submit rfl
      rw [same]
      cases flight with
      | none => cases stays
      | some before =>
          have own : submit.operationId = before.operationId := Option.some.inj stays
          rw [own]
          exact attended.watched.claims before rfl
    · intro signal
      have inside := attended.watched.token (same ▸ signal)
      cases flight with
      | none => cases inside
      | some before =>
          cases flight' with
          | none => cases stays
          | some submit => rfl
  · intro thread call waits
    exact (attended.wakes thread call waits).carry (by rw [same]) fun _ => stays

/-- Beside a submit in flight nothing moves, and without one there is no signal. -/
theorem Attended.call (attended : Attended blocked p flight)
    (quiet : ∀ count, Proc.Keeps (fun p => Unsignaled count p.state) proc)
    (refused : ∀ op, p.state.ledger = some (.submitting op) → (proc p).2 = p) :
    Attended blocked (proc p).2 flight := by
  cases flight with
  | some submit =>
      apply attended.same _ rfl
      rw [refused _ (attended.watched.claims submit rfl)]
  | none =>
      have unsignaled : p.state.cancellation = none := by
        cases held : p.state.cancellation with
        | none => rfl
        | some token => cases attended.watched.token (by simp [held])
      obtain ⟨silent, same⟩ := quiet p.state.notifications p ⟨unsignaled, rfl⟩
      constructor
      · exact ⟨by simp, by simp [silent]⟩
      · intro thread call waits
        exact (attended.wakes thread call waits).carry same fun _ => rfl

theorem Inv.after {next : Except CloudLifecycleError α → Option Flight}
    (spec : proc.wp (fun value p' => Attended s.blocked p' (next (.ok value)))
      (fun error p' => Attended s.blocked p' (next (.error error))) (fun _ => True) p) :
    Inv (s.beside (Machine.after (proc p) next)) := by
  revert spec
  simp only [Proc.wp, Machine.after]
  rcases proc p with ⟨_ | _ | _, p'⟩
  · exact id
  · exact id
  · intro _
    exact inv_down s p'.host

theorem Inv.call (attended : Attended s.blocked p flight)
    (quiet : ∀ count, Proc.Keeps (fun p => Unsignaled count p.state) proc)
    (refused : ∀ op, p.state.ledger = some (.submitting op) → (proc p).2 = p) :
    Inv (s.beside (Machine.after (proc p) fun _ => flight)) := by
  apply Inv.after
  have kept := attended.call quiet refused
  exact wp_mono (wp_always.mpr kept) (fun _ _ => id) (fun _ _ => id) fun _ _ => trivial

theorem Inv.startBegin {prompt : CloudPrompt} (attended : Attended s.blocked p flight) :
    Inv (s.beside (Machine.after (Cloud.startBegin runner p) fun
      | .ok ticket => some (.submitting ticket prompt)
      | .error _ => flight)) := by
  apply Inv.after
  apply wp_mono startBegin_memory
  · intro ticket p' began
    -- the slot was free, so no other start is in flight
    have idle : flight = none := by
      cases flight with
      | none => rfl
      | some submit => cases began.free _ (attended.watched.claims submit rfl)
    subst idle
    constructor
    · constructor
      · rintro _ ⟨⟩
        rw [began.state]
        rfl
      · intro _
        rfl
    · intro thread call waits
      exact (attended.wakes thread call waits).carry (by rw [began.state]) nofun
  · intro error p' refused
    exact attended.same refused.state rfl
  · intro _ _
    trivial

theorem Inv.startCommit {result : Except CloudRunnerError CloudSubmission}
    (attended : Attended s.blocked p (some (.submitted ticket result))) :
    Inv (s.beside (Machine.after (Cloud.startCommit ticket result p) fun _ => none)) := by
  have woken : ∀ p', Woken p p' → Attended s.blocked p' none := by
    intro p' woken
    obtain ⟨silent, notified⟩ := woken
    constructor
    · exact ⟨by simp, by simp [silent]⟩
    · intro thread call waits
      have seen := (attended.wakes thread call waits).seen
      exact ⟨by omega, .inr (by omega)⟩
  apply Inv.after
  apply wp_mono (startCommit_woken result (attended.watched.claims _ rfl))
  · intro _
    exact woken
  · intro _
    exact woken
  · intro _ _
    trivial

theorem Inv.restart {host : Host} (nobody : ∀ thread, s.blocked thread = none)
    (moved : (Machine.down host).step runner .restart = some machine') : Inv (s.beside machine') := by
  have unsignaled : (fromRunner runner).wp (fun _ p' => p'.state.cancellation = none) (fun _ _ => True)
    (fun _ => True) ⟨host, ⟨none, none, 0⟩⟩ := fromRunner_memory
  simp only [Machine.step] at moved
  split at moved <;> cases moved
  · rename_i p' ran
    have silent := wp_ok unsignaled ran
    constructor
    · exact ⟨by simp, by simp [silent]⟩
    · intro thread call waits
      cases (nobody thread).symm.trans waits
  · exact inv_down s _

/-- A call that blocks saw the submit in flight, and has consumed every notification. -/
theorem Inv.pass (attended : Attended s.blocked p flight) (thread : Nat) : Inv (s.pass thread p flight) := by
  have spec := cancel_passed (p := p)
  have others : ∀ next : Option Blocked, (∀ call, next = some call → Wakes p flight call) →
      ∀ p', p'.state.notifications = p.state.notifications → ∀ other call,
        Function.update s.blocked thread next other = some call → Wakes p' flight call := by
    intro next own p' same other call waits
    by_cases here : other = thread
    · subst here
      rw [Function.update_self] at waits
      exact (own call waits).carry same fun _ => rfl
    · rw [Function.update_of_ne here] at waits
      exact (attended.wakes other call waits).carry same fun _ => rfl
  unfold Waiters.pass
  rcases ran : Cloud.cancel p with ⟨pass | error | _, p'⟩
  · obtain ⟨same, passed⟩ := wp_ok spec ran
    cases pass with
    | answered lifecycle =>
        obtain ⟨signal, decided⟩ := passed
        have idle : flight = none := by
          cases flight with
          | none => rfl
          | some submit => exact absurd (attended.watched.claims submit rfl) (decided _)
        subst idle
        constructor
        · exact ⟨by simp, fun held => attended.watched.token (signal ▸ held)⟩
        · exact others none (by simp) p' same
    | waiting op =>
        obtain ⟨signal, kept, ledger, found, own⟩ := passed
        obtain ⟨submit, rfl⟩ := Option.isSome_iff_exists.mp (attended.watched.token signal)
        have claims := attended.watched.claims submit rfl
        constructor
        · constructor
          · intro other held
            rw [kept]
            exact attended.watched.claims other held
          · intro _
            rfl
        · apply others (some ⟨op, p'.state.notifications⟩) _ p' same
          rintro _ ⟨⟩
          cases found.symm.trans claims
          exact ⟨Nat.le_of_eq same, .inl (congrArg some own)⟩
  · have same : p'.state = p.state := by
      simp only [Proc.wp, ran] at spec
      exact spec
    constructor
    · exact attended.watched.state same
    · exact others none (by simp) p' (by rw [same])
  · exact fun _ => rfl

/-- A section of another call, a crash or a new process. -/
theorem Inv.beside {call : Call} (inv : Inv s) (own : call ≠ .cancel)
    (moved : s.machine.step runner call = some machine') : Inv (s.beside machine') := by
  obtain ⟨machine, blocked⟩ := s
  simp only at moved
  unfold Machine.step at moved
  split at moved
  · exact Inv.restart inv moved
  · cases moved
    exact inv_down _ _
  · cases moved
    exact Inv.startBegin inv
  · cases moved
    apply Inv.after
    apply wp_mono (startSubmit_memory _ _)
    · intro _ p' kept
      exact Attended.same inv kept.1 rfl
    · intro _ _ never
      exact never.elim
    · intro _ _
      trivial
  · cases moved
    exact Inv.startCommit inv
  · cases moved
    exact Inv.call inv (fun _ => unsignaled_inspect) fun _ => inspect_submitting
  · cases moved
    exact Inv.call inv (fun _ => unsignaled_reconcileUnknown) fun _ => reconcileUnknown_submitting
  · cases moved
    exact Inv.call inv (fun _ => unsignaled_resolveUnknown _ _) fun _ held => resolveUnknown_submitting held _ _
  · exact absurd rfl own
  · cases moved

theorem Inv.step {label : WaitLabel} (inv : Inv s) (stepped : s.step runner label = some s') : Inv s' := by
  obtain ⟨machine, blocked⟩ := s
  cases label with
  | cancel thread =>
      cases machine with
      | down host => cases stepped
      | up p flight =>
          cases stepped
          exact Inv.pass inv thread
  | submitted result host =>
      rw [Waiters.step] at stepped
      split at stepped
      · rename_i p ticket prompt up
        cases stepped
        cases up
        exact Attended.same inv rfl rfl
      · cases stepped
  | other call =>
      cases call with
      | cancel => cases stepped
      | _ =>
          obtain ⟨machine', moved, rfl⟩ := Option.map_eq_some_iff.mp stepped
          exact Inv.beside inv (by simp) moved

theorem inv_reachable (reach : (system runner env).Reachable s) : Inv s := by
  apply System.Reach.invariant reach
  · intro start begins
    cases begins
    exact fun _ => rfl
  · intro before label after _ inv _ stepped
    exact inv.step stepped

/-- In every state of every run, whatever the submits reported and the files did, a call of `cancel`
that is blocked has a start in flight for the operation it saw as submitting, or has been notified
since it gave the lock up. -/
theorem blocked_cancel_attended (reach : (system runner env).Reachable s) (thread : Nat) (call : Blocked)
    (waits : s.blocked thread = some call) : s.InFlight call ∨ s.Notified call := by
  have inv := inv_reachable reach
  unfold Inv at inv
  split at inv
  · cases (inv thread).symm.trans waits
  · rename_i p flight up
    rcases (inv.wakes thread call waits).wakes with own | notified
    · obtain ⟨submit, inside, same⟩ := Option.map_eq_some_iff.mp own
      exact .inl ⟨p, submit, inside ▸ up, same⟩
    · exact .inr ⟨p, flight, up, notified⟩

/-- The submit of a start reports an operation that is not its own and leaves no lifecycle file to
remove, so the slot cannot be given back; the call that waits has been notified. -/
theorem notified_after_conflict :
    ∃ s, (system ⟨⟨[]⟩, ⟨[]⟩⟩ fun _ => {}).Reachable s ∧ s.blocked 7 = some ⟨⟨1, Nat.one_ne_zero⟩, 0⟩ ∧
      s.machine.ledger = some (.submitting ⟨1, Nat.one_ne_zero⟩) ∧
      (s.InFlight ⟨⟨1, Nat.one_ne_zero⟩, 0⟩ ∨ s.Notified ⟨⟨1, Nat.one_ne_zero⟩, 0⟩) := by
  have ran : (system ⟨⟨[]⟩, ⟨[]⟩⟩ fun _ => {}).run ⟨.down (Host.fresh fun _ => {}), fun _ => none⟩
      [.other .restart, .other (.startBegin ⟨['p']⟩), .cancel 7,
        .submitted (.ok ⟨⟨2, Nat.succ_ne_zero 1⟩, ⟨"task_1".toList, rfl⟩⟩) (Host.fresh fun _ => {}),
        .other .startCommit] = some _ := rfl
  have reach := System.Reachable.run (.initial rfl) ran
  exact ⟨_, reach, rfl, rfl, blocked_cancel_attended reach 7 _ rfl⟩

end

end Waiters

end Codebox.Cloud
