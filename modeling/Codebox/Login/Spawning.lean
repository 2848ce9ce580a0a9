import Codebox.Login.Reconcile

/-! # When a device login is spawned

Asking the runtime for a supervisor is asking for a child. Up to that point a start has only read,
and written its own intent; after it, the record of that login stays in the file until a later start
replaces it, and a later start asks first whether it has ended.
-/

namespace Codebox.Login

open Codebox.Support Proc Codebox.Host

/-! ## The record of one login stays in the file -/

/-- The file holds a record of the given login. -/
def Recorded (op : LoginOperationId) (h : Host) : Prop :=
  ∃ ledger, h.loginFile = some ledger ∧ ledger.operationId = op

/-- However a procedure ends, the file still holds a record of the login. -/
def KeepsRecord {α : Type} (op : LoginOperationId) (p : LoginProc α) (h : Host) : Prop :=
  p.wp (fun _ => Recorded op) (fun _ => Recorded op) (Recorded op) h

variable {active : ActiveLogin}

section

variable {α β : Type} {op : LoginOperationId} {h : Host} {ledger : LoginLedger} {p : LoginProc α}
  {onOk : α → Host → Prop} {output : CapturedOutput} {phase : LedgerPhase}

theorem KeepsRecord.wp (kept : KeepsRecord op p h) (okay : ∀ value h', Recorded op h' → onOk value h') :
    p.wp onOk (fun _ => Recorded op) (Recorded op) h :=
  wp_mono kept okay (fun _ _ => id) (fun _ => id)

theorem KeepsRecord.bind {f : α → LoginProc β} (first : KeepsRecord op p h)
    (rest : ∀ value h', Recorded op h' → KeepsRecord op (f value) h') : KeepsRecord op (p >>= f) h := by
  rw [KeepsRecord, wp_bind]
  exact first.wp rest

/-- A procedure that only turns into an error. -/
theorem KeepsRecord.fail {reason : α → LoginBrokerError} (first : KeepsRecord op p h) :
    KeepsRecord op (do Proc.fail (reason (← p)) : LoginProc β) h :=
  first.bind fun _ _ kept => kept

theorem KeepsRecord.quiet (quiet : ReadOnly (fun _ => True) p) (recorded : Recorded op h) :
    KeepsRecord op p h :=
  quiet.wp (fun _ _ _ => recorded) (fun _ _ _ _ => recorded) (fun _ _ => recorded)

theorem persistLedger_recorded (own : ledger.operationId = op) (recorded : Recorded op h) :
    KeepsRecord op (persistLedger ledger) h := by
  have stored : Recorded op (storeLogin ledger h.advance) := ⟨ledger, rfl, own⟩
  rw [KeepsRecord, persistLedger, wp_bind]
  cases ledger.validate with
  | error error => exact recorded
  | ok =>
      exact wp_replaceFile recorded (fun _ => stored) (fun _ => stored) (fun _ => recorded) (fun _ => recorded)

theorem append_own {ledger ledger' : LoginLedger} (appended : ledger.append phase = .ok ledger') :
    ledger'.operationId = ledger.operationId := by
  obtain ⟨-, -, rfl⟩ := LoginLedger.append_eq_ok.mp appended
  rfl

theorem recordStarted_own {process : ProcessIdentity} {ledger' : LoginLedger}
    (started : ledger.recordStarted process = .ok ledger') : ledger'.operationId = ledger.operationId := by
  unfold LoginLedger.recordStarted at started
  split at started
  · cases started
  · exact (append_own started :)

section

variable (own : ledger.operationId = op)

include own

theorem conclude_recorded (recorded : Recorded op h) : KeepsRecord op (conclude ledger phase) h := by
  rw [KeepsRecord, conclude, wp_bind]
  cases appended : ledger.append phase with
  | error error => exact recorded
  | ok ledger' => exact persistLedger_recorded ((append_own appended).trans own) recorded

/-- The record that `markUnknown` returns is still one of the same login. -/
theorem markUnknown_own (recorded : Recorded op h) :
    (markUnknown ledger).wp (fun ledger' h' => ledger'.operationId = op ∧ Recorded op h')
      (fun _ => Recorded op) (Recorded op) h := by
  unfold markUnknown
  split
  · rw [wp_bind]
    cases appended : ledger.append .outcomeUnknown with
    | error error => exact recorded
    | ok ledger' =>
        have own' := (append_own appended).trans own
        rw [wp_ofExcept_ok, wp_bind]
        exact (persistLedger_recorded own' recorded).wp fun _ _ kept => ⟨own', kept⟩
  · exact ⟨own, recorded⟩

theorem markUnknown_recorded {f : LoginLedger → LoginProc β} (recorded : Recorded op h)
    (rest : ∀ ledger' h', ledger'.operationId = op → Recorded op h' → KeepsRecord op (f ledger') h') :
    KeepsRecord op (markUnknown ledger >>= f) h := by
  rw [KeepsRecord, wp_bind]
  exact wp_mono (markUnknown_own own recorded) (fun ledger' h' kept => rest ledger' h' kept.1 kept.2)
    (fun _ _ => id) (fun _ => id)

theorem markUnknown_fail_recorded {error : LoginBrokerError} (recorded : Recorded op h) :
    KeepsRecord op (do let _ ← markUnknown ledger; Proc.fail error : LoginProc α) h :=
  markUnknown_recorded own recorded fun _ _ _ kept => kept

theorem reconcileLedger_recorded (recorded : Recorded op h) : KeepsRecord op (reconcileLedger ledger) h := by
  rw [KeepsRecord, reconcileLedger, wp_bind, wp_attempt]
  apply readOnly_answered.wp
  · intro status time _
    rw [wp_bind]
    exact conclude_recorded own recorded
  · intro error time _ _
    exact markUnknown_fail_recorded own recorded
  · exact fun _ _ => recorded

end

theorem completion_recorded {rest : Except LoginBrokerError Unit → LoginProc α} (recorded : Recorded op h)
    (continues : ∀ parsed, KeepsRecord op (rest parsed) h) : KeepsRecord op (completion output >>= rest) h := by
  rw [KeepsRecord, wp_bind, completion]
  cases parseLoginCompletion output with
  | none => exact recorded
  | some parsed => exact continues parsed

theorem resolveInterrupted_recorded (own : ledger.operationId = op) (recorded : Recorded op h) :
    KeepsRecord op (resolveInterrupted ledger output) h := by
  apply markUnknown_recorded own recorded
  intro ledger' h' own' recorded'
  apply completion_recorded recorded'
  intro parsed
  split
  · exact recorded'
  · exact reconcileLedger_recorded own' recorded'

theorem resolveTerminalEvent_recorded (active : ActiveLogin) (event : SupervisorEvent)
    (own : active.ledger.operationId = op) (recorded : Recorded op h) :
    KeepsRecord op (resolveTerminalEvent active event) h := by
  cases event with
  | exited output =>
      apply completion_recorded recorded
      intro parsed
      split
      · exact markUnknown_fail_recorded own recorded
      · exact markUnknown_fail_recorded own recorded
      · exact reconcileLedger_recorded own recorded
  | instructionDeadline output | overallDeadline output | canceled output =>
      exact resolveInterrupted_recorded own recorded
  | uncertain error =>
      apply markUnknown_recorded own recorded
      intro ledger' h' own' recorded'
      exact (reconcileLedger_recorded own' recorded').fail
  | failed error => exact (conclude_recorded own recorded).fail
  | started process => exact markUnknown_fail_recorded own recorded
  | instructions code => exact markUnknown_fail_recorded own recorded

theorem cancelActive_recorded (own : active.ledger.operationId = op) (recorded : Recorded op h) :
    KeepsRecord op (cancelActive active) h := by
  apply markUnknown_recorded own recorded
  intro ledger' h' own' recorded'
  apply (KeepsRecord.quiet readOnly_answered recorded').bind
  intro event h'' recorded''
  exact resolveTerminalEvent_recorded _ event own' recorded''

theorem awaitInstructions_recorded (own : ledger.operationId = op) (recorded : Recorded op h) :
    KeepsRecord op (awaitInstructions ledger) h := by
  rw [KeepsRecord, awaitInstructions, wp_bind, wp_attempt]
  apply readOnly_answered.wp
  · intro event time _
    have later : Recorded op (h.atTime time) := recorded
    have ended : KeepsRecord op (do
        let ended ← resolveTerminalEvent ⟨ledger.operationId, ledger⟩ event
        Proc.fail (endedEarly ended) : LoginProc (ActiveLogin × LoginInteraction)) (h.atTime time) :=
      (resolveTerminalEvent_recorded _ event own later).fail
    cases event with
    | instructions code =>
        rw [wp_bind]
        cases appended : ledger.append .deviceInstructions with
        | error error => exact later
        | ok ledger' =>
            rw [wp_ofExcept_ok, wp_bind]
            exact persistLedger_recorded ((append_own appended).trans own) later
    | _ => exact ended
  · intro error time _ _
    exact markUnknown_fail_recorded own recorded
  · exact fun _ _ => recorded

theorem awaitStarted_recorded (own : ledger.operationId = op) (recorded : Recorded op h) :
    KeepsRecord op (awaitStarted ledger) h := by
  rw [KeepsRecord, awaitStarted, wp_bind, wp_attempt]
  apply readOnly_answered.wp
  · intro event time _
    have later : Recorded op (h.atTime time) := recorded
    have unexpected : KeepsRecord op (do
        let _ ← markUnknown ledger
        Proc.fail .outcomeUnknown : LoginProc (ActiveLogin × LoginInteraction)) (h.atTime time) :=
      markUnknown_fail_recorded own later
    cases event with
    | started process =>
        rw [wp_bind]
        cases started : ledger.recordStarted process with
        | error error => exact later
        | ok ledger' =>
            have own' := (recordStarted_own started).trans own
            rw [wp_ofExcept_ok]
            exact (persistLedger_recorded own' later).bind fun _ _ => awaitInstructions_recorded own'
    | failed error => exact (conclude_recorded own later).fail
    | uncertain error =>
        exact (resolveTerminalEvent_recorded ⟨ledger.operationId, ledger⟩ _ own later).fail
    | _ => exact unexpected
  · intro error time _ _
    exact markUnknown_fail_recorded own recorded
  · exact fun _ _ => recorded

/-- Loading reads the file and changes nothing in it. -/
theorem loadLedger_spec (h : Host) :
    loadLedger.wp (fun found h' => found = h.loginFile ∧ h'.loginFile = h.loginFile)
      (fun _ h' => h'.loginFile = h.loginFile) (fun h' => h'.loginFile = h.loginFile) h := by
  have same : h.advance.loginFile = h.loginFile := rfl
  rw [loadLedger, wp_bind]
  apply wp_readFile same _ same same
  cases file : h.loginFile with
  | none =>
      rw [same, file]
      exact ⟨rfl, same.trans file⟩
  | some ledger =>
      rw [same, file, wp_bind]
      cases ledger.validate with
      | error error => exact same.trans file
      | ok => exact ⟨rfl, same.trans file⟩

theorem reconcileWithoutActive_recorded {waitIntentGrace : Bool} (recorded : Recorded op h) :
    KeepsRecord op (reconcileWithoutActive waitIntentGrace) h := by
  apply (KeepsRecord.quiet readOnly_acquireOwned recorded).bind
  intro _ h₁ recorded₁
  apply (KeepsRecord.quiet readOnly_completed recorded₁).bind
  intro _ h₂ recorded₂
  obtain ⟨ledger, file, own⟩ := recorded₂
  rw [KeepsRecord, wp_bind]
  have kept : ∀ h', h'.loginFile = h₂.loginFile → Recorded op h' := fun h' same =>
    ⟨ledger, same.trans file, own⟩
  apply wp_mono (loadLedger_spec h₂) _ (fun _ h' => kept h') kept
  rintro found h₃ ⟨rfl, same⟩
  have recorded₃ := kept h₃ same
  simp only [file]
  split
  · apply (KeepsRecord.quiet readOnly_childAlive recorded₃).bind
    intro alive h₄ recorded₄
    cases alive with
    | true => exact recorded₄
    | false => exact reconcileLedger_recorded own recorded₄
  · exact (KeepsRecord.quiet readOnly_answered recorded₃).bind fun _ _ last => last

/-! ## Up to the spawn -/

/-- What a start does before it asks the runtime for a supervisor. -/
def spawnPoint : LoginProc LoginOperationId := do
  preflight
  let operationId ← newLoginOperationId
  persistLedger (.new operationId)
  return operationId

theorem launch_from_spawnPoint :
    (do preflight; launch) = (do
      let operationId ← spawnPoint
      CliRuntime.start
      awaitStarted (.new operationId)) := by
  simp only [spawnPoint, launch, Proc.bind_assoc, Proc.pure_bind]

/-- A preflight leaves the file alone. When it passes, no uncertain record is there and the last
thing it did was to hear from the status command that nobody is logged in. -/
theorem preflight_spec (h : Host) :
    preflight.wp (fun _ h' => h'.loginFile = h.loginFile ∧
        h.loginFile.any (·.latest.isUncertain) = false ∧
        ∃ before, before.loginFile = h.loginFile ∧ CliRuntime.status before = (.ok .loggedOut, h'))
      (fun _ h' => h'.loginFile = h.loginFile) (fun h' => h'.loginFile = h.loginFile) h := by
  rw [preflight, wp_bind]
  apply readOnly_acquireOwned.wp _ (fun _ _ _ _ => rfl) (fun _ _ => rfl)
  intro _ time _
  rw [wp_bind]
  apply readOnly_completed.wp _ (fun _ _ _ _ => rfl) (fun _ _ => rfl)
  intro _ time' _
  rw [wp_bind]
  apply wp_mono (loadLedger_spec _) _ (fun _ _ => id) (fun _ => id)
  rintro _ before ⟨rfl, file⟩
  have file : before.loginFile = h.loginFile := file
  rw [wp_ite, wp_bind]
  split
  · exact file
  · rename_i certain
    have quiet : ReadOnly (fun _ => True) CliRuntime.status := readOnly_answered
    apply wp_mono (wp_and (quiet before) (wp_run _ before))
    · rintro status _ ⟨⟨time'', -, rfl⟩, asked⟩
      cases status with
      | loggedIn => exact file
      | loggedOut => exact ⟨file, Bool.eq_false_iff.mpr certain, before, file, asked⟩
    · rintro _ _ ⟨⟨-, time'', -, rfl⟩, -⟩
      exact file
    · rintro _ ⟨⟨time'', -, rfl⟩, -⟩
      exact file

/-- At the spawn point the login's own intent is in the file. -/
theorem spawnPoint_recorded {h' : Host} (spawn : spawnPoint h = (.ok op, h')) : Recorded op h' := by
  have spec : spawnPoint.wp Recorded (fun _ _ => True) (fun _ => True) h := by
    rw [spawnPoint, wp_bind]
    apply wp_mono (preflight_spec h) _ (fun _ _ _ => trivial) (fun _ _ => trivial)
    intro _ passed _
    let operation : LoginOperationId := ⟨passed.issued + 1, Nat.succ_pos _⟩
    change (do
      persistLedger (.new operation)
      return operation : LoginProc LoginOperationId).wp _ _ _ { passed with issued := passed.issued + 1 }
    rw [wp_bind, persistLedger, LoginLedger.validate_eq_ok.mpr (LoginLedger.new_sound operation).valid,
      wp_bind, wp_ofExcept_ok]
    exact wp_replaceFile trivial (fun _ => ⟨_, rfl, rfl⟩) (fun _ => trivial) (fun _ => trivial)
      (fun _ => trivial)
  exact wp_ok spec spawn

end

/-! ## The calls -/

namespace LoginBroker

variable {op : LoginOperationId} {broker : LoginBroker} {call : Call} {α : Type} {h : Host}

theorem host_after (ran : Outcome LoginBrokerError α × LoginBroker) : (LoginBroker.after ran).host = ran.2.host := by
  obtain ⟨_ | _ | _, left⟩ := ran <;> rfl

/-- However a call ends, the file still holds a record of the login. -/
def CallKeepsRecord {α : Type} (op : LoginOperationId) (p : BrokerProc α) (broker : LoginBroker) : Prop :=
  p.wp (fun _ left => Recorded op left.host) (fun _ left => Recorded op left.host)
    (fun left => Recorded op left.host) broker

theorem CallKeepsRecord.after {p : BrokerProc α} (kept : CallKeepsRecord op p broker) :
    Recorded op (LoginBroker.after (p broker)).host := by
  rw [host_after]
  exact wp_always.mp kept

theorem onHost_recorded {p : LoginProc α} {active : Option ActiveLogin} (kept : KeepsRecord op p h) :
    CallKeepsRecord op (onHost p) ⟨h, active⟩ := by
  rw [CallKeepsRecord, wp_onHost]
  exact kept

/-- The record an active login holds is the one on file. -/
theorem active_own (displayed : Displayed active h) (recorded : Recorded op h) : active.ledger.operationId = op := by
  obtain ⟨ledger, file, own⟩ := recorded
  cases displayed.file.symm.trans file
  exact own

theorem status_recorded (inv : BrokerInv broker) (recorded : Recorded op broker.host) :
    CallKeepsRecord op status broker := by
  obtain ⟨h, active⟩ := broker
  rw [CallKeepsRecord, status, wp_bind, wp_get]
  cases active with
  | none => exact onHost_recorded (reconcileWithoutActive_recorded recorded)
  | some active =>
      have own := active_own (inv.active active rfl) recorded
      rw [wp_bind, wp_onHost]
      apply readOnly_answered.wp _ (fun _ _ _ _ => recorded) (fun _ _ => recorded)
      intro polled time _
      unfold statusOf
      split
      · exact recorded
      · exact recorded
      · exact onHost_recorded (h := h.atTime time)
          (resolveTerminalEvent_recorded active _ own recorded)

theorem reconcile_recorded (inv : BrokerInv broker) (recorded : Recorded op broker.host) :
    CallKeepsRecord op reconcile broker := by
  obtain ⟨h, active⟩ := broker
  rw [CallKeepsRecord, reconcile, wp_bind, wp_get]
  cases active with
  | none => exact onHost_recorded (reconcileWithoutActive_recorded recorded)
  | some active => exact status_recorded inv recorded

theorem cancel_recorded (inv : BrokerInv broker) (recorded : Recorded op broker.host) :
    CallKeepsRecord op cancel broker := by
  obtain ⟨h, active⟩ := broker
  rw [CallKeepsRecord, cancel, wp_bind, wp_get]
  cases active with
  | none => exact onHost_recorded (reconcileWithoutActive_recorded recorded)
  | some active =>
      have own := active_own (inv.active active rfl) recorded
      exact onHost_recorded (cancelActive_recorded own recorded)

theorem drop_recorded (inv : BrokerInv broker) (recorded : Recorded op broker.host) :
    CallKeepsRecord op drop broker := by
  obtain ⟨h, active⟩ := broker
  rw [CallKeepsRecord, drop, wp_bind, wp_get]
  cases active with
  | none => exact recorded
  | some active =>
      have own := active_own (inv.active active rfl) recorded
      simp only [setActive, wp_bind, wp_modify, wp_attempt, wp_onHost]
      exact wp_mono (markUnknown_own own recorded) (fun _ _ => And.right) (fun _ _ => id) (fun _ => id)

/-- Only a start can take a record off the file. -/
theorem step_recorded (inv : BrokerInv broker) (recorded : Recorded op broker.host) (other : call ≠ .startDeviceLogin) :
    Recorded op (broker.step call).host := by
  cases call with
  | startDeviceLogin => exact absurd rfl other
  | status => exact (status_recorded inv recorded).after
  | reconcile => exact (reconcile_recorded inv recorded).after
  | cancel => exact (cancel_recorded inv recorded).after
  | drop => exact (drop_recorded inv recorded).after
  | crash => exact recorded

/-! ## Spawns over a run -/

/-- The login whose supervisor a call asks for, if the call comes to that. -/
def spawns (broker : LoginBroker) (call : Call) : Option LoginOperationId :=
  if call = .startDeviceLogin ∧ broker.active = none then (spawnPoint broker.host).1.toOption else none

theorem spawns_eq_some (spawn : broker.spawns call = some op) :
    call = .startDeviceLogin ∧ broker.active = none ∧ ∃ h', spawnPoint broker.host = (.ok op, h') := by
  simp only [spawns, Option.ite_none_right_eq_some, Outcome.toOption_eq_some] at spawn
  obtain ⟨⟨start, idle⟩, reached⟩ := spawn
  exact ⟨start, idle, _, Prod.ext reached rfl⟩

theorem startDeviceLogin_recorded (kept : KeepsRecord op (do preflight; launch) h) :
    Recorded op (LoginBroker.step ⟨h, none⟩ .startDeviceLogin).host := by
  apply CallKeepsRecord.after
  rw [CallKeepsRecord, startDeviceLogin, wp_bind, wp_get]
  change Proc.wp (onHost (do preflight; launch) >>= _) _ _ _ _
  rw [wp_bind, wp_onHost]
  exact kept.wp fun _ _ => id

/-- A start that comes to its spawn leaves a record of the login it spawned. -/
theorem spawns_recorded (spawn : broker.spawns call = some op) : Recorded op (broker.step call).host := by
  obtain ⟨h, active⟩ := broker
  obtain ⟨rfl, rfl, h', reached⟩ := spawns_eq_some spawn
  apply startDeviceLogin_recorded
  rw [launch_from_spawnPoint, KeepsRecord, wp_bind]
  apply wp_of_ok reached
  apply (KeepsRecord.quiet readOnly_completed (spawnPoint_recorded reached)).bind
  exact fun _ _ => awaitStarted_recorded rfl

/-- A record of an uncertain login stays on file, whatever is called. -/
theorem uncertain_recorded (inv : BrokerInv broker) (recorded : Recorded op broker.host)
    (uncertain : broker.host.loginFile.any (·.latest.isUncertain) = true) : Recorded op (broker.step call).host := by
  by_cases start : call = .startDeviceLogin
  · obtain ⟨ledger, file, own⟩ := recorded
    have kept : ∀ h', h'.loginFile = broker.host.loginFile → Recorded op h' := fun _ same =>
      ⟨ledger, same.trans file, own⟩
    obtain ⟨h, active⟩ := broker
    cases start
    cases active with
    | some active => exact kept _ rfl
    | none =>
        apply startDeviceLogin_recorded
        rw [KeepsRecord, wp_bind]
        apply wp_mono (preflight_spec h) _ (fun _ h' => kept h') kept
        rintro _ h' ⟨-, certain, -⟩
        rw [certain] at uncertain
        cases uncertain
  · exact step_recorded inv recorded start

end LoginBroker

/-- The record on file says that the login ended. -/
def endedOnFile (h : Host) (op : LoginOperationId) : Bool :=
  h.loginFile.any fun ledger => decide (ledger.operationId = op) && !ledger.latest.isUncertain

/-- A broker, with the logins it has spawned of which no record on file has said since that they
ended. -/
structure Spawned where
  broker : LoginBroker
  unended : List LoginOperationId

namespace Spawned

def step (spawned : Spawned) (call : LoginBroker.Call) : Spawned where
  broker := spawned.broker.step call
  unended := ((spawned.broker.spawns call).toList ++ spawned.unended).filter
    (!endedOnFile (spawned.broker.step call).host ·)

def system (env : Nat → Answers) : System Spawned LoginBroker.Call where
  initial spawned := spawned = ⟨⟨Host.fresh env, none⟩, []⟩
  step spawned call := some (spawned.step call)

/-- A login that has not ended is the one on file, and the file says that it has not. -/
structure Inv (spawned : Spawned) : Prop where
  broker : BrokerInv spawned.broker
  recorded : ∀ op ∈ spawned.unended, Recorded op spawned.broker.host
  unended : ∀ op ∈ spawned.unended, endedOnFile spawned.broker.host op = false

variable {spawned : Spawned} {op : LoginOperationId}

theorem Inv.uncertain (inv : spawned.Inv) (listed : op ∈ spawned.unended) :
    spawned.broker.host.loginFile.any (·.latest.isUncertain) = true := by
  obtain ⟨ledger, file, own⟩ := inv.recorded op listed
  have unended := inv.unended op listed
  simpa [endedOnFile, file, own] using unended

theorem Inv.step (inv : spawned.Inv) (call : LoginBroker.Call) : (spawned.step call).Inv := by
  refine ⟨LoginBroker.BrokerInv.step inv.broker call, ?_, ?_⟩
  · intro op listed
    obtain ⟨listed, -⟩ := List.mem_filter.mp listed
    cases List.mem_append.mp listed with
    | inl spawn => exact LoginBroker.spawns_recorded (Option.mem_toList.mp spawn)
    | inr before =>
        exact LoginBroker.uncertain_recorded inv.broker (inv.recorded op before) (inv.uncertain before)
  · intro op listed
    have unended := (List.mem_filter.mp listed).2
    rwa [Bool.not_eq_true'] at unended

theorem inv_reachable {env : Nat → Answers} (reachable : (system env).Reachable spawned) : spawned.Inv := by
  apply System.Reach.invariant reachable
  · intro start begins
    cases begins
    exact ⟨LoginBroker.inactive nofun, nofun, nofun⟩
  · intro before call next _ inv _ stepped
    cases stepped
    exact inv.step call

/-- A device login is spawned only by a start that heard from the status command that nobody is
logged in, found no record or one that ended, and finds every login spawned before it ended. -/
theorem spawned_only_after_end {env : Nat → Answers} (reachable : (system env).Reachable spawned)
    {call : LoginBroker.Call} (spawn : spawned.broker.spawns call = some op) :
    (∃ before after, preflight spawned.broker.host = (.ok (), after) ∧
        CliRuntime.status before = (.ok .loggedOut, after)) ∧
      (∀ ledger, spawned.broker.host.loginFile = some ledger →
        ledger.latest ∈ [LedgerPhase.loggedIn, .loggedOut, .failed]) ∧
      spawned.unended = [] := by
  have inv := inv_reachable reachable
  obtain ⟨-, -, h', reached⟩ := LoginBroker.spawns_eq_some spawn
  obtain ⟨⟨⟩, after, passed, -⟩ := bind_eq_ok reached
  obtain ⟨-, certain, before, -, asked⟩ := wp_ok (preflight_spec _) passed
  refine ⟨⟨before, after, passed, asked⟩, ?_, ?_⟩
  · intro ledger file
    rw [file, Option.any_some] at certain
    cases latest : ledger.latest <;> simp_all
  · apply List.eq_nil_iff_forall_not_mem.mpr
    intro earlier listed
    rw [inv.uncertain listed] at certain
    cases certain

/-- A start that dies once its child is on record, a reconciliation, and a second start. -/
theorem second_spawn_finds_first_ended :
    ∃ spawned, (system (LoginBroker.cutAt 8)).Reachable spawned ∧
      (spawned.broker.spawns .startDeviceLogin).isSome = true ∧
      spawned.broker.host.loginFile.isSome = true ∧ spawned.unended = [] := by
  let start : Spawned := ⟨⟨Host.fresh (LoginBroker.cutAt 8), none⟩, []⟩
  let second := (start.step .startDeviceLogin).step .reconcile
  have reachable : (system (LoginBroker.cutAt 8)).Reachable second :=
    .step (.step (.initial rfl) trivial rfl) trivial rfl
  have spawns : (second.broker.spawns .startDeviceLogin).isSome = true := by decide +kernel
  obtain ⟨op, spawn⟩ := Option.isSome_iff_exists.mp spawns
  exact ⟨second, reachable, spawns, by decide +kernel, (spawned_only_after_end reachable spawn).2.2⟩

/-- A login that may still run is the only one, and its record is on file. -/
theorem unended_login_on_file {env : Nat → Answers} (reachable : (system env).Reachable spawned)
    (listed : op ∈ spawned.unended) : (∀ other ∈ spawned.unended, other = op) ∧
      ∃ ledger, spawned.broker.host.loginFile = some ledger ∧ ledger.operationId = op ∧
        ledger.latest.isUncertain = true := by
  have inv := inv_reachable reachable
  obtain ⟨ledger, file, own⟩ := inv.recorded op listed
  refine ⟨fun other also => ?_, ledger, file, own, by simpa [file] using inv.uncertain listed⟩
  obtain ⟨ledger', file', own'⟩ := inv.recorded other also
  cases file.symm.trans file'
  exact own'.symm.trans own

theorem cut_login_on_file : ∃ spawned op, (system (LoginBroker.cutAt 8)).Reachable spawned ∧
    op ∈ spawned.unended ∧ ∀ other ∈ spawned.unended, other = op := by
  let cut : Spawned := .step ⟨⟨Host.fresh (LoginBroker.cutAt 8), none⟩, []⟩ .startDeviceLogin
  have reachable : (system (LoginBroker.cutAt 8)).Reachable cut := .step (.initial rfl) trivial rfl
  have listed : ⟨1, by decide⟩ ∈ cut.unended := by decide +kernel
  exact ⟨_, _, reachable, listed, (unended_login_on_file reachable listed).1⟩

end Spawned

end Codebox.Login
