import Codebox.Login.Broker

/-! # Which uncertain logins can be reconciled

Every record a broker leaves is sound, whatever call was cut short where. From that and one
look at the supervisor it is decided whether a reconcile call, on a host where everything else
works, ends the login.
-/

namespace Codebox.Login

open Codebox.Support Proc Codebox.Host

/-! ## What a run leaves on disk -/

/-- The record on disk, if any, is sound. -/
def Filed (h : Host) : Prop := ∀ ledger, h.loginFile = some ledger → ledger.Sound

variable {h : Host} {active : ActiveLogin} {error : LoginBrokerError} {α : Type}

theorem Filed.store {ledger : LoginLedger} (sound : ledger.Sound) : Filed (storeLogin ledger h) := by
  intro found file
  cases file
  exact sound

section

variable {ledger : LoginLedger} {onOk : α → Host → Prop} {onError : LoginBrokerError → Host → Prop}
  {onCrash : Host → Prop} {output : CapturedOutput} {waitIntentGrace : Bool} {phase : LedgerPhase}

/-- A procedure that only reads leaves the record as it is. -/
theorem wp_quiet {p : LoginProc α} (quiet : ReadOnly (fun _ => True) p) (filed : Filed h)
    (okay : ∀ value time, Filed (h.atTime time) → onOk value (h.atTime time))
    (failed : ∀ error h', Filed h' → onError error h') (died : ∀ h', Filed h' → onCrash h') :
    p.wp onOk onError onCrash h :=
  quiet.wp (fun value time _ => okay value time filed) (fun error _ _ _ => failed error _ filed)
    (fun _ _ => died _ filed)

theorem readOnly_answered {answer : Answers → Except LoginBrokerError α} :
    ReadOnly (fun _ => True) (answered answer) := by
  apply readOnly_bind readOnly_ask
  intro answers
  cases answer answers with
  | ok value => exact readOnly_pure value
  | error error => exact readOnly_fail trivial

theorem readOnly_completed {answer : Answers → Option LoginBrokerError} :
    ReadOnly (fun _ => True) (completed answer) := by
  apply readOnly_bind readOnly_ask
  intro answers
  cases answer answers with
  | none => exact readOnly_pure ()
  | some error => exact readOnly_fail trivial

theorem readOnly_acquireOwned : ReadOnly (fun _ => True) acquireOwned := by
  apply readOnly_bind readOnly_ask
  intro answers
  cases answers.scope with
  | none => exact readOnly_pure ()
  | some error => exact readOnly_fail trivial

theorem readOnly_childAlive : ReadOnly (fun _ => True) (childAlive ledger waitIntentGrace) := by
  unfold childAlive
  cases ledger.process with
  | some process => exact readOnly_answered
  | none =>
      cases waitIntentGrace with
      | true => exact readOnly_bind readOnly_ask fun _ => readOnly_pure false
      | false => exact readOnly_pure false

theorem wp_loadLedger {onOk : Option LoginLedger → Host → Prop} (filed : Filed h)
    (found : onOk h.loginFile h.advance) (failed : ∀ error h', Filed h' → onError error h')
    (died : ∀ h', Filed h' → onCrash h') : loadLedger.wp onOk onError onCrash h := by
  rw [loadLedger, wp_bind]
  apply wp_readFile (died _ filed) _ (failed _ _ filed) (failed _ _ filed)
  have same : h.advance.loginFile = h.loginFile := rfl
  cases file : h.loginFile with
  | none => simpa [same, file] using found
  | some ledger =>
      have checked := LoginLedger.validate_eq_ok.mpr (filed ledger file).valid
      simpa [same, file, checked] using found

theorem wp_persistLedger {onOk : Unit → Host → Prop} (sound : ledger.Sound) (filed : Filed h)
    (stored : onOk () (storeLogin ledger h.advance)) (failed : ∀ error h', Filed h' → onError error h')
    (died : ∀ h', Filed h' → onCrash h') : (persistLedger ledger).wp onOk onError onCrash h := by
  rw [persistLedger, LoginLedger.validate_eq_ok.mpr sound.valid, wp_bind, wp_ofExcept_ok]
  apply wp_replaceFile (died _ filed)
  · exact fun _ => stored
  · exact fun _ => failed _ _ (.store sound)
  · exact fun _ => failed _ _ filed
  · exact fun _ => failed _ _ filed

theorem wp_append {onOk : LoginLedger → Host → Prop} (sound : ledger.Sound) (filed : Filed h)
    (moved : ledger.latest ≠ phase) (other : phase ≠ .started)
    (appended : ∀ ledger', ledger'.Sound → ledger'.latest = phase → onOk ledger' h)
    (failed : ∀ error h', Filed h' → onError error h') :
    (Proc.ofExcept (ledger.append phase) : LoginProc LoginLedger).wp onOk onError onCrash h := by
  cases grown : ledger.append phase with
  | error error => exact failed error h filed
  | ok ledger' =>
      obtain ⟨sound', latest⟩ := sound.append moved other grown
      exact appended ledger' sound' latest

theorem wp_markUnknown {onOk : LoginLedger → Host → Prop} (sound : ledger.Sound) (filed : Filed h)
    (marked : ∀ ledger' h', ledger'.Sound → ledger'.latest = .outcomeUnknown → Filed h' → onOk ledger' h')
    (failed : ∀ error h', Filed h' → onError error h') (died : ∀ h', Filed h' → onCrash h') :
    (markUnknown ledger).wp onOk onError onCrash h := by
  unfold markUnknown
  split
  · rename_i other
    rw [wp_bind]
    apply wp_append sound filed other (by decide) _ failed
    intro ledger' sound' latest
    rw [wp_bind]
    exact wp_persistLedger sound' filed (marked _ _ sound' latest (.store sound')) failed died
  · rename_i same
    exact marked ledger h sound (not_not.mp same) filed

/-- Ended or not, a procedure leaves a sound record. -/
def LeavesFiled (p : LoginProc α) (h : Host) : Prop := p.wp (fun _ => Filed) (fun _ => Filed) Filed h

theorem LeavesFiled.wp {p : LoginProc α} (left : LeavesFiled p h)
    (okay : ∀ value h', Filed h' → onOk value h') : p.wp onOk (fun _ => Filed) Filed h :=
  wp_mono left okay (fun _ _ => id) (fun _ => id)

theorem conclude_filed (sound : ledger.Sound) (filed : Filed h) (moved : ledger.latest ≠ phase)
    (other : phase ≠ .started) : LeavesFiled (conclude ledger phase) h := by
  rw [LeavesFiled, conclude, wp_bind]
  apply wp_append sound filed moved other _ fun _ _ => id
  intro ledger' sound' _
  exact wp_persistLedger sound' filed (.store sound') (fun _ _ => id) (fun _ => id)

theorem markUnknown_filed (sound : ledger.Sound) (filed : Filed h) :
    LeavesFiled (do let _ ← markUnknown ledger; Proc.fail error : LoginProc α) h := by
  rw [LeavesFiled, wp_bind]
  exact wp_markUnknown sound filed (fun _ _ _ _ kept => kept) (fun _ _ => id) (fun _ => id)

/-- The latest phase of an uncertain record is none of the terminal ones. -/
theorem ne_phaseFor (status : PinnedStatus) (uncertain : ledger.latest.isUncertain = true) :
    ledger.latest ≠ phaseFor status := by
  intro same
  rw [same] at uncertain
  cases status <;> exact absurd uncertain (by decide)

theorem phaseFor_ne_started (status : PinnedStatus) : phaseFor status ≠ .started := by
  cases status <;> decide

theorem reconcileLedger_filed (sound : ledger.Sound) (uncertain : ledger.latest.isUncertain = true)
    (filed : Filed h) : LeavesFiled (reconcileLedger ledger) h := by
  rw [LeavesFiled, reconcileLedger, wp_bind, wp_attempt]
  apply wp_quiet readOnly_answered filed
  · intro status time kept
    rw [wp_bind]
    exact conclude_filed sound kept (ne_phaseFor status uncertain) (phaseFor_ne_started status)
  · intro error h' kept
    exact markUnknown_filed sound kept
  · exact fun _ => id

theorem completion_filed {rest : Except LoginBrokerError Unit → LoginProc α} (filed : Filed h)
    (continues : ∀ parsed, LeavesFiled (rest parsed) h) : LeavesFiled (completion output >>= rest) h := by
  rw [LeavesFiled, wp_bind, completion]
  cases parseLoginCompletion output with
  | none => exact filed
  | some parsed => exact continues parsed

theorem resolveInterrupted_filed (sound : ledger.Sound) (filed : Filed h) :
    LeavesFiled (resolveInterrupted ledger output) h := by
  rw [LeavesFiled, resolveInterrupted, wp_bind]
  apply wp_markUnknown sound filed _ (fun _ _ => id) (fun _ => id)
  intro ledger' h' sound' latest filed'
  apply completion_filed filed'
  intro parsed
  split
  · exact filed'
  · exact reconcileLedger_filed sound' (by rw [latest]; rfl) filed'

theorem resolveTerminalEvent_filed (active : ActiveLogin) (event : SupervisorEvent)
    (sound : active.ledger.Sound) (uncertain : active.ledger.latest.isUncertain = true)
    (filed : Filed h) : LeavesFiled (resolveTerminalEvent active event) h := by
  cases event with
  | exited output =>
      apply completion_filed filed
      intro parsed
      split
      · exact markUnknown_filed sound filed
      · exact markUnknown_filed sound filed
      · exact reconcileLedger_filed sound uncertain filed
  | instructionDeadline output | overallDeadline output | canceled output => exact resolveInterrupted_filed sound filed
  | uncertain error =>
      rw [LeavesFiled, resolveTerminalEvent, wp_bind]
      apply wp_markUnknown sound filed _ (fun _ _ => id) (fun _ => id)
      intro ledger' h' sound' latest filed'
      rw [wp_bind]
      exact reconcileLedger_filed sound' (by rw [latest]; rfl) filed'
  | failed error =>
      rw [LeavesFiled, resolveTerminalEvent, wp_bind]
      refine conclude_filed sound filed ?_ (by decide)
      intro same
      rw [same] at uncertain
      exact absurd uncertain (by decide)
  | started process => exact markUnknown_filed sound filed
  | instructions code => exact markUnknown_filed sound filed

/-! ## The calls -/

/-- The login is started: its record is on disk and has come to the instructions. -/
structure Displayed (active : ActiveLogin) (h : Host) : Prop where
  file : h.loginFile = some active.ledger
  sound : active.ledger.Sound
  latest : active.ledger.latest = .deviceInstructions

theorem Displayed.uncertain (displayed : Displayed active h) : active.ledger.latest.isUncertain = true := by
  rw [displayed.latest]
  rfl

theorem Displayed.filed (displayed : Displayed active h) : Filed h := by
  intro ledger file
  cases displayed.file.symm.trans file
  exact displayed.sound

theorem Displayed.time (displayed : Displayed active h) (time : Nat) : Displayed active (h.atTime time) :=
  ⟨displayed.file, displayed.sound, displayed.latest⟩

theorem cancelActive_filed (displayed : Displayed active h) : LeavesFiled (cancelActive active) h := by
  rw [LeavesFiled, cancelActive, wp_bind]
  apply wp_markUnknown displayed.sound displayed.filed _ (fun _ _ => id) (fun _ => id)
  intro ledger' h' sound' latest kept
  rw [wp_bind]
  apply wp_quiet readOnly_answered kept _ (fun _ _ => id) (fun _ => id)
  intro event time kept'
  exact resolveTerminalEvent_filed _ event sound' (by rw [latest]; rfl) kept'

theorem preflight_filed (filed : Filed h) : LeavesFiled preflight h := by
  rw [LeavesFiled, preflight, wp_bind]
  apply wp_quiet readOnly_acquireOwned filed _ (fun _ _ => id) (fun _ => id)
  intro _ time kept
  rw [wp_bind]
  apply wp_quiet readOnly_completed kept _ (fun _ _ => id) (fun _ => id)
  intro _ time' kept'
  rw [wp_bind]
  apply wp_loadLedger kept' _ (fun _ _ => id) (fun _ => id)
  have kept'' : Filed (h.atTime (time' + 1)) := filed
  split
  · exact kept''
  · rw [wp_bind]
    apply wp_quiet readOnly_answered kept'' _ (fun _ _ => id) (fun _ => id)
    intro status _ last
    cases status with
    | loggedIn => exact last
    | loggedOut => exact last

theorem awaitInstructions_spec (sound : ledger.Sound) (latest : ledger.latest = .started)
    (filed : Filed h) :
    (awaitInstructions ledger).wp (fun started => Displayed started.1) (fun _ => Filed) Filed h := by
  have uncertain : ledger.latest.isUncertain = true := by rw [latest]; rfl
  rw [awaitInstructions, wp_bind, wp_attempt]
  apply wp_quiet readOnly_answered filed
  · intro event time kept
    have ended : (do
        let ended ← resolveTerminalEvent ⟨ledger.operationId, ledger⟩ event
        Proc.fail (endedEarly ended) : LoginProc (ActiveLogin × LoginInteraction)).wp
          (fun started => Displayed started.1) (fun _ => Filed) Filed (h.atTime time) := by
      rw [wp_bind]
      exact (resolveTerminalEvent_filed _ event sound uncertain kept).wp fun _ _ => id
    cases event with
    | instructions code =>
        rw [wp_bind]
        apply wp_append sound kept (by rw [latest]; decide) (by decide) _ (fun _ _ => id)
        intro ledger' sound' latest'
        rw [wp_bind]
        exact wp_persistLedger sound' kept ⟨rfl, sound', latest'⟩ (fun _ _ => id) (fun _ => id)
    | _ => exact ended
  · intro error h' kept
    rw [wp_bind]
    exact wp_markUnknown sound kept (fun _ _ _ _ last => last) (fun _ _ => id) (fun _ => id)
  · exact fun _ => id

theorem awaitStarted_spec (sound : ledger.Sound) (latest : ledger.latest = .intent) (filed : Filed h) :
    (awaitStarted ledger).wp (fun started => Displayed started.1) (fun _ => Filed) Filed h := by
  have uncertain : ledger.latest.isUncertain = true := by rw [latest]; rfl
  rw [awaitStarted, wp_bind, wp_attempt]
  apply wp_quiet readOnly_answered filed
  · intro event time kept
    have unexpected : (do
        let _ ← markUnknown ledger
        Proc.fail .outcomeUnknown : LoginProc (ActiveLogin × LoginInteraction)).wp
          (fun started => Displayed started.1) (fun _ => Filed) Filed (h.atTime time) := by
      rw [wp_bind]
      exact wp_markUnknown sound kept (fun _ _ _ _ last => last) (fun _ _ => id) (fun _ => id)
    cases event with
    | started process =>
        rw [wp_bind]
        cases recorded : ledger.recordStarted process with
        | error error => exact kept
        | ok ledger' =>
            obtain ⟨sound', latest'⟩ := sound.recordStarted recorded
            rw [wp_ofExcept_ok, wp_bind]
            exact wp_persistLedger sound' kept (awaitInstructions_spec sound' latest' (.store sound'))
              (fun _ _ => id) (fun _ => id)
    | failed error =>
        rw [wp_bind]
        exact (conclude_filed sound kept (by rw [latest]; decide) (by decide)).wp fun _ _ => id
    | uncertain error =>
        rw [wp_bind]
        exact (resolveTerminalEvent_filed ⟨ledger.operationId, ledger⟩ _ sound uncertain kept).wp fun _ _ => id
    | _ => exact unexpected
  · intro error h' kept
    rw [wp_bind]
    exact wp_markUnknown sound kept (fun _ _ _ _ last => last) (fun _ _ => id) (fun _ => id)
  · exact fun _ => id

theorem launch_spec (filed : Filed h) :
    launch.wp (fun started => Displayed started.1) (fun _ => Filed) Filed h := by
  let operation : LoginOperationId := ⟨h.issued + 1, Nat.succ_pos _⟩
  let issued : Host := { h with issued := h.issued + 1 }
  have fresh := LoginLedger.new_sound operation
  have kept : Filed issued := filed
  change (do
    persistLedger (.new operation)
    CliRuntime.start
    awaitStarted (.new operation) : LoginProc (ActiveLogin × LoginInteraction)).wp _ _ _ issued
  rw [wp_bind]
  apply wp_persistLedger fresh kept _ (fun _ _ => id) (fun _ => id)
  rw [wp_bind]
  apply wp_quiet readOnly_completed (.store fresh) _ (fun _ _ => id) (fun _ => id)
  intro _ time kept'
  exact awaitStarted_spec fresh rfl kept'

theorem reconcileWithoutActive_filed (filed : Filed h) : LeavesFiled (reconcileWithoutActive waitIntentGrace) h := by
  rw [LeavesFiled, reconcileWithoutActive, wp_bind]
  apply wp_quiet readOnly_acquireOwned filed _ (fun _ _ => id) (fun _ => id)
  intro _ time kept
  rw [wp_bind]
  apply wp_quiet readOnly_completed kept _ (fun _ _ => id) (fun _ => id)
  intro _ time' kept'
  rw [wp_bind]
  apply wp_loadLedger kept' _ (fun _ _ => id) (fun _ => id)
  have kept'' : Filed (h.atTime (time' + 1)) := filed
  have asked : LeavesFiled (do return projectStatus (← CliRuntime.status)) (h.atTime (time' + 1)) := by
    rw [LeavesFiled, wp_bind]
    exact wp_quiet readOnly_answered kept'' (fun _ _ => id) (fun _ _ => id) (fun _ => id)
  cases file : h.loginFile with
  | none =>
      simp only [atTime_loginFile, file]
      exact asked
  | some existing =>
      cases uncertain : existing.latest.isUncertain with
      | false =>
          simp only [atTime_loginFile, file, uncertain, Bool.false_eq_true, if_false]
          exact asked
      | true =>
          simp only [atTime_loginFile, file, uncertain, if_true, wp_bind]
          apply wp_quiet readOnly_childAlive kept'' _ (fun _ _ => id) (fun _ => id)
          intro alive time'' last
          cases alive with
          | true => exact last
          | false => exact reconcileLedger_filed (filed existing file) uncertain last

end

/-! ## Runs of the broker -/

/-- The record on disk is sound, and that of an active login is the one it holds. -/
structure BrokerInv (broker : LoginBroker) : Prop where
  filed : Filed broker.host
  active : ∀ active, broker.active = some active → Displayed active broker.host

namespace LoginBroker

variable {broker : LoginBroker}

@[simp] theorem wp_onHost {p : LoginProc α} {onOk : α → LoginBroker → Prop}
    {onError : LoginBrokerError → LoginBroker → Prop} {onCrash : LoginBroker → Prop} :
    (onHost p).wp onOk onError onCrash broker =
      p.wp (fun value h => onOk value { broker with host := h })
        (fun error h => onError error { broker with host := h })
        (fun h => onCrash { broker with host := h }) broker.host :=
  wp_on ..

/-- What is known of a call that keeps the invariant: a dead process has only its file left. -/
def KeepsBroker {α : Type} (p : BrokerProc α) (broker : LoginBroker) : Prop :=
  p.wp (fun _ => BrokerInv) (fun _ => BrokerInv) (fun broker' => Filed broker'.host) broker

theorem KeepsBroker.after {p : BrokerProc α} (kept : KeepsBroker p broker) :
    BrokerInv (LoginBroker.after (p broker)) := by
  unfold KeepsBroker Proc.wp at kept
  cases ran : p broker with
  | mk outcome broker' =>
      rw [ran] at kept
      cases outcome with
      | ok value => exact kept
      | error error => exact kept
      | crashed => exact ⟨kept, by simp [LoginBroker.after]⟩

theorem inactive (filed : Filed h) : BrokerInv ⟨h, none⟩ := ⟨filed, by simp⟩

/-- A procedure on the host, run with no active login. -/
theorem onHost_keeps {p : LoginProc α} (left : LeavesFiled p h) : KeepsBroker (onHost p) ⟨h, none⟩ := by
  rw [KeepsBroker, wp_onHost]
  exact wp_mono left (fun _ _ => inactive) (fun _ _ => inactive) (fun _ => id)

theorem holding (displayed : Displayed active h) : BrokerInv ⟨h, some active⟩ := by
  refine ⟨displayed.filed, ?_⟩
  intro held same
  cases same
  exact displayed

section

variable (inv : BrokerInv broker)

include inv

theorem startDeviceLogin_keeps : KeepsBroker startDeviceLogin broker := by
  obtain ⟨h, active⟩ := broker
  rw [KeepsBroker, startDeviceLogin, wp_bind, wp_get]
  cases active with
  | some active => exact inv
  | none =>
      simp only [wp_bind, wp_onHost]
      apply wp_mono (preflight_filed inv.filed) _ (fun _ _ => inactive) (fun _ => id)
      intro _ h' kept
      exact wp_mono (launch_spec kept) (fun _ _ => holding) (fun _ _ => inactive) (fun _ => id)

theorem status_keeps : KeepsBroker status broker := by
  obtain ⟨h, active⟩ := broker
  rw [KeepsBroker, status, wp_bind, wp_get]
  cases active with
  | none => exact onHost_keeps (reconcileWithoutActive_filed inv.filed)
  | some active =>
      have displayed := inv.active active rfl
      rw [wp_bind, wp_onHost]
      apply readOnly_answered.wp
      · intro polled time _
        have later := displayed.time time
        have ended : ∀ event, KeepsBroker (onHost (resolveTerminalEvent active event))
            ⟨h.atTime time, none⟩ := fun event =>
          onHost_keeps (resolveTerminalEvent_filed active event later.sound later.uncertain later.filed)
        unfold statusOf
        split
        · exact holding later
        · exact holding later
        · exact ended _
      · exact fun _ time _ _ => holding (displayed.time time)
      · exact fun _ _ => inv.filed

theorem reconcile_keeps : KeepsBroker reconcile broker := by
  obtain ⟨h, active⟩ := broker
  rw [KeepsBroker, reconcile, wp_bind, wp_get]
  cases active with
  | none => exact onHost_keeps (reconcileWithoutActive_filed inv.filed)
  | some active => exact status_keeps inv

theorem cancel_keeps : KeepsBroker cancel broker := by
  obtain ⟨h, active⟩ := broker
  rw [KeepsBroker, cancel, wp_bind, wp_get]
  cases active with
  | none => exact onHost_keeps (reconcileWithoutActive_filed inv.filed)
  | some active =>
      exact onHost_keeps (cancelActive_filed (inv.active active rfl))

theorem drop_keeps : KeepsBroker drop broker := by
  obtain ⟨h, active⟩ := broker
  rw [KeepsBroker, drop, wp_bind, wp_get]
  cases active with
  | none => exact inv
  | some active =>
      have displayed := inv.active active rfl
      simp only [setActive, wp_bind, wp_modify, wp_attempt, wp_onHost]
      exact wp_markUnknown displayed.sound inv.filed (fun _ _ _ _ => inactive) (fun _ _ => inactive)
        (fun _ => id)

theorem BrokerInv.step (call : Call) : BrokerInv (broker.step call) := by
  cases call with
  | startDeviceLogin => exact (startDeviceLogin_keeps inv).after
  | status => exact (status_keeps inv).after
  | reconcile => exact (reconcile_keeps inv).after
  | cancel => exact (cancel_keeps inv).after
  | drop => exact (drop_keeps inv).after
  | crash => exact inactive inv.filed

end

theorem brokerInv_reachable {env : Nat → Answers} (reachable : (system env).Reachable broker) :
    BrokerInv broker := by
  apply System.Reach.invariant reachable
  · intro start begins
    cases begins
    exact inactive nofun
  · intro before call next _ inv _ stepped
    cases stepped
    exact BrokerInv.step inv call

end LoginBroker

/-! ## A host on which reconciliation can work -/

/-- The process lives, files and scope are in order, the child is dead, and the status command
answers. Nothing is said of a supervisor. -/
structure LoginReady (status : PinnedStatus) (answers : Answers) : Prop where
  alive : answers.crash = false
  scope : answers.scope = none
  read : answers.read = .readable
  write : ∀ ledger, answers.writeLogin ledger = .stored
  version : answers.version = none
  status : answers.loginStatus = .ok status
  child : answers.loginChild = .ok false

def ReadyFrom (status : PinnedStatus) (h : Host) : Prop :=
  ∀ time, h.tick ≤ time → LoginReady status (h.env time)

section

variable {status : PinnedStatus} {ledger : LoginLedger} {op : LoginOperationId}

section

variable (ready : ReadyFrom status h)

include ready

theorem ReadyFrom.later {h' : Host} (env : h'.env = h.env) (tick : h.tick ≤ h'.tick) : ReadyFrom status h' := by
  intro time after
  rw [env]
  exact ready time (Nat.le_trans tick after)

theorem ReadyFrom.advance : ReadyFrom status h.advance :=
  ready.later rfl (Nat.le_succ _)

theorem ReadyFrom.now : LoginReady status h.answers :=
  ready h.tick (Nat.le_refl _)

theorem ReadyFrom.ask {ε : Type} : (Host.ask : Proc Host ε Answers) h = (.ok h.answers, h.advance) := by
  simp [Host.ask, ready.now.alive]

theorem acquireOwned_ready : acquireOwned h = (.ok (), h.advance) := by
  simp [acquireOwned, bind, Proc.bind, ready.ask, ready.now.scope, pure, Proc.pure]

theorem verifyVersion_ready : CliRuntime.verifyVersion h = (.ok (), h.advance) := by
  simp [CliRuntime.verifyVersion, completed, bind, Proc.bind, ready.ask, ready.now.version, pure,
    Proc.pure]

theorem status_ready : CliRuntime.status h = (.ok status, h.advance) := by
  simp [CliRuntime.status, answered, bind, Proc.bind, ready.ask, ready.now.status, Proc.ofExcept,
    Proc.pure]

theorem loadLedger_ready (filed : Filed h) : loadLedger h = (.ok h.loginFile, h.advance) := by
  have same : h.advance.loginFile = h.loginFile := rfl
  cases file : h.loginFile with
  | none =>
      simp [loadLedger, readFile, bind, Proc.bind, ready.ask, ready.now.read, pure, Proc.pure, Proc.get,
        same, file]
  | some ledger =>
      have checked := LoginLedger.validate_eq_ok.mpr (filed ledger file).valid
      simp [loadLedger, readFile, bind, Proc.bind, ready.ask, ready.now.read, pure, Proc.pure, Proc.get,
        same, file, checked, Proc.ofExcept]

theorem persistLedger_ready (sound : ledger.Sound) :
    persistLedger ledger h = (.ok (), storeLogin ledger h.advance) := by
  have checked := LoginLedger.validate_eq_ok.mpr sound.valid
  simp [persistLedger, replaceFile, bind, Proc.bind, ready.ask, ready.now.write, Proc.pure, checked,
    Proc.ofExcept, Proc.modify]

/-- A reconcilable record ends in the phase of the status. -/
theorem reconcileLedger_ready (sound : ledger.Sound) (uncertain : ledger.latest.isUncertain = true)
    (begun : ledger.latest ≠ .intent) :
    ∃ ledger', ledger'.operationId = ledger.operationId ∧ ledger'.latest.isUncertain = false ∧
      ledger'.Sound ∧
      reconcileLedger ledger h = (.ok (projectStatus status), storeLogin ledger' h.advance.advance) := by
  have permitted : ledger.latest.validTransition (phaseFor status) = true := by
    cases latest : ledger.latest <;> cases status <;> simp_all [LedgerPhase.validTransition, phaseFor]
  have appended := LoginLedger.append_eq_ok.mpr ⟨sound.room, permitted, rfl⟩
  obtain ⟨sound', latest⟩ := sound.append (ne_phaseFor status uncertain) (phaseFor_ne_started status)
    appended
  refine ⟨{ ledger with history := ledger.history ++ [phaseFor status] }, rfl, ?_, sound', ?_⟩
  · rw [latest]
    cases status <;> rfl
  simp [reconcileLedger, conclude, bind, Proc.bind, Proc.attempt, status_ready ready, appended,
    Proc.ofExcept, Proc.pure, pure, persistLedger_ready ready.advance sound']

/-- A record of an intent cannot take the status. -/
theorem reconcileLedger_intent (latest : ledger.latest = .intent) :
    reconcileLedger ledger h = (.error .ledgerInvalid, h.advance) := by
  have stuck : ledger.append (phaseFor status) = .error .ledgerInvalid := by
    unfold LoginLedger.append
    rw [if_pos]
    right
    rw [latest]
    cases status <;> decide
  simp [reconcileLedger, conclude, bind, Proc.bind, Proc.attempt, status_ready ready, stuck,
    Proc.ofExcept, Proc.fail]

theorem markUnknown_ready (sound : ledger.Sound) (uncertain : ledger.latest.isUncertain = true) :
    ∃ ledger' h', markUnknown ledger h = (.ok ledger', h') ∧ ledger'.operationId = ledger.operationId ∧
      ledger'.Sound ∧ ledger'.latest = .outcomeUnknown ∧ ReadyFrom status h' := by
  by_cases unknown : ledger.latest = .outcomeUnknown
  · exact ⟨ledger, h, by simp [markUnknown, unknown, pure, Proc.pure], rfl, sound, unknown, ready⟩
  · have permitted : ledger.latest.validTransition .outcomeUnknown = true := by
      cases latest : ledger.latest <;> simp_all [LedgerPhase.validTransition]
    let marked : LoginLedger := { ledger with history := ledger.history ++ [.outcomeUnknown] }
    have appended : ledger.append .outcomeUnknown = .ok marked :=
      LoginLedger.append_eq_ok.mpr ⟨sound.room, permitted, rfl⟩
    obtain ⟨sound', latest⟩ := sound.append unknown (by decide) appended
    refine ⟨marked, storeLogin marked h.advance, ?_, rfl, sound', latest,
      ready.later rfl (Nat.le_succ _)⟩
    simp [markUnknown, unknown, bind, Proc.bind, appended, Proc.ofExcept, Proc.pure, pure,
      persistLedger_ready ready sound']

end

/-- The record of `op` is terminal, and no start is refused because of it. -/
structure LoginEnded (op : LoginOperationId) (h : Host) : Prop where
  file : ∃ ledger, h.loginFile = some ledger ∧ ledger.operationId = op ∧
    ledger.latest.isUncertain = false
  startable : (preflight h).1 ≠ .error .outcomeUnknown

theorem LoginEnded.of_ready (ready : ReadyFrom status h) (sound : ledger.Sound) (file : h.loginFile = some ledger)
    (own : ledger.operationId = op) (ended : ledger.latest.isUncertain = false) : LoginEnded op h := by
  refine ⟨⟨ledger, file, own, ended⟩, ?_⟩
  have filed : Filed h := by
    intro found same
    cases file.symm.trans same
    exact sound
  have loaded := loadLedger_ready ready.advance.advance filed
  have same : h.advance.advance.loginFile = some ledger := file
  cases status <;>
    simp [preflight, bind, Proc.bind, acquireOwned_ready ready, verifyVersion_ready ready.advance, loaded,
      same, ended, status_ready ready.advance.advance.advance, Proc.fail, pure, Proc.pure]

/-- A reconciliation that returns the status and ends the login `op`. -/
def Ends (status : PinnedStatus) (op : LoginOperationId)
    (ran : Outcome LoginBrokerError LoginStatus × Host) : Prop :=
  ran.1 = .ok (projectStatus status) ∧ LoginEnded op ran.2

theorem reconcileLedger_ends_iff (ready : ReadyFrom status h) (sound : ledger.Sound)
    (uncertain : ledger.latest.isUncertain = true) :
    Ends status ledger.operationId (reconcileLedger ledger h) ↔ ledger.latest ≠ .intent := by
  by_cases latest : ledger.latest = .intent
  · simp [Ends, reconcileLedger_intent ready latest, latest]
  · obtain ⟨ledger', own, ended, sound', ran⟩ := reconcileLedger_ready ready sound uncertain latest
    have closed := LoginEnded.of_ready (h := storeLogin ledger' h.advance.advance)
      ready.advance.advance sound' rfl own ended
    simp [Ends, ran, closed, latest]

theorem childAlive_ready (ledger : LoginLedger) (ready : ReadyFrom status h) (waitIntentGrace : Bool) :
    ∃ h', childAlive ledger waitIntentGrace h = (.ok false, h') ∧ ReadyFrom status h' := by
  unfold childAlive
  cases ledger.process with
  | some process =>
      refine ⟨h.advance, ?_, ready.advance⟩
      simp [processIsAlive, answered, bind, Proc.bind, ready.ask, ready.now.child, Proc.ofExcept, Proc.pure]
  | none =>
      cases waitIntentGrace with
      | true =>
          refine ⟨h.advance, ?_, ready.advance⟩
          simp [bind, Proc.bind, ready.ask, pure, Proc.pure]
      | false => exact ⟨h, rfl, ready⟩

theorem reconcileWithoutActive_ends_iff (ready : ReadyFrom status h) (filed : Filed h)
    (file : h.loginFile = some ledger) (uncertain : ledger.latest.isUncertain = true)
    (waitIntentGrace : Bool) :
    Ends status ledger.operationId (reconcileWithoutActive waitIntentGrace h) ↔
      ledger.latest ≠ .intent := by
  have loaded := loadLedger_ready ready.advance.advance filed
  have same : h.advance.advance.loginFile = some ledger := file
  obtain ⟨h', dead, ready'⟩ := childAlive_ready ledger ready.advance.advance.advance waitIntentGrace
  have ran : reconcileWithoutActive waitIntentGrace h = reconcileLedger ledger h' := by
    simp [reconcileWithoutActive, bind, Proc.bind, acquireOwned_ready ready,
      verifyVersion_ready ready.advance, loaded, same, uncertain, dead]
  rw [ran]
  exact reconcileLedger_ends_iff ready' (filed ledger file) uncertain

/-! ## With an active login -/

/-- An event after which the broker asks for the status and returns it: an end of the child
whose output is a prompt within the limit, or an interruption with output within the limit. -/
def Conclusive : SupervisorEvent → Prop
  | .exited output => ∃ parsed, parseLoginCompletion output = some parsed ∧
      parsed ≠ .error .outputLimitExceeded ∧ parsed ≠ .error .providerOutputInvalid
  | .instructionDeadline output | .overallDeadline output | .canceled output =>
      ∃ parsed, parseLoginCompletion output = some parsed ∧ parsed ≠ .error .outputLimitExceeded
  | .started _ | .instructions _ | .uncertain _ | .failed _ => False

theorem not_ends_bind {p : LoginProc α} {f : α → LoginProc LoginStatus}
    (rest : ∀ value h', ¬ Ends status op (f value h')) : ¬ Ends status op ((p >>= f) h) := by
  simp only [bind, Proc.bind]
  rcases p h with ⟨value | error | _, h'⟩
  · exact rest value h'
  · simp [Ends]
  · simp [Ends]

theorem not_ends_fail : ¬ Ends status op ((Proc.fail error : LoginProc LoginStatus) h) := by
  simp [Ends, Proc.fail]

theorem resolveInterrupted_ends_iff (output : CapturedOutput) (ready : ReadyFrom status h)
    (sound : ledger.Sound) (uncertain : ledger.latest.isUncertain = true) :
    Ends status ledger.operationId (resolveInterrupted ledger output h) ↔
      ∃ parsed, parseLoginCompletion output = some parsed ∧ parsed ≠ .error .outputLimitExceeded := by
  obtain ⟨ledger', h', marked, own, sound', latest, ready'⟩ := markUnknown_ready ready sound uncertain
  have ends := (reconcileLedger_ends_iff ready' sound' (by rw [latest]; rfl)).mpr (by rw [latest]; decide)
  rw [own] at ends
  cases parsed : parseLoginCompletion output with
  | none => simp [Ends, resolveInterrupted, bind, Proc.bind, marked, completion, parsed, Proc.crash]
  | some result =>
      by_cases limit : result = .error .outputLimitExceeded
      · simp [Ends, resolveInterrupted, bind, Proc.bind, marked, completion, parsed, limit, Proc.fail, pure,
          Proc.pure]
      · have ran : resolveInterrupted ledger output h = reconcileLedger ledger' h' := by
          simp only [resolveInterrupted, bind, Proc.bind, marked, completion, parsed, pure, Proc.pure]
        simp [ran, ends, limit]

theorem resolveTerminalEvent_ends_iff (event : SupervisorEvent) (ready : ReadyFrom status h)
    (displayed : Displayed active h) :
    Ends status active.ledger.operationId (resolveTerminalEvent active event h) ↔ Conclusive event := by
  have sound := displayed.sound
  have uncertain := displayed.uncertain
  have interrupted := fun output => resolveInterrupted_ends_iff output ready sound uncertain
  cases event with
  | exited output =>
      have ends := (reconcileLedger_ends_iff ready sound uncertain).mpr (by rw [displayed.latest]; decide)
      cases parsed : parseLoginCompletion output with
      | none =>
          simp [Ends, resolveTerminalEvent, Conclusive, bind, Proc.bind, completion, parsed, Proc.crash]
      | some result =>
          by_cases refused : result = .error .outputLimitExceeded ∨ result = .error .providerOutputInvalid
          · apply iff_of_false
            · obtain ⟨error, ran⟩ : ∃ error, resolveTerminalEvent active (.exited output) h =
                  (do let _ ← markUnknown active.ledger; Proc.fail error : LoginProc LoginStatus) h := by
                rcases refused with rfl | rfl
                · refine ⟨.outputLimitExceeded, ?_⟩
                  simp only [resolveTerminalEvent, bind, Proc.bind, completion, parsed, pure, Proc.pure]
                · refine ⟨.providerOutputInvalid, ?_⟩
                  simp only [resolveTerminalEvent, bind, Proc.bind, completion, parsed, pure, Proc.pure]
              rw [ran]
              exact not_ends_bind fun _ _ => not_ends_fail
            · rintro ⟨parsed', same, within, valid⟩
              cases parsed.symm.trans same
              exact refused.elim within valid
          · rw [not_or] at refused
            have ran : resolveTerminalEvent active (.exited output) h = reconcileLedger active.ledger h := by
              simp only [resolveTerminalEvent, bind, Proc.bind, completion, parsed, pure, Proc.pure]
              split <;> simp_all
            simp [ran, ends, Conclusive, parsed, refused.1, refused.2]
  | instructionDeadline output | overallDeadline output | canceled output => exact interrupted output
  | uncertain error =>
      exact iff_of_false (not_ends_bind fun _ _ => not_ends_bind fun _ _ => not_ends_fail) id
  | failed error | started process | instructions code => exact iff_of_false (not_ends_bind fun _ _ => not_ends_fail) id

end

/-! ## Which uncertain logins one call reconciles -/

namespace LoginBroker

/-- One reconcile call returns the status, ends the login and leaves none active. -/
def Reconciles (status : PinnedStatus) (op : LoginOperationId) (broker : LoginBroker) : Prop :=
  (reconcile broker).1 = .ok (projectStatus status) ∧ (reconcile broker).2.active = none ∧
    LoginEnded op (reconcile broker).2.host

/-- Without an active login the record has come beyond the intent; with one, its supervisor has
a conclusive event waiting. -/
def Reconcilable (broker : LoginBroker) (ledger : LoginLedger) : Prop :=
  match broker.active with
  | none => ledger.latest ≠ .intent
  | some _ => ∃ event, broker.host.answers.loginTryReceive = .ok (some event) ∧ Conclusive event

variable {broker : LoginBroker} {status : PinnedStatus} {ledger : LoginLedger}

theorem reconcile_inactive (h : Host) (op : LoginOperationId) :
    Reconciles status op ⟨h, none⟩ ↔ Ends status op (reconcileWithoutActive true h) := by
  have ran : reconcile ⟨h, none⟩ =
      ((reconcileWithoutActive true h).1, ⟨(reconcileWithoutActive true h).2, none⟩) := rfl
  simp [Reconciles, ran, Ends]

/-- A reconcile call with an active login looks at its supervisor. -/
theorem reconcile_active (op : LoginOperationId) (alive : h.answers.crash = false) :
    Reconciles status op ⟨h, some active⟩ ↔
      ∃ event, h.answers.loginTryReceive = .ok (some event) ∧ (∀ code, event ≠ .instructions code) ∧
        Ends status op (resolveTerminalEvent active event h.advance) := by
  have shown : ∀ operation, LoginStatus.deviceLoginPending operation ≠ projectStatus status := by
    intro operation
    cases status <;> simp [projectStatus]
  have looked : LoginSupervisor.tryReceive h =
      Proc.ofExcept h.answers.loginTryReceive h.advance := by
    simp [LoginSupervisor.tryReceive, answered, bind, Proc.bind, Host.ask, alive]
  cases polled : h.answers.loginTryReceive with
  | error error =>
      have ran : (reconcile ⟨h, some active⟩).1 = .error error := by
        simp [reconcile, LoginBroker.status, bind, Proc.bind, Proc.get, onHost, Proc.on, looked, polled,
          Proc.ofExcept, Proc.fail]
      simp [Reconciles, ran]
  | ok found =>
      have ran : reconcile ⟨h, some active⟩ = statusOf active found ⟨h.advance, some active⟩ := by
        simp [reconcile, LoginBroker.status, bind, Proc.bind, Proc.get, onHost, Proc.on, looked, polled,
          Proc.ofExcept, Proc.pure]
      rw [Reconciles, ran]
      unfold statusOf
      split
      · simp [pure, Proc.pure, shown]
      · simp [pure, Proc.pure, shown]
      · rename_i event other
        have distinct : ∀ code, event ≠ .instructions code := by
          intro code same
          exact other code (by rw [same])
        simp [bind, Proc.bind, setActive, Proc.modify, onHost, Proc.on, Ends, distinct]

/-- For every uncertain record a run can leave, on a host that is ready from now on: one
reconcile call returns the status and ends the login exactly if it is reconcilable. -/
theorem uncertain_login_reconciles_iff {env : Nat → Answers} (reachable : (system env).Reachable broker)
    (file : broker.host.loginFile = some ledger) (uncertain : ledger.latest.isUncertain = true)
    (ready : ReadyFrom status broker.host) :
    Reconciles status ledger.operationId broker ↔ Reconcilable broker ledger := by
  have inv := brokerInv_reachable reachable
  obtain ⟨h, active⟩ := broker
  cases active with
  | none =>
      rw [reconcile_inactive]
      exact reconcileWithoutActive_ends_iff ready inv.filed file uncertain true
  | some active =>
      have displayed := inv.active active rfl
      cases displayed.file.symm.trans file
      rw [reconcile_active _ ready.now.alive]
      simp only [Reconcilable]
      constructor
      · rintro ⟨event, polled, -, ends⟩
        exact ⟨event, polled, (resolveTerminalEvent_ends_iff event ready.advance (displayed.time _)).mp ends⟩
      · rintro ⟨event, polled, conclusive⟩
        refine ⟨event, polled, ?_, (resolveTerminalEvent_ends_iff event ready.advance (displayed.time _)).mpr
          conclusive⟩
        rintro code rfl
        exact conclusive

/-! ## A login cut short

A start on a logged-out host whose process dies at its effect number `last`. The sixth is the
start of the supervisor, right after the intent was written; the ninth is the wait for the
instructions, after the child was recorded.
-/

def cutAt (last : Nat) (time : Nat) : Answers where
  crash := decide (time = last)
  loginStatus := .ok .loggedOut

theorem readyFrom_cutAt {last : Nat} (env : h.env = cutAt last) (beyond : last < h.tick) :
    ReadyFrom .loggedOut h := by
  intro time later
  rw [env]
  have other : time ≠ last := by omega
  exact ⟨by simp [cutAt, other], rfl, rfl, fun _ => rfl, rfl, rfl, rfl⟩

theorem recorded_child_reconciled :
    ∃ broker ledger, (system (cutAt 8)).Reachable broker ∧ broker.host.loginFile = some ledger ∧
      ledger.latest = .started ∧ Reconciles .loggedOut ledger.operationId broker := by
  have ran : (system (cutAt 8)).run ⟨Host.fresh (cutAt 8), none⟩ [.startDeviceLogin] = some ⟨_, none⟩ := rfl
  have reachable := System.Reachable.run (.initial rfl) ran
  exact ⟨_, _, reachable, rfl, by decide, (uncertain_login_reconciles_iff reachable rfl (by decide)
    (readyFrom_cutAt rfl (by decide))).mpr (show LedgerPhase.started ≠ .intent by decide)⟩

theorem intent_never_reconciled :
    ∃ broker ledger, (system (cutAt 5)).Reachable broker ∧ broker.host.loginFile = some ledger ∧
      ledger.latest = .intent ∧ ReadyFrom .loggedOut broker.host ∧
      ¬ Reconciles .loggedOut ledger.operationId broker ∧
      (reconcile broker).1 = .error .ledgerInvalid ∧ (reconcile broker).2.host.loginFile = some ledger := by
  have ran : (system (cutAt 5)).run ⟨Host.fresh (cutAt 5), none⟩ [.startDeviceLogin] = some ⟨_, none⟩ := rfl
  refine ⟨_, _, .run (.initial rfl) ran, rfl, by decide, readyFrom_cutAt rfl (by decide), ?_, by decide, rfl⟩
  rintro ⟨returned, -⟩
  exact absurd returned (by decide)

end LoginBroker

end Codebox.Login
