import Codebox.Cloud.LifecycleLedger
import Codebox.Login.Parser
import Codebox.Support.Proc

/-! # The host the processes run on

Everything outside the program: three ledger files that survive a crash, the clock of
effects, and an environment that answers each effect. An answer decides whether the
process dies before the effect, whether a lock is free, a file can be read, and how far
the replacement of a file gets before it fails; it also carries what the pinned command
line tool prints. Nothing is assumed about the answers here.
-/

namespace Codebox

open Codebox.Support Proc Codebox.Login Codebox.Cloud

/-- How replacing a file ends. The rename is the point of no return: an error before it
leaves the old content, an error of the directory sync after it leaves the new one. -/
inductive WriteOutcome where
  | stored
  | storedUnsynced
  | refused
  | rejected
  deriving Repr, DecidableEq

/-- How opening a file ends; `invalid` is a file with the wrong owner, mode or link count. -/
inductive ReadOutcome where
  | readable
  | unavailable
  | invalid
  deriving Repr, DecidableEq

/-- What the pinned status command prints. -/
inductive PinnedStatus where
  | loggedIn | loggedOut
  deriving Repr, DecidableEq

/-- Where starting a child failed. Only the last two happen after the child exists. -/
inductive SpawnFailure where
  | invocation (error : CredentialScopeError)
  | spawn (error : LoginBrokerError)
  | identity (error : LoginBrokerError)
  | pipe
  deriving Repr, DecidableEq

/-- How waiting for a child failed: polling it, or collecting its output. -/
inductive WaitFailure where
  | poll (timedOut : Bool)
  | capture (error : LoginBrokerError)
  deriving Repr, DecidableEq

/-- The answers to one effect; each effect reads the fields that concern it. The defaults
are those of a host on which everything works. -/
structure Answers where
  crash : Bool := false
  scope : Option CredentialScopeError := none
  read : ReadOutcome := .readable
  writeSubmit : CloudSubmitLedger → WriteOutcome := fun _ => .stored
  writeLifecycle : CloudLifecycleLedger → WriteOutcome := fun _ => .stored
  removeLifecycle : WriteOutcome := .stored
  writeLogin : LoginLedger → WriteOutcome := fun _ => .stored
  version : Option LoginBrokerError := none
  loginStatus : Except LoginBrokerError PinnedStatus := .ok .loggedIn
  sentinel : Bool := true
  /-- Whether a cancellation requested by now is already visible to this load. -/
  cancellationVisible : Bool := true
  spawn : Except SpawnFailure ProcessIdentity := .ok ⟨1, 1⟩
  waitFailure : Option WaitFailure := none
  timedOut : Bool := false
  execOutput : Option CloudTaskId := none
  listOutput : Option CloudTaskListPage := none
  statusOutput : Option CloudTaskStatus := none
  /-- Whether the time limit of a multi-page read has passed. -/
  deadlinePassed : Bool := false
  /-- Starting the supervisor of a device login. -/
  loginStart : Option LoginBrokerError := none
  /-- What a wait for the supervisor, a look at it and a cancellation of it return. -/
  loginReceive : Except LoginBrokerError SupervisorEvent := .ok (.started ⟨1, 1⟩)
  loginTryReceive : Except LoginBrokerError (Option SupervisorEvent) := .ok none
  loginCancel : Except LoginBrokerError SupervisorEvent := .ok (.canceled {})
  /-- Whether the recorded child of a login is still running. -/
  loginChild : Except LoginBrokerError Bool := .ok false

/-- What an outside observer of the host can record. -/
inductive HostEvent where
  | submitWritten (ledger : CloudSubmitLedger)
  | lifecycleWritten (ledger : CloudLifecycleLedger)
  | lifecycleRemoved
  | execStarted (operationId : CloudSubmitOperationId)
  deriving Repr, DecidableEq

structure Host where
  env : Nat → Answers
  tick : Nat
  /-- How many operation identifiers have been handed out; random identifiers are modelled
  as ones never handed out before. -/
  issued : Nat
  submitFile : Option CloudSubmitLedger
  lifecycleFile : Option CloudLifecycleLedger
  loginFile : Option LoginLedger
  /-- The observer's record, oldest first; no procedure reads it. -/
  trace : List HostEvent

namespace Host

/-- An empty state directory. -/
def fresh (env : Nat → Answers) : Host where
  env := env
  tick := 0
  issued := 0
  submitFile := none
  lifecycleFile := none
  loginFile := none
  trace := []

def answers (h : Host) : Answers := h.env h.tick

def advance (h : Host) : Host := { h with tick := h.tick + 1 }

def storeSubmit (ledger : CloudSubmitLedger) (h : Host) : Host :=
  { h with submitFile := some ledger, trace := h.trace ++ [.submitWritten ledger] }

def storeLifecycle (ledger : CloudLifecycleLedger) (h : Host) : Host :=
  { h with lifecycleFile := some ledger, trace := h.trace ++ [.lifecycleWritten ledger] }

def dropLifecycle (h : Host) : Host :=
  { h with lifecycleFile := none, trace := h.trace ++ [.lifecycleRemoved] }

def storeLogin (ledger : LoginLedger) (h : Host) : Host := { h with loginFile := some ledger }

def recordExec (op : CloudSubmitOperationId) (h : Host) : Host :=
  { h with trace := h.trace ++ [.execStarted op] }

variable {ε α : Type} {plain : ε → Prop} {p : Proc Host ε α} {inv : Host → Prop}

/-- One effect: the process may die before it, otherwise the environment answers. -/
def ask : Proc Host ε Answers := fun h =>
  if h.answers.crash then (.crashed, h.advance) else (.ok h.answers, h.advance)

/-- Open and read a file. -/
def readFile (content : Host → α) (invalid unavailable : ε) : Proc Host ε α := do
  let answers ← ask
  match answers.read with
  | .readable => return content (← Proc.get)
  | .unavailable => Proc.fail unavailable
  | .invalid => Proc.fail invalid

/-- Replace a file by temporary file, rename and directory sync. -/
def replaceFile (outcome : Answers → WriteOutcome) (store : Host → Host)
    (invalid unavailable : ε) : Proc Host ε Unit := do
  let answers ← ask
  match outcome answers with
  | .stored => Proc.modify store
  | .storedUnsynced => do
      Proc.modify store
      Proc.fail unavailable
  | .refused => Proc.fail unavailable
  | .rejected => Proc.fail invalid

/-- A fresh operation identifier. -/
def newOperationId : Proc Host ε CloudSubmitOperationId := fun h =>
  (.ok ⟨h.issued + 1, Nat.succ_ne_zero _⟩, { h with issued := h.issued + 1 })

/-- The host without the provider's tool: no version, no login status, and no child of it starts. -/
def toolless (h : Host) : Host :=
  { h with env := fun time => { h.env time with
      version := some .process, loginStatus := .error .process, spawn := .error (.spawn .process)
      execOutput := none, listOutput := none, statusOutput := none, loginStart := some .process } }

/-- The same host at another time. -/
def atTime (time : Nat) (h : Host) : Host := { h with tick := time }

@[simp] theorem atTime_env (time : Nat) (h : Host) : (h.atTime time).env = h.env := rfl
@[simp] theorem atTime_tick (time : Nat) (h : Host) : (h.atTime time).tick = time := rfl
@[simp] theorem atTime_issued (time : Nat) (h : Host) : (h.atTime time).issued = h.issued := rfl
@[simp] theorem atTime_submitFile (time : Nat) (h : Host) : (h.atTime time).submitFile = h.submitFile := rfl
@[simp] theorem atTime_lifecycleFile (time : Nat) (h : Host) :
    (h.atTime time).lifecycleFile = h.lifecycleFile := rfl
@[simp] theorem atTime_loginFile (time : Nat) (h : Host) : (h.atTime time).loginFile = h.loginFile := rfl
@[simp] theorem atTime_trace (time : Nat) (h : Host) : (h.atTime time).trace = h.trace := rfl
@[simp] theorem atTime_atTime (time time' : Nat) (h : Host) : (h.atTime time).atTime time' = h.atTime time' := rfl

theorem advance_eq (h : Host) : h.advance = h.atTime (h.tick + 1) := rfl

/-! ## Rules for the effects

`h.advance` differs from `h` in the clock only, so a statement about the files holds of
both. The rules quantify over the answer: a proof that needs one asks for it. -/

variable {onOk : α → Host → Prop} {onError : ε → Host → Prop} {onCrash : Host → Prop} {h : Host}
  {outcome : Answers → WriteOutcome} {store : Host → Host} {unavailable invalid : ε} {content : Host → α} {ε' : Type}

theorem wp_ask {onOk : Answers → Host → Prop} (died : onCrash h.advance)
    (answered : h.answers.crash = false → onOk h.answers h.advance) :
    Proc.wp ask onOk onError onCrash h := by
  simp only [Proc.wp, ask]
  cases dies : h.answers.crash with
  | true => exact died
  | false => exact answered dies

theorem wp_readFile (died : onCrash h.advance) (readable : onOk (content h.advance) h.advance)
    (unreadable : onError unavailable h.advance) (damaged : onError invalid h.advance) :
    Proc.wp (readFile content invalid unavailable) onOk onError onCrash h := by
  rw [readFile, wp_bind]
  refine wp_ask died fun _ => ?_
  split
  · exact readable
  · exact unreadable
  · exact damaged

theorem readFile_run (alive : h.answers.crash = false) (readable : h.answers.read = .readable) :
    readFile content invalid unavailable h = (.ok (content h.advance), h.advance) := by
  simp [readFile, Bind.bind, Proc.bind, ask, alive, readable, Proc.get, Pure.pure, Proc.pure]

theorem wp_replaceFile {onOk : Unit → Host → Prop} (died : onCrash h.advance)
    (stored : outcome h.answers = .stored → onOk () (store h.advance))
    (unsynced : outcome h.answers = .storedUnsynced → onError unavailable (store h.advance))
    (refused : outcome h.answers = .refused → onError unavailable h.advance)
    (rejected : outcome h.answers = .rejected → onError invalid h.advance) :
    Proc.wp (replaceFile outcome store invalid unavailable) onOk onError onCrash h := by
  rw [replaceFile, wp_bind]
  refine wp_ask died fun _ => ?_
  split
  · exact stored ‹_›
  · exact unsynced ‹_›
  · exact refused ‹_›
  · exact rejected ‹_›

theorem replaceFile_eq :
    replaceFile outcome store invalid unavailable h =
      if h.answers.crash then (.crashed, h.advance)
      else
        match outcome h.answers with
        | .stored => (.ok (), store h.advance)
        | .storedUnsynced => (.error unavailable, store h.advance)
        | .refused => (.error unavailable, h.advance)
        | .rejected => (.error invalid, h.advance) := by
  simp only [replaceFile, Bind.bind, Proc.bind, ask]
  cases h.answers.crash with
  | true => rfl
  | false => cases answer : outcome h.answers <;> simp [answer, Proc.bind, Proc.modify, Proc.fail]

theorem mapError_replaceFile (wrap : ε → ε') : (replaceFile outcome store invalid unavailable).mapError wrap =
      replaceFile outcome store (wrap invalid) (wrap unavailable) := by
  funext h
  rw [mapError_apply, replaceFile_eq, replaceFile_eq]
  cases h.answers.crash with
  | true => rfl
  | false => cases outcome h.answers <;> rfl

/-- A procedure that moves the clock only, whose errors satisfy `plain`. -/
def ReadOnly (plain : ε → Prop) (p : Proc Host ε α) : Prop := ∀ h : Host,
  p.wp (fun _ h' => ∃ time, h.tick ≤ time ∧ h' = h.atTime time)
    (fun error h' => plain error ∧ ∃ time, h.tick ≤ time ∧ h' = h.atTime time)
    (fun h' => ∃ time, h.tick ≤ time ∧ h' = h.atTime time) h

theorem ReadOnly.wp (quiet : ReadOnly plain p)
    (okay : ∀ value time, h.tick ≤ time → onOk value (h.atTime time))
    (failed : ∀ error time, plain error → h.tick ≤ time → onError error (h.atTime time))
    (died : ∀ time, h.tick ≤ time → onCrash (h.atTime time)) : p.wp onOk onError onCrash h := by
  refine wp_mono (quiet h) ?_ ?_ ?_
  · rintro value _ ⟨time, later, rfl⟩
    exact okay value time later
  · rintro error _ ⟨harmless, time, later, rfl⟩
    exact failed error time harmless later
  · rintro _ ⟨time, later, rfl⟩
    exact died time later

theorem readOnly_ask : ReadOnly plain (ask : Proc Host ε Answers) := fun h =>
  wp_ask ⟨_, Nat.le_succ _, advance_eq h⟩ fun _ => ⟨_, Nat.le_succ _, advance_eq h⟩

theorem readOnly_pure (value : α) : ReadOnly plain (pure value : Proc Host ε α) := fun h =>
  ⟨h.tick, Nat.le_refl _, rfl⟩

theorem readOnly_fail {error : ε} (harmless : plain error) :
    ReadOnly plain (Proc.fail error : Proc Host ε α) := fun h =>
  ⟨harmless, h.tick, Nat.le_refl _, rfl⟩

theorem readOnly_bind {β : Type} {f : α → Proc Host ε β} (first : ReadOnly plain p)
    (rest : ∀ value, ReadOnly plain (f value)) : ReadOnly plain (p >>= f) := by
  intro h
  rw [wp_bind]
  refine first.wp (fun value time later => ?_) (fun error time harmless later => ?_)
    (fun time later => ⟨time, later, rfl⟩)
  · exact (rest value).wp (fun _ time' later' => ⟨time', Nat.le_trans later later', rfl⟩)
      (fun _ time' harmless later' => ⟨harmless, time', Nat.le_trans later later', rfl⟩)
      (fun time' later' => ⟨time', Nat.le_trans later later', rfl⟩)
  · exact ⟨harmless, time, later, rfl⟩

theorem readOnly_mapError {f : ε → ε'} {plain' : ε' → Prop} (quiet : ReadOnly plain p)
    (mapped : ∀ error, plain error → plain' (f error)) : ReadOnly plain' (p.mapError f) := by
  intro h
  rw [wp_mapError]
  exact quiet.wp (fun _ time later => ⟨time, later, rfl⟩)
    (fun _ time harmless later => ⟨mapped _ harmless, time, later, rfl⟩)
    (fun time later => ⟨time, later, rfl⟩)

theorem readOnly_readFile (damaged : plain invalid) (unreadable : plain unavailable) :
    ReadOnly plain (readFile content invalid unavailable) :=
  fun h =>
    have later : ∃ time, h.tick ≤ time ∧ h.advance = h.atTime time := ⟨_, Nat.le_succ _, advance_eq h⟩
    wp_readFile later later ⟨unreadable, later⟩ ⟨damaged, later⟩

theorem ReadOnly.keeps (quiet : ReadOnly plain p) (tick : ∀ time h, inv h → inv (h.atTime time)) : Proc.Keeps inv p :=
  keeps_iff.mpr fun h kept => quiet.wp (fun _ time _ => tick time h kept)
    (fun _ time _ _ => tick time h kept) (fun time _ => tick time h kept)

theorem keeps_readFile (tick : ∀ h, inv h → inv h.advance) (content : Host → α) (invalid unavailable : ε) :
    Proc.Keeps inv (readFile content invalid unavailable) :=
  keeps_iff.mpr fun h kept => wp_readFile (tick h kept) (tick h kept) (tick h kept) (tick h kept)

theorem keeps_replaceFile (tick : ∀ h, inv h → inv h.advance) (outcome : Answers → WriteOutcome)
    (write : ∀ h, inv h → inv (store h)) (invalid unavailable : ε) :
    Proc.Keeps inv (replaceFile outcome store invalid unavailable) :=
  keeps_iff.mpr fun h kept =>
    have next := tick h kept
    wp_replaceFile next (fun _ => write _ next) (fun _ => write _ next) (fun _ => next)
      (fun _ => next)

end Host

end Codebox
