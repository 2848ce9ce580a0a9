import Mathlib.Data.List.Chain
import Codebox.Client.Controller
import Codebox.Support.Entrywise

/-! # The event log of the controller

The list of events is kept over a refresh only if the cursor that the refresh resumes from is the
number of its last event. That cursor was read from the storage before the answer came, and the
storage may hold an old one. The flag that forces a snapshot covers a cursor that could not be
written; a refresh has a generation of its own and closes the socket, so that no event comes between
its reading of the cursor and its answer.
-/

namespace Codebox.Client

open Codebox.Support

/-- The list that is shown: consecutive numbers up to the last one taken, and not too many. -/
structure ContiguousLog (s : Controller) : Prop where
  consecutive : s.events.IsChain fun event next => next.seq = event.seq + 1
  bounded : s.events.length ≤ eventLimit
  last : ∀ event, s.events.getLast? = some event → event.seq = s.lastSeq

def Call.refreshing : Call → Option Nat
  | .session myGeneration .. | .login myGeneration _ => some myGeneration
  | _ => none

def Task.call : Task → Option Call
  | .requesting _ call | .settled call _ => some call
  | _ => none

/-- A refresh of that generation is under way. -/
def Refreshes (tasks : List Task) (i myGeneration : Nat) : Prop :=
  ∃ task call, tasks[i]? = some task ∧ task.call = some call ∧ call.refreshing = some myGeneration

/-- A refresh of that generation awaits its first answer with that cursor in hand. -/
def Reads (tasks : List Task) (i myGeneration : Nat) (stored : Option Stored) : Prop :=
  ∃ task report, tasks[i]? = some task ∧ task.call = some (.session myGeneration stored report)

variable {s s' : Controller} {stored : Option Stored} {i myGeneration : Nat} {tasks : List Task} {call : Call}

theorem Reads.refreshes (reads : Reads tasks i myGeneration stored) : Refreshes tasks i myGeneration := by
  obtain ⟨task, report, here, call⟩ := reads
  exact ⟨task, _, here, call, rfl⟩

/-- The cursor that a reading of the storage can give. -/
def Storage.cursor (storage : Storage) : Option Stored := storage.content.join.bind storedOf

/-- Resuming from that cursor keeps the list and its last number together. -/
def Trusted (s : Controller) (stored : Option Stored) : Prop :=
  s.events ≠ [] → s.forceSnapshotCursor = false → ∀ cursor ∈ stored, cursor.eventSeq = s.lastSeq

structure LogInv (s : Controller) : Prop where
  log : ContiguousLog s
  stored : Trusted s s.storage.cursor
  reads : ∀ i stored, Reads s.tasks i s.generation stored → Trusted s stored
  older : ∀ i myGeneration, Refreshes s.tasks i myGeneration → myGeneration ≤ s.generation
  unique : ∀ i j myGeneration, Refreshes s.tasks i myGeneration → Refreshes s.tasks j myGeneration → i = j
  /-- There is no socket while a refresh of the current generation is under way. -/
  idle : s.socket ≠ none → ∀ i, ¬Refreshes s.tasks i s.generation

/-! ## Steps that leave the log alone -/

/-- Every request of a refresh was there before. -/
def FewerCalls (tasks tasks' : List Task) : Prop :=
  ∀ (i : Nat) (task' : Task) (call : Call), tasks'[i]? = some task' → task'.call = some call → call.refreshing ≠ none →
    ∃ task : Task, tasks[i]? = some task ∧ task.call = some call

theorem FewerCalls.refl (tasks : List Task) : FewerCalls tasks tasks := fun _ task _ here call _ => ⟨task, here, call⟩

theorem FewerCalls.trans {tasks' tasks'' : List Task} (first : FewerCalls tasks tasks')
    (second : FewerCalls tasks' tasks'') : FewerCalls tasks tasks'' := by
  intro i task'' call here calls refreshes
  obtain ⟨task', here', calls'⟩ := second i task'' call here calls refreshes
  exact first i task' call here' calls' refreshes

theorem FewerCalls.refreshes {tasks' : List Task} (fewer : FewerCalls tasks tasks')
    (refreshes : Refreshes tasks' i myGeneration) : Refreshes tasks i myGeneration := by
  obtain ⟨task', call, here, calls, own⟩ := refreshes
  obtain ⟨task, before, same⟩ := fewer i task' call here calls (by rw [own]; exact Option.some_ne_none _)
  exact ⟨task, call, before, same, own⟩

theorem FewerCalls.reads {tasks' : List Task} (fewer : FewerCalls tasks tasks')
    (reads : Reads tasks' i myGeneration stored) : Reads tasks i myGeneration stored := by
  obtain ⟨task', report, here, calls⟩ := reads
  obtain ⟨task, before, same⟩ := fewer i task' _ here calls (Option.some_ne_none _)
  exact ⟨task, report, before, same⟩

theorem fewerCalls_append (tasks : List Task) {task : Task} (other : ∀ call ∈ task.call, call.refreshing = none) :
    FewerCalls tasks (tasks ++ [task]) := by
  intro i task' call here calls refreshes
  obtain before | ⟨-, rfl⟩ := getElem?_concat_eq_some.mp here
  · exact ⟨task', before, calls⟩
  · exact absurd (other call calls) refreshes

theorem fewerCalls_set {i : Nat} {task next : Task} (here : tasks[i]? = some task)
    (kept : ∀ call ∈ next.call, call.refreshing ≠ none → task.call = some call) :
    FewerCalls tasks (tasks.set i next) := by
  intro j task' call found calls refreshes
  rw [getElem?_set_here here] at found
  split at found
  · next same =>
      cases found
      subst same
      exact ⟨task, here, kept call calls refreshes⟩
  · exact ⟨task', found, calls⟩

theorem fewerCalls_finish (tasks : List Task) (i : Nat) : FewerCalls tasks (tasks.set i .done) := by
  intro j task' call found calls refreshes
  rw [List.getElem?_set] at found
  split at found
  · split at found
    · cases found
      cases calls
    · cases found
  · exact ⟨task', found, calls⟩

theorem not_refreshes_finish : ¬Refreshes (tasks.set i .done) i myGeneration := by
  rintro ⟨task, call, here, calls, -⟩
  rw [List.getElem?_set_self'] at here
  obtain ⟨_, _, rfl⟩ := Option.map_eq_some_iff.mp here
  cases calls

/-- What a step does that does not touch the events. -/
structure Still (s s' : Controller) : Prop where
  events : s'.events = s.events
  lastSeq : s'.lastSeq = s.lastSeq
  generation : s'.generation = s.generation
  force : s'.forceSnapshotCursor = false → s.forceSnapshotCursor = false
  stored : ∀ cursor ∈ s'.storage.cursor, cursor ∈ s.storage.cursor
  socket : s'.socket ≠ none → s.socket ≠ none
  tasks : FewerCalls s.tasks s'.tasks

theorem Still.refl (s : Controller) : Still s s := ⟨rfl, rfl, rfl, id, fun _ mem => mem, id, FewerCalls.refl _⟩

theorem Still.trans {s s' s'' : Controller} (first : Still s s') (second : Still s' s'') : Still s s'' where
  events := second.events.trans first.events
  lastSeq := second.lastSeq.trans first.lastSeq
  generation := second.generation.trans first.generation
  force := fun off => first.force (second.force off)
  stored := fun cursor mem => first.stored cursor (second.stored cursor mem)
  socket := fun some_ => first.socket (second.socket some_)
  tasks := first.tasks.trans second.tasks

/-- What the invariant reads of a state. -/
def logPart (s : Controller) : List Event × Nat × Nat × Bool × Option (Option Value) × Option Nat × List Task :=
  (s.events, s.lastSeq, s.generation, s.forceSnapshotCursor, s.storage.content, s.socket, s.tasks)

theorem Still.of_eq (same : logPart s' = logPart s) : Still s s' := by
  simp only [logPart, Prod.mk.injEq] at same
  obtain ⟨events, lastSeq, generation, force, content, socket, tasks⟩ := same
  refine ⟨events, lastSeq, generation, fun off => force ▸ off, ?_, fun some_ => socket ▸ some_, ?_⟩
  · rw [Storage.cursor, content]
    exact fun _ mem => mem
  · rw [tasks]
    exact FewerCalls.refl _

theorem Trusted.still (trusted : Trusted s stored) (still : Still s s') : Trusted s' stored := by
  intro some_ off cursor mem
  rw [still.events] at some_
  rw [still.lastSeq]
  exact trusted some_ (still.force off) cursor mem

theorem LogInv.still (inv : LogInv s) (still : Still s s') : LogInv s' where
  log := by
    obtain ⟨consecutive, bounded, last⟩ := inv.log
    constructor
    · rw [still.events]
      exact consecutive
    · rw [still.events]
      exact bounded
    · rw [still.events, still.lastSeq]
      exact last
  stored := by
    intro some_ off cursor mem
    exact inv.stored.still still some_ off cursor (still.stored cursor mem)
  reads := by
    intro i stored reads
    rw [still.generation] at reads
    exact (inv.reads i stored (still.tasks.reads reads)).still still
  older := by
    intro i myGeneration refreshes
    rw [still.generation]
    exact inv.older i myGeneration (still.tasks.refreshes refreshes)
  unique := fun i j myGeneration first second =>
    inv.unique i j myGeneration (still.tasks.refreshes first) (still.tasks.refreshes second)
  idle := by
    intro some_ i refreshes
    rw [still.generation] at refreshes
    exact inv.idle (still.socket some_) i (still.tasks.refreshes refreshes)

/-! ## The storage -/

theorem clearStorage_cursor (storage : Storage) : ∀ cursor ∈ (clearStorage storage).cursor, cursor ∈ storage.cursor := by
  intro cursor mem
  unfold clearStorage at mem
  split at mem
  · exact mem
  · cases mem

/-- A reading gives the cursor or nothing, and writes nothing new. -/
theorem readStored_spec (storage : Storage) :
    (∀ cursor ∈ (readStored storage).1, cursor ∈ storage.cursor) ∧
      ∀ cursor ∈ (readStored storage).2.cursor, cursor ∈ storage.cursor := by
  unfold readStored
  split
  · exact ⟨nofun, clearStorage_cursor storage.called⟩
  · split
    · exact ⟨nofun, fun cursor mem => mem⟩
    · next raw content =>
        split
        · next stored found =>
            refine ⟨?_, fun cursor mem => mem⟩
            intro cursor mem
            rw [Storage.cursor, content]
            exact found.trans mem
        · exact ⟨nofun, clearStorage_cursor storage.called⟩

theorem storedOf_cursor {identity : Identity} {lastSeq : Nat} {stored : Stored}
    (read : storedOf (cursor identity lastSeq) = some stored) : stored.eventSeq = lastSeq := by
  unfold storedOf at read
  split at read
  · cases read
    rfl
  · cases read

namespace Controller

theorem still_forget (s : Controller) : Still s s.forget :=
  ⟨rfl, rfl, rfl, id, clearStorage_cursor s.storage, id, FewerCalls.refl _⟩

theorem still_force (s : Controller) : Still s { s with forceSnapshotCursor := true } :=
  ⟨rfl, rfl, rfl, nofun, fun _ mem => mem, id, FewerCalls.refl _⟩

/-- Whether the cursor is written or not, it can be trusted from then on. -/
theorem persistCursor_trusted (known : s.identity ≠ none) :
    Trusted s.persistCursor s.persistCursor.storage.cursor := by
  obtain ⟨identity, here⟩ := Option.ne_none_iff_exists'.mp known
  intro some_ off cursor mem
  unfold persistCursor at off mem ⊢
  simp only [here] at off mem ⊢
  split at off
  · cases off
  · next writes =>
      rw [if_neg writes] at mem ⊢
      exact storedOf_cursor mem

theorem persistCursor_eq (s : Controller) : s.persistCursor.events = s.events ∧ s.persistCursor.lastSeq = s.lastSeq ∧
    s.persistCursor.generation = s.generation ∧ s.persistCursor.socket = s.socket ∧ s.persistCursor.tasks = s.tasks := by
  unfold persistCursor
  split
  · exact ⟨rfl, rfl, rfl, rfl, rfl⟩
  · split <;> exact ⟨rfl, rfl, rfl, rfl, rfl⟩

/-! ## Closing and starting over -/

theorem still_close (k code : Nat) (s : Controller) : Still s (s.close k code) := by
  unfold close
  split <;> exact .of_eq rfl

theorem still_closeSocket (policy : Policy) (s : Controller) : Still s (s.closeSocket policy) := by
  have released : Still s { s with socketPolicy := policy, socket := none } :=
    ⟨rfl, rfl, rfl, id, fun _ mem => mem, nofun, FewerCalls.refl _⟩
  unfold closeSocket
  split
  · exact released.trans (.of_eq rfl)
  · exact (released.trans (still_close _ _ _)).trans (.of_eq rfl)

theorem closeSocket_socket (policy : Policy) (s : Controller) : (s.closeSocket policy).socket = none := by
  unfold closeSocket
  split
  · rfl
  · unfold close
    split <;> rfl

end Controller

/-- What a step does that ends the generation. -/
structure Ends (s s' : Controller) : Prop where
  generation : s'.generation = s.generation + 1
  socket : s'.socket = none
  tasks : FewerCalls s.tasks s'.tasks

theorem Ends.none_refreshes (ends : Ends s s') (inv : LogInv s) (i : Nat) : ¬Refreshes s'.tasks i s'.generation := by
  intro refreshes
  have older := inv.older i _ (ends.tasks.refreshes refreshes)
  have next := ends.generation
  omega

/-- An empty list and a new generation are a fresh start. -/
theorem LogInv.ends (inv : LogInv s) (ends : Ends s s') (log : ContiguousLog s')
    (stored : Trusted s' s'.storage.cursor) : LogInv s' where
  log := log
  stored := stored
  reads := fun i _ reads => absurd reads.refreshes (ends.none_refreshes inv i)
  older := by
    intro i myGeneration refreshes
    have older := inv.older i myGeneration (ends.tasks.refreshes refreshes)
    have next := ends.generation
    omega
  unique := fun i j myGeneration first second =>
    inv.unique i j myGeneration (ends.tasks.refreshes first) (ends.tasks.refreshes second)
  idle := fun some_ => absurd ends.socket some_

theorem contiguousLog_nil (empty : s.events = []) : ContiguousLog s := by
  constructor
  · rw [empty]
    exact .nil
  · rw [empty]
    exact Nat.zero_le _
  · intro event last
    rw [empty] at last
    cases last

theorem trusted_nil (empty : s.events = []) (stored : Option Stored) : Trusted s stored :=
  fun some_ => absurd empty some_

namespace Controller

theorem ends_closeSocket (next : s'.generation = s.generation + 1) (same : s'.tasks = s.tasks)
    (policy : Policy) : Ends s (s'.closeSocket policy) where
  generation := (still_closeSocket policy s').generation.trans next
  socket := closeSocket_socket policy s'
  tasks := same ▸ (still_closeSocket policy s').tasks

theorem logInv_enterBootstrap (inv : LogInv s) (message : Message) : LogInv (s.enterBootstrap message) :=
  have ends : Ends s ({ s with generation := s.generation + 1 }.cancelReconnect.abortCurrent.closeSocket .none) :=
    ends_closeSocket (by rfl) (by rfl) _
  inv.ends ⟨ends.generation, ends.socket, ends.tasks⟩ (contiguousLog_nil rfl) (trusted_nil rfl _)

theorem logInv_dispose (inv : LogInv s) : LogInv s.dispose := by
  unfold dispose
  split
  · exact inv
  · have ends : Ends s (closeSocket .none
        { s with disposed := true, generation := s.generation + 1 }.cancelReconnect.abortCurrent) :=
      ends_closeSocket (by rfl) (by rfl) _
    exact inv.ends ⟨ends.generation, ends.socket, ends.tasks⟩ (contiguousLog_nil rfl) (trusted_nil rfl _)

end Controller

/-! ## Refreshing -/

/-- A call of the current generation takes its place when there is no other. -/
theorem LogInv.placed {i : Nat} (inv : LogInv s) (free : ∀ j, ¬Refreshes s.tasks j s.generation)
    (closed : s.socket = none) (same : logPart { s' with tasks := s.tasks } = logPart s)
    (own : call.refreshing = some s.generation)
    (placed : ∀ j task, s'.tasks[j]? = some task → s.tasks[j]? = some task ∨ j = i ∧ task.call = some call)
    (trusted : ∀ stored report, call = .session s.generation stored report → Trusted s stored) : LogInv s' := by
  have still : Still s { s' with tasks := s.tasks } := .of_eq same
  have generation : s'.generation = s.generation := still.generation
  have split : ∀ j myGeneration, Refreshes s'.tasks j myGeneration →
      Refreshes s.tasks j myGeneration ∨ j = i ∧ myGeneration = s.generation := by
    rintro j myGeneration ⟨task, found, here, calls, refreshing⟩
    obtain before | ⟨at_, new⟩ := placed j task here
    · exact .inl ⟨task, found, before, calls, refreshing⟩
    · rw [new] at calls
      cases calls
      rw [own] at refreshing
      exact .inr ⟨at_, (Option.some.inj refreshing).symm⟩
  obtain ⟨log, stored, reads, older, unique, idle⟩ := inv.still still
  refine ⟨⟨log.consecutive, log.bounded, log.last⟩, stored, ?_, ?_, ?_, ?_⟩
  · rintro j stored ⟨task, report, here, calls⟩
    obtain before | ⟨-, new⟩ := placed j task here
    · exact absurd ⟨task, _, before, calls, by rw [generation]; rfl⟩ (free j)
    · rw [new] at calls
      cases calls
      rw [generation] at trusted
      have kept : Trusted { s' with tasks := s.tasks } stored := (trusted stored report rfl).still still
      exact kept
  · intro j myGeneration refreshes
    obtain before | ⟨-, rfl⟩ := split j myGeneration refreshes
    · exact older j myGeneration before
    · exact Nat.le_of_eq generation.symm
  · intro j j' myGeneration first second
    obtain before | ⟨at_, current⟩ := split j myGeneration first
    · obtain before' | ⟨-, rfl⟩ := split j' myGeneration second
      · exact unique j j' myGeneration before before'
      · exact absurd before (free j)
    · obtain before' | ⟨at', -⟩ := split j' myGeneration second
      · rw [current] at before'
        exact absurd before' (free j')
      · exact at_.trans at'.symm
  · intro some_
    exact absurd (still.socket some_) (fun open_ => open_ closed)

namespace Controller

theorem still_beginHttp (begun : s.beginHttp = some s') : Still s s' := by
  unfold beginHttp at begun
  split at begun
  · cases begun
  · cases begun
    exact .of_eq rfl

/-- A refresh begins in a new generation, without a socket and with a cursor that the storage had. -/
theorem logInv_refresh (inv : LogInv s) (report : Option Message) : LogInv (s.refresh report) := by
  unfold refresh
  split
  · exact inv
  · next begun_ begun =>
      have base := inv.still (still_beginHttp begun)
      have still := still_closeSocket .none { begun_ with generation := begun_.generation + 1 }.cancelReconnect
      have ends : Ends begun_ (closeSocket .none { begun_ with generation := begun_.generation + 1 }.cancelReconnect) :=
        ends_closeSocket (by rfl) (by rfl) _
      revert still ends
      generalize closeSocket .none { begun_ with generation := begun_.generation + 1 }.cancelReconnect = closed
      intro still ends
      have trusted : Trusted closed closed.storage.cursor := by
        intro some_ off cursor mem
        rw [still.events] at some_
        rw [still.lastSeq]
        exact base.stored some_ (still.force off) cursor (still.stored cursor mem)
      obtain ⟨readSound, restSound⟩ := readStored_spec closed.storage
      have log : ContiguousLog closed := by
        obtain ⟨consecutive, bounded, last⟩ := base.log
        exact ⟨still.events ▸ consecutive, still.events ▸ bounded, by rw [still.events, still.lastSeq]; exact last⟩
      have free := ends.none_refreshes base
      have read : LogInv { closed with storage := (readStored closed.storage).2 } := by
        apply (base.ends ends log trusted).still
        exact ⟨rfl, rfl, rfl, id, restSound, id, FewerCalls.refl _⟩
      have own : (Call.session closed.generation (readStored closed.storage).1 report).refreshing =
          some closed.generation := rfl
      apply read.placed free ends.socket rfl own
      · intro j task here
        obtain before | ⟨at_, rfl⟩ := getElem?_concat_eq_some.mp here
        · exact .inl before
        · exact .inr ⟨at_, rfl⟩
      · rintro stored report ⟨⟩
        intro some_ off cursor mem
        exact trusted some_ off cursor (readSound cursor mem)

theorem logInv_handleFailure (inv : LogInv s) (failure : Failure) : LogInv (s.handleFailure failure) := by
  unfold handleFailure
  split
  · exact logInv_enterBootstrap inv _
  · split
    · exact logInv_refresh (inv.still ((still_force s).trans (still_forget _))) _
    · exact inv.still (.of_eq rfl)

theorem still_scheduleReconnect (myGeneration : Nat) (s : Controller) : Still s (s.scheduleReconnect myGeneration) := by
  unfold scheduleReconnect
  split
  · exact .refl s
  · exact .of_eq rfl

theorem logInv_reconnect (inv : LogInv s) (timer : Timer) : LogInv (s.reconnect timer) := by
  have fired : LogInv { s with reconnectTimer := none } := inv.still (.of_eq rfl)
  unfold reconnect
  dsimp only
  split
  · exact fired
  · split
    · exact fired.still (still_scheduleReconnect _ _)
    · exact logInv_refresh fired none

theorem still_discardFinishedHttp (s : Controller) : Still s s.discardFinishedHttp := by
  unfold discardFinishedHttp
  split
  · exact .of_eq rfl
  · exact .refl s

theorem still_finish (i : Nat) (s : Controller) : Still s (s.finish i) :=
  ⟨rfl, rfl, rfl, id, fun _ mem => mem, id, fewerCalls_finish s.tasks i⟩

end Controller

/-- A refresh of the current generation that ends was the only one, and there is no socket yet. -/
theorem LogInv.taken (inv : LogInv s) {i : Nat} (refreshes : Refreshes s.tasks i s.generation) :
    s.socket = none ∧ ∀ j, ¬Refreshes (s.finish i).tasks j s.generation := by
  constructor
  · by_contra some_
    exact inv.idle some_ i refreshes
  · intro j later
    have same := inv.unique i j s.generation refreshes ((Controller.still_finish i s).tasks.refreshes later)
    subst same
    exact not_refreshes_finish later

namespace Controller

theorem sameStoredIdentity_eq_some {snapshot : Value} {cursor : Stored}
    (same : s.sameStoredIdentity stored snapshot = some cursor) : cursor ∈ stored ∧ s.forceSnapshotCursor = false := by
  obtain ⟨mem, fits⟩ := Option.filter_eq_some_iff.mp same
  simp only [Bool.and_eq_true, Bool.not_eq_true'] at fits
  exact ⟨mem, fits.2⟩

theorem contiguousLog_adopt (log : ContiguousLog s) (trusted : Trusted s stored)
    (snapshot : Value) : ContiguousLog (s.adopt stored snapshot) := by
  cases same : s.sameStoredIdentity stored snapshot with
  | none =>
      apply contiguousLog_nil
      simp [adopt, same]
  | some cursor =>
      have events : (s.adopt stored snapshot).events = s.events := by simp [adopt, same, applySnapshot]
      have lastSeq : (s.adopt stored snapshot).lastSeq = cursor.eventSeq := by simp [adopt, same, applySnapshot]
      obtain ⟨mem, off⟩ := sameStoredIdentity_eq_some same
      obtain ⟨consecutive, bounded, last⟩ := log
      refine ⟨events ▸ consecutive, events ▸ bounded, ?_⟩
      intro event found
      rw [events] at found
      have some_ : s.events ≠ [] := by
        rintro empty
        rw [empty] at found
        cases found
      rw [lastSeq, trusted some_ off cursor mem]
      exact last event found

/-- A cursor that has just been written or given up is trusted, whatever it was before. -/
theorem logInv_persist (log : ContiguousLog s) (known : s.identity ≠ none)
    (free : ∀ j, ¬Refreshes s.tasks j s.generation)
    (older : ∀ i myGeneration, Refreshes s.tasks i myGeneration → myGeneration ≤ s.generation)
    (unique : ∀ i j myGeneration, Refreshes s.tasks i myGeneration → Refreshes s.tasks j myGeneration → i = j) :
    LogInv s.persistCursor := by
  obtain ⟨events, lastSeq, generation, socket, tasks⟩ := persistCursor_eq s
  rw [← tasks, ← generation] at free older
  rw [← tasks] at unique
  refine ⟨?_, persistCursor_trusted known, ?_, older, unique, fun _ => free⟩
  · obtain ⟨consecutive, bounded, last⟩ := log
    exact ⟨events ▸ consecutive, events ▸ bounded, by rw [events, lastSeq]; exact last⟩
  · exact fun j stored reads => absurd reads.refreshes (free j)

theorem logInv_resend (inv : LogInv s) (closed : s.socket = none)
    (free : ∀ j, ¬Refreshes s.tasks j s.generation) (i : Nat) (report : Option Message) :
    LogInv (s.resend i (.login s.generation report)) := by
  have own : (Call.login s.generation report).refreshing = some s.generation := rfl
  refine LogInv.placed (i := i) inv free closed rfl own ?_ nofun
  intro j task here
  rw [show (s.resend i _).tasks = s.tasks.set i (.requesting s.aborts _) from rfl, List.getElem?_set] at here
  split at here
  · next at_ =>
      split at here
      · cases here
        exact .inr ⟨at_.symm, rfl⟩
      · cases here
  · exact .inl here

theorem stale_eq_false {myGeneration : Nat} (fresh : ¬s.stale myGeneration = true) :
    s.disposed = false ∧ s.generation = myGeneration := by
  simpa [stale] using fresh

/-- The first answer of a refresh. -/
theorem logInv_sessionArrived (inv : LogInv s)
    (reads : Reads s.tasks i myGeneration stored) (report : Option Message) (result : Result) :
    LogInv ((s.finish i).sessionArrived i myGeneration stored report result) := by
  have finished := inv.still (still_finish i s)
  unfold sessionArrived
  split
  · exact finished.still (still_discardFinishedHttp _)
  · next fresh =>
      obtain ⟨-, current⟩ := stale_eq_false fresh
      have current : s.generation = myGeneration := current
      subst current
      obtain ⟨closed, free⟩ := inv.taken reads.refreshes
      split
      · next failure =>
          have ended : LogInv (s.finish i).endHttp := finished.still (.of_eq rfl)
          split
          · exact logInv_enterBootstrap ended _
          · exact ended.still (.of_eq rfl)
      · next snapshot =>
          have trusted := (inv.reads i stored reads).still (still_finish i s)
          have log := contiguousLog_adopt finished.log trusted snapshot
          have kept := logInv_persist log (Option.some_ne_none _) free finished.older finished.unique
          obtain ⟨-, -, generation, socket, tasks⟩ := persistCursor_eq ((s.finish i).adopt stored snapshot)
          rw [show s.generation = ((s.finish i).adopt stored snapshot).generation from rfl, ← generation]
          apply logInv_resend kept (socket.trans closed)
          rw [tasks, generation]
          exact free

/-- A socket is made when no refresh is under way. -/
theorem logInv_connect (inv : LogInv s) (free : ∀ j, ¬Refreshes s.tasks j s.generation)
    (myGeneration : Nat) (created : Bool) : LogInv (s.connect myGeneration created) := by
  unfold connect
  split
  · exact inv
  · dsimp only
    split
    · obtain ⟨⟨consecutive, bounded, last⟩, stored, reads, older, unique, -⟩ := inv
      exact ⟨⟨consecutive, bounded, last⟩, stored, reads, older, unique, fun _ => free⟩
    · have connecting : LogInv { s with socketPolicy := .reconnect, connection := .connecting } := inv.still (.of_eq rfl)
      exact connecting.still (still_scheduleReconnect _ _)

theorem logInv_finishRefresh (inv : LogInv s) (free : ∀ j, ¬Refreshes s.tasks j s.generation)
    (myGeneration : Nat) (report : Option Message) (created : Bool) :
    LogInv (s.finishRefresh myGeneration report created) := by
  have connected := logInv_connect inv free myGeneration created
  unfold finishRefresh
  dsimp only
  split
  · exact connected
  · apply connected.still
    exact ⟨rfl, rfl, rfl, id, fun _ mem => mem, id, fewerCalls_append _ nofun⟩

/-- The second answer of a refresh. -/
theorem logInv_loginArrived (inv : LogInv s)
    (refreshes : Refreshes s.tasks i myGeneration) (report : Option Message) (result : Result) (created : Bool) :
    LogInv ((s.finish i).loginArrived myGeneration report result created) := by
  have finished := inv.still (still_finish i s)
  unfold loginArrived
  split
  · exact finished.still (still_discardFinishedHttp _)
  · next fresh =>
      obtain ⟨-, current⟩ := stale_eq_false fresh
      have current : s.generation = myGeneration := current
      subst current
      obtain ⟨-, free⟩ := inv.taken refreshes
      split
      · next failure =>
          split
          · apply logInv_enterBootstrap
            exact finished.still (.of_eq rfl)
          · apply logInv_finishRefresh
            · exact finished.still (.of_eq rfl)
            · exact free
      · apply logInv_finishRefresh
        · exact finished.still (.of_eq rfl)
        · exact free

/-! ## The other requests -/

theorem still_send (other : call.refreshing = none) (s : Controller) : Still s (s.send call) := by
  refine ⟨rfl, rfl, rfl, id, fun _ mem => mem, id, fewerCalls_append _ ?_⟩
  rintro own ⟨⟩
  exact other

theorem still_authenticate (token : List UInt16) (s : Controller) : Still s (s.authenticate token) := by
  unfold authenticate
  split
  · exact .refl s
  · next begun =>
      have begins := still_beginHttp begun
      split
      · exact begins.trans (.of_eq rfl)
      · apply begins.trans
        apply Still.trans _ (still_send rfl _)
        exact .of_eq rfl

theorem still_sendKeyed {call : Nat → Nat → Call} (other : ∀ g r, (call g r).refreshing = none) (key : Bool)
    (s : Controller) : Still s (s.sendKeyed call key) := by
  unfold sendKeyed
  split
  · exact .refl s
  · split
    · exact .refl s
    · next begun =>
        apply (still_beginHttp begun).trans
        dsimp only
        split
        · apply Still.trans _ (still_send (other _ _) _)
          exact .of_eq rfl
        · exact .of_eq rfl

theorem still_submitPrompt (prompt : List UInt16) (key : Bool) (s : Controller) : Still s (s.submitPrompt prompt key) := by
  unfold submitPrompt
  split
  · exact .of_eq rfl
  · exact still_sendKeyed (fun _ _ => rfl) key s

theorem still_showDiff (s : Controller) : Still s s.showDiff := by
  unfold showDiff
  split
  · exact .refl s
  · split
    · exact .refl s
    · next begun =>
        apply (still_beginHttp begun).trans
        apply Still.trans _ (still_send rfl _)
        exact .of_eq rfl

theorem logInv_bootstrapped (inv : LogInv s) (myGeneration : Nat) (result : Result) :
    LogInv (s.bootstrapped myGeneration result) := by
  unfold bootstrapped
  split
  · exact inv.still (still_discardFinishedHttp s)
  · split
    · apply logInv_handleFailure
      exact inv.still (.of_eq rfl)
    · apply logInv_refresh
      apply LogInv.still _ (still_forget _)
      exact inv.still (.of_eq rfl)

theorem logInv_apply (inv : LogInv s) (kind : Mutation) (value : Value) : LogInv (s.apply kind value) := by
  cases kind with
  | startDeviceLogin => exact inv.still (.of_eq rfl)
  | cancelDeviceLogin => exact inv.still (.of_eq rfl)
  | submitPrompt => exact inv
  | cancelTurn =>
      unfold apply
      dsimp only
      split
      · exact inv.still (.of_eq rfl)
      · exact logInv_refresh (inv.still ((still_force s).trans (still_forget _))) _

theorem logInv_answered (inv : LogInv s) (myGeneration requestIdentity : Nat) (result : Result)
    {accepted : Value → Controller → Controller} (keep : ∀ value s, LogInv s → LogInv (accepted value s)) :
    LogInv (s.answered myGeneration requestIdentity result accepted) := by
  unfold answered
  split
  · exact inv.still (still_discardFinishedHttp s)
  · have ended : LogInv s.endHttp := inv.still (.of_eq rfl)
    cases result with
    | failed failure => exact logInv_handleFailure ended failure
    | ok value => exact keep value _ ended

/-! ## The stream -/

theorem still_streamFailure (policy : Policy) (message : Message) (k : Nat) (s : Controller) :
    Still s (s.streamFailure policy message k) := by
  unfold streamFailure
  dsimp only
  split
  · exact .of_eq rfl
  · apply Still.trans _ (still_close _ _ _)
    exact .of_eq rfl

theorem still_resyncFailure (k : Nat) (s : Controller) : Still s (s.resyncFailure k) :=
  ((still_force s).trans (still_forget _)).trans (still_streamFailure _ _ _ _)

theorem logInv_handleWsError (inv : LogInv s) (frame : Value) (k : Nat) : LogInv (s.handleWsError frame k) := by
  have failed : LogInv (s.setStream k fun socket => { socket with phase := .failed }) := inv.still (.of_eq rfl)
  unfold handleWsError
  dsimp only
  split
  · exact inv.still (still_streamFailure _ _ _ _)
  · split
    · exact inv.still (still_streamFailure _ _ _ _)
    · split
      · exact logInv_enterBootstrap failed _
      · split
        · exact failed.still (still_resyncFailure _ _)
        · split <;> exact failed.still (still_streamFailure _ _ _ _)

theorem persistCursor_events (s : Controller) (events : List Event) :
    { s.persistCursor with events := events } = { s with events := events }.persistCursor := by
  simp only [persistCursor]
  split
  · rfl
  · split <;> rfl

theorem advance_eq (event : Event) (s : Controller) :
    s.advance event = { s with
      lastSeq := event.seq
      events := (s.events ++ [event]).drop ((s.events ++ [event]).length - eventLimit) }.persistCursor := by
  unfold advance
  dsimp only
  rw [persistCursor_events, (persistCursor_eq { s with lastSeq := event.seq }).1]

/-- The next event goes to the end of the list, which then holds no more than its limit. -/
theorem contiguousLog_advance (log : ContiguousLog s) {event : Event} (next : event.seq = s.lastSeq + 1) :
    ContiguousLog { s with
      lastSeq := event.seq
      events := (s.events ++ [event]).drop ((s.events ++ [event]).length - eventLimit) } := by
  obtain ⟨consecutive, bounded, last⟩ := log
  constructor
  · apply List.IsChain.drop
    rw [List.isChain_append]
    refine ⟨consecutive, List.isChain_singleton _, ?_⟩
    rintro before found _ ⟨⟩
    rw [next, last before found]
  · rw [List.length_drop]
    omega
  · intro found last_
    have some_ : ¬(s.events ++ [event]).length ≤ (s.events ++ [event]).length - eventLimit := by
      have some_ : 0 < (s.events ++ [event]).length := by simp
      have positive : 0 < eventLimit := by decide
      omega
    dsimp only at last_
    rw [List.getLast?_drop, if_neg some_, List.getLast?_concat] at last_
    cases last_
    rfl

theorem logInv_handleEvent (inv : LogInv s) (free : ∀ j, ¬Refreshes s.tasks j s.generation)
    (frame : Value) (k : Nat) (stream : Socket) : LogInv (s.handleEvent frame k stream) := by
  unfold handleEvent
  dsimp only
  split
  · exact inv.still (still_streamFailure _ _ _ _)
  · split
    · exact inv
    · next identity known =>
        split
        · exact inv.still (still_streamFailure _ _ _ _)
        · split
          · exact inv.still (still_streamFailure _ _ _ _)
          · split
            · exact inv.still (still_streamFailure _ _ _ _)
            · split
              · exact inv
              · split
                · exact inv.still (still_resyncFailure _ _)
                · next follows =>
                    have next : ((frame.get "envelope").get "seq").seq = s.lastSeq + 1 := by simpa using follows
                    rw [advance_eq]
                    apply logInv_persist (contiguousLog_advance inv.log next) _ free inv.older inv.unique
                    exact known ▸ Option.some_ne_none identity

theorem still_handleReplayBegin (frame : Value) (k : Nat) (stream : Socket) (s : Controller) :
    Still s (s.handleReplayBegin frame k stream) := by
  unfold handleReplayBegin
  dsimp only
  split
  · exact still_streamFailure _ _ _ _
  · split
    · exact .refl s
    · split
      · exact still_streamFailure _ _ _ _
      · exact .of_eq rfl

theorem still_handleSnapshot (frame : Value) (k : Nat) (stream : Socket) (s : Controller) :
    Still s (s.handleSnapshot frame k stream) := by
  unfold handleSnapshot
  dsimp only
  split
  · exact still_streamFailure _ _ _ _
  · split
    · exact .refl s
    · split
      · exact still_streamFailure _ _ _ _
      · exact .of_eq rfl

theorem still_handleReplayEnd (frame : Value) (k : Nat) (stream : Socket) (s : Controller) :
    Still s (s.handleReplayEnd frame k stream) := by
  unfold handleReplayEnd
  split
  · exact still_streamFailure _ _ _ _
  · split
    · exact .refl s
    · split
      · exact still_streamFailure _ _ _ _
      · exact .of_eq rfl

theorem logInv_handleFrame (inv : LogInv s) (free : ∀ j, ¬Refreshes s.tasks j s.generation)
    (data : Data) (k : Nat) (stream : Socket) : LogInv (s.handleFrame data k stream) := by
  have failed : LogInv (s.protocolFailure k) := inv.still (still_streamFailure _ _ _ _)
  unfold handleFrame
  split
  · exact inv
  · cases data with
    | binary => exact failed
    | text bytes parsed =>
        dsimp only
        split
        · exact failed
        · cases parsed with
          | none => exact failed
          | some frame =>
              dsimp only
              split_ifs
              · exact failed
              · exact logInv_handleWsError inv frame k
              · exact inv.still (still_handleReplayBegin _ _ _ _)
              · exact logInv_handleEvent inv free frame k stream
              · exact inv.still (still_handleSnapshot _ _ _ _)
              · exact inv.still (still_handleReplayEnd _ _ _ _)
              · exact failed

variable {k : Nat}

theorem hears_iff {stream : Socket} : s.hears k stream = true ↔
    s.disposed = false ∧ stream.myGeneration = s.generation ∧ s.socket = some k ∧ stream.phase ≠ .failed := by
  simp [hears, and_assoc]

theorem logInv_onmessage (inv : LogInv s) (k : Nat) (stream : Socket) (data : Data) :
    LogInv (s.onmessage k stream data) := by
  unfold onmessage
  split
  · next heard =>
      obtain ⟨-, -, current, -⟩ := hears_iff.mp heard
      exact logInv_handleFrame inv (inv.idle (current ▸ Option.some_ne_none k)) data k stream
  · exact inv

theorem still_onopen (k : Nat) (stream : Socket) (sendThrows : Bool) (s : Controller) :
    Still s (s.onopen k stream sendThrows) := by
  unfold onopen
  split
  · exact still_streamFailure _ _ _ _
  · exact .refl s

theorem still_onerror (k : Nat) (stream : Socket) (s : Controller) : Still s (s.onerror k stream) := by
  unfold onerror
  split
  · exact .of_eq rfl
  · exact .refl s

theorem still_onclose (k : Nat) (stream : Socket) (code : Nat) (s : Controller) : Still s (s.onclose k stream code) := by
  have released : Still s (if s.socket = some k then { s with socket := none } else s) := by
    split
    · exact ⟨rfl, rfl, rfl, id, fun _ mem => mem, nofun, FewerCalls.refl _⟩
    · exact .refl s
  unfold onclose
  dsimp only
  revert released
  generalize (if s.socket = some k then { s with socket := none } else s) = released_
  intro released
  have down : Still s { released_ with connection := .disconnected } := released.trans (.of_eq rfl)
  split
  · exact released
  · split
    · exact down
    · split
      · exact down.trans (still_scheduleReconnect _ _)
      · exact down

/-! ## Runs -/

theorem logInv_onSocket (inv : LogInv s) {before : Ready → Bool} {after : Ready → Ready}
    {handler : Socket → Controller → Controller} (stepped : s.onSocket k before after handler = some s')
    (keep : ∀ stream s, LogInv s → LogInv (handler stream s)) : LogInv s' := by
  unfold onSocket at stepped
  split at stepped
  · cases stepped
  · split at stepped
    · cases stepped
      apply keep
      exact inv.still (.of_eq rfl)
    · cases stepped

theorem still_reply {i : Nat} {answer : Reply} (stepped : s.reply i answer = some s') : Still s s' := by
  unfold reply at stepped
  split at stepped
  · next abort call here =>
      cases stepped
      refine ⟨rfl, rfl, rfl, id, fun _ mem => mem, id, fewerCalls_set here ?_⟩
      rintro own ⟨⟩ -
      rfl
  · cases stepped

theorem logInv_resumeTask (inv : LogInv s) {i : Nat} {created : Bool}
    (stepped : s.resumeTask i created = some s') : LogInv s' := by
  unfold resumeTask at stepped
  split at stepped
  · next call result here =>
      cases stepped
      have finished := inv.still (still_finish i s)
      cases call with
      | session myGeneration stored report =>
          exact logInv_sessionArrived inv ⟨_, report, here, rfl⟩ report result
      | login myGeneration report => exact logInv_loginArrived inv ⟨_, _, here, rfl, rfl⟩ report result created
      | authenticate myGeneration => exact logInv_bootstrapped finished myGeneration result
      | mutation kind myGeneration requestIdentity =>
          exact logInv_answered finished _ _ result fun value s kept => logInv_apply kept kind value
      | diff myGeneration requestIdentity =>
          unfold resume diffArrived
          apply logInv_answered finished
          intro value s kept
          exact kept.still (.of_eq rfl)
      | logout myGeneration requestIdentity =>
          exact logInv_answered finished _ _ result fun value s kept => logInv_enterBootstrap kept _
  · next refreshGeneration message here =>
      cases stepped
      have finished := inv.still (still_finish i s)
      unfold reported
      split
      · exact finished.still (.of_eq rfl)
      · exact finished
  · cases stepped

theorem logInv_act (inv : LogInv s) {act : Act} (stepped : s.act act = some s') : LogInv s' := by
  cases act with
  | refresh =>
      cases stepped
      exact logInv_refresh inv none
  | authenticate token =>
      cases stepped
      exact inv.still (still_authenticate token s)
  | startDeviceLogin key | cancelDeviceLogin key | cancelTurn key | logout key =>
      cases stepped
      exact inv.still (still_sendKeyed (fun _ _ => rfl) key s)
  | submitPrompt prompt key =>
      cases stepped
      exact inv.still (still_submitPrompt prompt key s)
  | showDiff =>
      cases stepped
      exact inv.still (still_showDiff s)
  | dispose =>
      cases stepped
      exact logInv_dispose inv
  | reply i answer => exact inv.still (still_reply stepped)
  | resume i created => exact logInv_resumeTask inv stepped
  | timer =>
      obtain ⟨timer, -, rfl⟩ := Option.map_eq_some_iff.mp stepped
      exact logInv_reconnect inv timer
  | opened k sendThrows =>
      unfold Controller.act at stepped
      exact logInv_onSocket inv stepped fun stream s kept => kept.still (still_onopen k stream sendThrows s)
  | message k data =>
      unfold Controller.act at stepped
      exact logInv_onSocket inv stepped fun stream s kept => logInv_onmessage kept k stream data
  | errored k =>
      unfold Controller.act at stepped
      exact logInv_onSocket inv stepped fun stream s kept => kept.still (still_onerror k stream s)
  | closed k code =>
      unfold Controller.act at stepped
      exact logInv_onSocket inv stepped fun stream s kept => kept.still (still_onclose k stream code s)

end Controller

theorem logInv_initial (content : Option (Option Value)) : LogInv { storage := ⟨content, []⟩ } where
  log := contiguousLog_nil rfl
  stored := trusted_nil rfl _
  reads := fun _ _ _ => trusted_nil rfl _
  older := by
    rintro i myGeneration ⟨task, call, here, -⟩
    cases here
  unique := by
    rintro i j myGeneration ⟨task, call, here, -⟩
    cases here
  idle := fun some_ => absurd rfl some_

theorem logInv_reachable (reach : system.Reachable s) : LogInv s := by
  apply reach.invariant
  · rintro s ⟨content, rfl⟩
    exact logInv_initial content
  · intro s label s' _ inv _ stepped
    have kept : LogInv { s with storage := { s.storage with faults := label.faults } } := inv.still (.of_eq rfl)
    exact Controller.logInv_act kept stepped

/-- In every run of the controller its event log is contiguous and ends with the last number it has taken. -/
theorem contiguousLog_reachable {s : Controller} (reach : system.Reachable s) : ContiguousLog s :=
  (logInv_reachable reach).log

/-! A page that is loaded, connects, takes two events and is refreshed. -/

def sampleId : String := "01234567-89ab-cdef-0123-456789abcdef"

def sampleSnapshot (high : Nat) : Value :=
  .object [(some "identity", .object [(some "session_id", .string sampleId), (some "instance_id", .string sampleId)]),
    (some "state", .string "ready"), (some "current_turn", .null), (some "high_water_seq", .integer high)]

def sampleLogin : Value := .object [(some "state", .string "logged_in")]

def sampleBegin : Value :=
  .object [(some "type", .string "replay_begin"), (some "session_id", .string sampleId), (some "after_seq", .integer 0),
    (some "high_water_seq", .integer 2)]

def sampleEvent (seq : Nat) (kind : String) : Value :=
  .object [(some "type", .string "event"), (some "envelope", .object [(some "schema_version", .integer 1),
    (some "session_id", .string sampleId), (some "seq", .integer seq), (some "turn_id", .null),
    (some "payload", .object [(some "type", .string kind)])])]

/-- The page is refreshed, as task `i`, up to where its socket `k` is open. -/
def connecting (i k high : Nat) : List Label :=
  [⟨.refresh, []⟩, ⟨.reply i (.expected (sampleSnapshot high)), []⟩, ⟨.resume i true, []⟩,
    ⟨.reply i (.expected sampleLogin), []⟩, ⟨.resume i true, []⟩, ⟨.opened k false, []⟩]

def takingEvents : List Label :=
  connecting 0 0 0 ++ [⟨.message 0 (.text 200 (some sampleBegin)), []⟩,
    ⟨.message 0 (.text 300 (some (sampleEvent 1 "turn_accepted"))), []⟩,
    ⟨.message 0 (.text 300 (some (sampleEvent 2 "monitoring_degraded"))), []⟩] ++ connecting 1 1 2

theorem refreshed_events_contiguous : ∃ s, system.Reachable s ∧
    s.events = [⟨1, "turn_accepted"⟩, ⟨2, "monitoring_degraded"⟩] ∧ s.generation = 2 ∧ ContiguousLog s := by
  have found : (system.run { storage := ⟨none, []⟩ } takingEvents).map (fun s => (s.events, s.generation)) =
      some ([⟨1, "turn_accepted"⟩, ⟨2, "monitoring_degraded"⟩], 2) := by decide +kernel
  obtain ⟨s, ran, shown⟩ := Option.map_eq_some_iff.mp found
  obtain ⟨events, generation⟩ := Prod.mk.inj shown
  have reach : system.Reachable s := .run (.initial ⟨none, rfl⟩) ran
  exact ⟨s, reach, events, generation, contiguousLog_reachable reach⟩

/-- No two refreshes have one generation, and none has that of an open stream. -/
theorem refreshes_apart {s : Controller} (reach : system.Reachable s) :
    (∀ i j generation, Refreshes s.tasks i generation → Refreshes s.tasks j generation → i = j) ∧
      (s.socket ≠ none → ∀ i generation, Refreshes s.tasks i generation → generation < s.generation) := by
  have inv := logInv_reachable reach
  refine ⟨inv.unique, fun connected i generation refreshes => ?_⟩
  apply Nat.lt_of_le_of_ne (inv.older i generation refreshes)
  rintro rfl
  exact inv.idle connected i refreshes

/-- The session expires under a mutation. The page is refreshed, and again before it has taken over
the first snapshot: the mutation, whose answer is too late, has let the second refresh in. -/
def overtaking : List Label :=
  connecting 0 0 0 ++ [⟨.startDeviceLogin true, []⟩, ⟨.message 0 (.text 100 (some (.object [(some "type", .string "error"),
      (some "code", .string "authentication_expired"), (some "message", .string "")]))), []⟩,
    ⟨.refresh, []⟩, ⟨.reply 2 (.expected (sampleSnapshot 0)), []⟩, ⟨.reply 1 .thrown, []⟩, ⟨.resume 1 true, []⟩] ++
    connecting 3 1 0

theorem overtaken_refresh_apart : ∃ s, system.Reachable s ∧ s.socket = some 1 ∧ Refreshes s.tasks 2 3 ∧
    3 < s.generation ∧ ∀ i, Refreshes s.tasks i 3 → i = 2 := by
  have found : (system.run { storage := ⟨none, []⟩ } overtaking).map (fun s =>
      (s.socket, s.tasks[2]?.bind fun task => task.call.bind Call.refreshing)) = some (some 1, some 3) := by
    decide +kernel
  obtain ⟨s, ran, shown⟩ := Option.map_eq_some_iff.mp found
  obtain ⟨socket, task⟩ := Prod.mk.inj shown
  obtain ⟨task, here, call⟩ := Option.bind_eq_some_iff.mp task
  obtain ⟨call, own, refreshes⟩ := Option.bind_eq_some_iff.mp call
  have overtaken : Refreshes s.tasks 2 3 := ⟨task, call, here, own, refreshes⟩
  have reach : system.Reachable s := .run (.initial ⟨none, rfl⟩) ran
  obtain ⟨unique, older⟩ := refreshes_apart reach
  exact ⟨s, reach, socket, overtaken, older (by simp [socket]) 2 3 overtaken, fun i other => unique i 2 3 other overtaken⟩

end Codebox.Client
