import Codebox.Support.Counter
import Codebox.Support.Transition
import Mathlib.Data.List.Pairwise
import Mathlib.Logic.Function.Basic

/-! # Shutdown of the control plane

Requests are admitted as operations until the first call of `shutdown` latches; that caller waits
until the operations are gone, shuts the session and the login down and publishes the result, and
every other caller waits for it. All of them meet at one lock and one condition variable. A wait
gives the lock up and ends with a notification, or with none at all.
-/

namespace Codebox.ControlPlane

open Codebox.Support

inductive P0HttpShutdownErrorCategory where
  | worker | session | login
  deriving Repr, DecidableEq

abbrev ShutdownResult := Except P0HttpShutdownErrorCategory Unit

inductive ShutdownPhase where
  | running
  | draining
  | complete (result : ShutdownResult)

structure LifecycleState where
  phase : ShutdownPhase := .running
  active : Nat := 0

namespace Shutdown

/-- Where a caller of `shutdown_blocking` stands. -/
inductive Caller where
  | idle
  /-- About to take the lock at the head of the loop of `begin_shutdown`. -/
  | entering
  /-- Waits for the result of another caller. -/
  | waiting
  /-- Waits until the operations are gone, and woken from that wait. -/
  | draining
  | drained
  /-- `begin_shutdown` returned the role of the leader. -/
  | leading
  | sessionDown (failed : Bool)
  | clearing (result : ShutdownResult)
  | completing (result : ShutdownResult)
  | returned (result : ShutdownResult)

/-- What happened, in order. A lower shutdown is noted with the number of live operations. -/
inductive Event where
  | admitted
  | latched (caller : Nat)
  | leader (caller : Nat)
  | sessionShutdown (operations : Nat)
  | loginShutdown (operations : Nat)
  | returned (caller : Nat) (result : ShutdownResult)

structure Sys where
  lifecycle : LifecycleState
  /-- The live values of `ActiveOperation`. -/
  operations : Nat
  callers : Nat → Caller
  history : List Event

inductive Label where
  | admitOperation
  | drop
  | call (caller : Nat)
  /-- A section of a caller under the lock, or the clearing of the registries. -/
  | section_ (caller : Nat)
  /-- A shutdown of the session or the login returns. -/
  | lower (caller : Nat) (failed : Bool)
  /-- A wait ends by itself. -/
  | wake (caller : Nat)

def Caller.notified : Caller → Caller
  | waiting => entering
  | draining => drained
  | caller => caller

def shutdownResult (sessionFailed loginFailed : Bool) : ShutdownResult :=
  if sessionFailed then .error .session else if loginFailed then .error .login else .ok ()

namespace Sys

def setCaller (sys : Sys) (i : Nat) (next : Caller) : Sys :=
  { sys with callers := Function.update sys.callers i next }

def note (sys : Sys) (event : Event) : Sys := { sys with history := sys.history ++ [event] }

def notifyAll (sys : Sys) : Sys := { sys with callers := fun i => (sys.callers i).notified }

def admitOperation (sys : Sys) : Option Sys :=
  match sys.lifecycle.phase with
  | .running =>
      -- the operation holds a handle of the lifecycle
      if sys.operations < handleMax then
        some ({ sys with
          lifecycle.active := saturatingAdd sys.lifecycle.active 1
          operations := sys.operations + 1 }.note .admitted)
      else none
  | .draining | .complete _ => some sys

/-- The destructor of an operation. -/
def drop (sys : Sys) : Sys := { sys with lifecycle.active := sys.lifecycle.active - 1 }.notifyAll

/-- The inner loop of `begin_shutdown`, with the lock. -/
def drain (sys : Sys) (i : Nat) : Sys :=
  if sys.lifecycle.active ≠ 0 then sys.setCaller i .draining
  else (sys.setCaller i .leading).note (.leader i)

/-- The outer loop. -/
def beginShutdown (sys : Sys) (i : Nat) : Sys :=
  match sys.lifecycle.phase with
  | .running => ({ sys with lifecycle.phase := .draining }.note (.latched i)).drain i
  | .draining => sys.setCaller i .waiting
  | .complete result => (sys.setCaller i (.returned result)).note (.returned i result)

def forceComplete (sys : Sys) (i : Nat) (result : ShutdownResult) : Sys :=
  ({ sys with lifecycle.phase := .complete result }.notifyAll.setCaller i (.returned result)).note
    (.returned i result)

def step (sys : Sys) : Label → Option Sys
  | .admitOperation => sys.admitOperation
  | .drop => match sys.operations with
      | 0 => none
      | rest + 1 => some { sys.drop with operations := rest }
  | .call i => match sys.callers i with
      | .idle => some (sys.setCaller i .entering)
      | _ => none
  | .section_ i => match sys.callers i with
      | .entering => some (sys.beginShutdown i)
      | .drained => some (sys.drain i)
      | .clearing result => some (sys.setCaller i (.completing result))
      | .completing result => some (sys.forceComplete i result)
      | _ => none
  | .lower i failed => match sys.callers i with
      | .leading => some ((sys.setCaller i (.sessionDown failed)).note (.sessionShutdown sys.operations))
      | .sessionDown sessionFailed =>
          some ((sys.setCaller i (.clearing (shutdownResult sessionFailed failed))).note
            (.loginShutdown sys.operations))
      | _ => none
  | .wake i => match sys.callers i with
      | .waiting | .draining => some (sys.setCaller i (sys.callers i).notified)
      | _ => none

end Sys

def system : System Sys Label where
  initial sys := sys = ⟨{}, 0, fun _ => .idle, []⟩
  step := Sys.step

/-! ## Every run -/

/-- What the caller that latched has noted since, while it is on its way. -/
def Caller.noted (l : Nat) : Caller → Option (List Event)
  | draining | drained => some []
  | leading => some [.leader l]
  | sessionDown _ => some [.leader l, .sessionShutdown 0]
  | clearing _ | completing _ => some [.leader l, .sessionShutdown 0, .loginShutdown 0]
  | idle | entering | waiting | returned _ => none

def Caller.Follows : Caller → Prop
  | idle | entering | waiting => True
  | draining | drained | leading | sessionDown _ | clearing _ | completing _ | returned _ => False

/-- The phase says which callers there are and what the history looks like. -/
inductive Stage (sys : Sys) : Prop where
  | running (phase : sys.lifecycle.phase = .running)
      (callers : ∀ i, sys.callers i = .idle ∨ sys.callers i = .entering)
      (history : ∀ event ∈ sys.history, event = .admitted)
  | draining (l : Nat) (before after : List Event) (phase : sys.lifecycle.phase = .draining)
      (own : (sys.callers l).noted l = some after) (empty : after ≠ [] → sys.operations = 0)
      (blocked : sys.callers l = .draining → sys.operations ≠ 0)
      (others : ∀ i, i ≠ l → (sys.callers i).Follows)
      (history : sys.history = before ++ .latched l :: after)
      (early : ∀ event ∈ before, event = .admitted)
  | complete (l : Nat) (before rest : List Event) (result : ShutdownResult)
      (phase : sys.lifecycle.phase = .complete result)
      (callers : ∀ i, sys.callers i = .idle ∨ sys.callers i = .entering ∨ sys.callers i = .returned result)
      (history : sys.history = before ++ .latched l :: .leader l :: .sessionShutdown 0 ::
        .loginShutdown 0 :: .returned l result :: rest)
      (early : ∀ event ∈ before, event = .admitted)
      (late : ∀ event ∈ rest, ∃ i, event = .returned i result)

structure Inv (sys : Sys) : Prop where
  counted : sys.lifecycle.active = sys.operations
  bounded : sys.operations ≤ handleMax
  stage : Stage sys

variable {result : ShutdownResult} {after : List Event}

section

variable {sys sys' : Sys} {i l : Nat} {caller next : Caller}

@[simp] theorem noted_notified : caller.notified.noted l = caller.noted l := by
  cases caller <;> rfl

theorem Caller.Follows.notified (follows : caller.Follows) : caller.notified.Follows := by
  cases caller <;> trivial

theorem notified_ne_draining : caller.notified ≠ .draining := by
  cases caller <;> simp [Caller.notified]

/-- A step of a caller that follows, while another one is on its way or nobody is. -/
theorem Stage.follower (stage : Stage sys) (before : (sys.callers i).Follows) (after : next.Follows)
    (moves : next ≠ .waiting ∨ sys.lifecycle.phase = .draining) (busy : next ≠ .idle) :
    Stage (sys.setCaller i next) := by
  have others : ∀ {p : Caller → Prop} j, p next → (j ≠ i → p (sys.callers j)) →
      p (Function.update sys.callers i next j) := by
    intro p j here there
    by_cases same : j = i
    · rw [same, Function.update_self]
      exact here
    · rw [Function.update_of_ne same]
      exact there same
  have entering : sys.lifecycle.phase ≠ .draining → next = .entering := by
    intro phase
    cases next with
    | entering => rfl
    | waiting => exact (moves.elim (fun other => other rfl) phase).elim
    | idle => exact (busy rfl).elim
    | _ => exact after.elim
  cases stage with
  | running phase callers history =>
      refine .running phase ?_ history
      intro j
      apply others (p := fun caller => caller = .idle ∨ caller = .entering) j
      · exact .inr (entering (by simp [phase]))
      · intro _
        exact callers j
  | draining l early' late' phase own empty blocked rest history early =>
      have other : l ≠ i := by
        rintro rfl
        cases at_ : sys.callers l <;> simp_all [Caller.noted, Caller.Follows]
      have kept : (sys.setCaller i next).callers l = sys.callers l := Function.update_of_ne other _ _
      refine .draining l early' late' phase ?_ empty ?_ ?_ history early
      · rw [kept]
        exact own
      · rw [kept]
        exact blocked
      · intro j away
        exact others j after fun _ => rest j away
  | complete l before' rest result phase callers history early late =>
      refine .complete l before' rest result phase ?_ history early late
      intro j
      apply others (p := fun caller => caller = .idle ∨ caller = .entering ∨ caller = .returned result) j
      · exact .inr (.inl (entering (by simp [phase])))
      · intro _
        exact callers j

theorem Inv.admitOperation (inv : Inv sys) (stepped : sys.admitOperation = some sys') : Inv sys' := by
  unfold Sys.admitOperation at stepped
  split at stepped
  · rename_i phase
    split at stepped
    · rename_i live
      cases stepped
      refine ⟨?_, live, ?_⟩
      · show saturatingAdd sys.lifecycle.active 1 = sys.operations + 1
        rw [inv.counted, saturatingAdd_one live]
      · cases inv.stage with
        | running _ callers history =>
            refine .running phase callers ?_
            intro event member
            rcases List.mem_append.mp member with earlier | last
            · exact history event earlier
            · exact List.mem_singleton.mp last
        | draining _ _ _ other => simp [phase] at other
        | complete _ _ _ _ other => simp [phase] at other
    · cases stepped
  · cases stepped
    exact inv
  · cases stepped
    exact inv

theorem step_drop (stepped : sys.step .drop = some sys') :
    sys'.operations + 1 = sys.operations ∧ sys' = { sys.drop with operations := sys'.operations } := by
  simp only [Sys.step] at stepped
  split at stepped
  · cases stepped
  · rename_i rest live
    cases stepped
    exact ⟨live.symm, rfl⟩

/-- With an operation goes its count. -/
theorem Inv.drop_counted (inv : Inv sys) (stepped : sys.step .drop = some sys') :
    sys'.operations + 1 = sys.operations ∧ sys'.lifecycle.active + 1 = sys.lifecycle.active := by
  obtain ⟨fewer, same⟩ := step_drop stepped
  have active : sys'.lifecycle.active = sys.lifecycle.active - 1 := by rw [same]; rfl
  have counted := inv.counted
  omega

theorem Inv.drop (inv : Inv sys) (stepped : sys.step .drop = some sys') : Inv sys' := by
  obtain ⟨fewer, uncounted⟩ := inv.drop_counted stepped
  obtain ⟨counted, bounded, stage⟩ := inv
  refine ⟨by omega, by omega, ?_⟩
  have live : sys.operations ≠ 0 := by omega
  rw [(step_drop stepped).2]
  cases stage with
  | running phase callers history =>
      refine .running phase ?_ history
      intro i
      show (sys.callers i).notified = _ ∨ (sys.callers i).notified = _
      rcases callers i with at_ | at_ <;> simp [at_, Caller.notified]
  | draining l before after phase own empty blocked others history early =>
      refine .draining l before after phase (noted_notified.trans own) ?_ ?_ ?_ history early
      · intro some_
        exact absurd (empty some_) live
      · intro draining
        exact absurd draining notified_ne_draining
      · intro i away
        exact (others i away).notified
  | complete l before rest' result phase callers history early late =>
      refine .complete l before rest' result phase ?_ history early late
      intro i
      show (sys.callers i).notified = _ ∨ (sys.callers i).notified = _ ∨ (sys.callers i).notified = _
      rcases callers i with at_ | at_ | at_ <;> simp [at_, Caller.notified]

/-- What the stage is while a caller that latched is on its way. -/
structure Leading (sys : Sys) (l : Nat) (after : List Event) : Prop where
  phase : sys.lifecycle.phase = .draining
  empty : after ≠ [] → sys.operations = 0
  others : ∀ i, i ≠ l → (sys.callers i).Follows
  history : ∃ before, sys.history = before ++ .latched l :: after ∧ ∀ event ∈ before, event = .admitted

theorem Stage.leading (stage : Stage sys) (own : (sys.callers l).noted l = some after) : Leading sys l after := by
  cases stage with
  | running phase callers =>
      rcases callers l with at_ | at_ <;> simp [at_, Caller.noted] at own
  | complete _ _ _ _ phase callers =>
      rcases callers l with at_ | at_ | at_ <;> simp [at_, Caller.noted] at own
  | draining leader before after' phase own' empty _ others history early =>
      have same : leader = l := by
        by_contra other
        have follows := others l fun back => other back.symm
        cases at_ : sys.callers l <;> simp_all [Caller.noted, Caller.Follows]
      subst same
      cases own.symm.trans own'
      exact ⟨phase, empty, others, before, history, early⟩

/-- That caller goes on. -/
theorem Stage.onward (stage : Stage sys) (next : Caller) (events : List Event)
    (own : (sys.callers l).noted l = some after) (moves : next.noted l = some (after ++ events))
    (empty : after ++ events ≠ [] → sys.operations = 0) (blocked : next = .draining → sys.operations ≠ 0) :
    Stage { sys.setCaller l next with history := sys.history ++ events } := by
  obtain ⟨phase, -, others, before, history, early⟩ := stage.leading own
  refine .draining l before (after ++ events) phase ?_ empty ?_ ?_ ?_ early
  · show (Function.update sys.callers l next l).noted l = _
    rw [Function.update_self]
    exact moves
  · show Function.update sys.callers l next l = _ → _
    rw [Function.update_self]
    exact blocked
  · intro i away
    show (Function.update sys.callers l next i).Follows
    rw [Function.update_of_ne away]
    exact others i away
  · show sys.history ++ events = _
    rw [history, List.append_assoc, List.cons_append]

theorem Inv.drain (inv : Inv sys) (own : (sys.callers l).noted l = some []) : Inv (sys.drain l) := by
  obtain ⟨counted, bounded, stage⟩ := inv
  unfold Sys.drain
  split
  · rename_i busy
    have waits := stage.onward .draining [] own rfl (by simp) (fun _ => counted ▸ busy)
    rw [List.append_nil] at waits
    exact ⟨counted, bounded, waits⟩
  · rename_i free
    have gone : sys.operations = 0 := counted ▸ not_not.mp free
    exact ⟨counted, bounded, stage.onward .leading [.leader l] own rfl (fun _ => gone) (by simp)⟩

/-- The first call latches. -/
theorem Inv.latch (inv : Inv sys) (phase : sys.lifecycle.phase = .running) :
    Inv (({ sys with lifecycle.phase := .draining }.note (.latched l)).setCaller l .drained) := by
  refine ⟨inv.counted, inv.bounded, ?_⟩
  cases inv.stage with
  | draining _ _ _ other => simp [phase] at other
  | complete _ _ _ _ other => simp [phase] at other
  | running _ callers history =>
      refine .draining l sys.history [] rfl ?_ (by simp) ?_ ?_ rfl history
      · show (Function.update sys.callers l .drained l).noted l = some []
        rw [Function.update_self]
        rfl
      · show Function.update sys.callers l .drained l = .draining → _
        simp
      · intro i away
        show (Function.update sys.callers l .drained i).Follows
        rw [Function.update_of_ne away]
        rcases callers i with at_ | at_ <;> rw [at_] <;> trivial

theorem drain_setCaller : (sys.setCaller l caller).drain l = sys.drain l := by
  simp [Sys.drain, Sys.setCaller, Sys.note]

theorem Inv.beginShutdown (inv : Inv sys) (entering : sys.callers i = .entering) :
    Inv (sys.beginShutdown i) := by
  unfold Sys.beginShutdown
  split
  · rename_i phase
    rw [← drain_setCaller]
    apply (inv.latch phase).drain
    show (Function.update sys.callers i .drained i).noted i = some []
    rw [Function.update_self]
    rfl
  · rename_i phase
    refine ⟨inv.counted, inv.bounded, inv.stage.follower ?_ trivial (.inr phase) (by simp)⟩
    rw [entering]
    trivial
  · rename_i result phase
    refine ⟨inv.counted, inv.bounded, ?_⟩
    cases inv.stage with
    | running other => simp [phase] at other
    | draining _ _ _ other => simp [phase] at other
    | complete l before rest result' phase' callers history early late =>
        cases phase.symm.trans phase'
        refine .complete l before (rest ++ [.returned i result]) result phase ?_ ?_ early ?_
        · intro j
          show Function.update sys.callers i _ j = _ ∨ Function.update sys.callers i _ j = _ ∨
            Function.update sys.callers i _ j = _
          by_cases same : j = i
          · rw [same, Function.update_self]
            exact .inr (.inr rfl)
          · rw [Function.update_of_ne same]
            exact callers j
        · show sys.history ++ _ = _
          rw [history]
          simp
        · intro event member
          rcases List.mem_append.mp member with earlier | last
          · exact late event earlier
          · exact ⟨i, List.mem_singleton.mp last⟩

theorem Inv.forceComplete (inv : Inv sys) (completing : sys.callers i = .completing result) :
    Inv (sys.forceComplete i result) := by
  have own : (sys.callers i).noted i = some [.leader i, .sessionShutdown 0, .loginShutdown 0] := by
    rw [completing]
    rfl
  obtain ⟨-, -, others, before, history, early⟩ := inv.stage.leading own
  refine ⟨inv.counted, inv.bounded, .complete i before [] result rfl ?_ ?_ early (by simp)⟩
  · intro j
    show Function.update _ i _ j = _ ∨ Function.update _ i _ j = _ ∨ Function.update _ i _ j = _
    by_cases same : j = i
    · rw [same, Function.update_self]
      exact .inr (.inr rfl)
    · rw [Function.update_of_ne same]
      have follows := others j same
      show (sys.callers j).notified = _ ∨ (sys.callers j).notified = _ ∨ (sys.callers j).notified = _
      cases at_ : sys.callers j <;> simp_all [Caller.notified, Caller.Follows]
  · show sys.history ++ _ = _
    rw [history]
    simp

theorem Inv.wake (inv : Inv sys) (blocked : sys.callers i = .waiting ∨ sys.callers i = .draining) :
    Inv (sys.setCaller i (sys.callers i).notified) := by
  refine ⟨inv.counted, inv.bounded, ?_⟩
  rcases blocked with at_ | at_
  · apply inv.stage.follower <;> simp [at_, Caller.notified, Caller.Follows]
  · have own : (sys.callers i).noted i = some [] := by rw [at_]; rfl
    have woken := inv.stage.onward .drained [] own rfl (by simp) (by simp)
    rw [List.append_nil] at woken
    rw [at_]
    exact woken

theorem Inv.step {label : Label} (inv : Inv sys) (stepped : sys.step label = some sys') : Inv sys' := by
  cases label with
  | admitOperation => exact inv.admitOperation stepped
  | drop => exact inv.drop stepped
  | call i =>
      simp only [Sys.step] at stepped
      split at stepped
      · rename_i at_
        cases stepped
        refine ⟨inv.counted, inv.bounded, inv.stage.follower ?_ trivial (.inl (by simp)) (by simp)⟩
        rw [at_]
        trivial
      · cases stepped
  | section_ i =>
      simp only [Sys.step] at stepped
      split at stepped
      · rename_i at_
        cases stepped
        exact inv.beginShutdown at_
      · rename_i at_
        cases stepped
        apply inv.drain
        rw [at_]
        rfl
      · rename_i result at_
        cases stepped
        have own : (sys.callers i).noted i = some [.leader i, .sessionShutdown 0, .loginShutdown 0] := by
          rw [at_]
          rfl
        have cleared := inv.stage.onward (.completing result) [] own rfl
          (inv.stage.leading own).empty (by simp)
        rw [List.append_nil] at cleared
        exact ⟨inv.counted, inv.bounded, cleared⟩
      · rename_i result at_
        cases stepped
        exact inv.forceComplete at_
      · cases stepped
  | lower i failed =>
      simp only [Sys.step] at stepped
      split at stepped
      · rename_i at_
        cases stepped
        have own : (sys.callers i).noted i = some [.leader i] := by rw [at_]; rfl
        have gone := (inv.stage.leading own).empty (by simp)
        rw [gone]
        exact ⟨inv.counted, inv.bounded, inv.stage.onward _ _ own rfl (fun _ => gone) (by simp)⟩
      · rename_i sessionFailed at_
        cases stepped
        have own : (sys.callers i).noted i = some [.leader i, .sessionShutdown 0] := by rw [at_]; rfl
        have gone := (inv.stage.leading own).empty (by simp)
        rw [gone]
        exact ⟨inv.counted, inv.bounded, inv.stage.onward _ _ own rfl (fun _ => gone) (by simp)⟩
      · cases stepped
  | wake i =>
      simp only [Sys.step] at stepped
      split at stepped
      · rename_i at_
        cases stepped
        exact inv.wake (.inl at_)
      · rename_i at_
        cases stepped
        exact inv.wake (.inr at_)
      · cases stepped

theorem inv_reachable (reachable : system.Reachable sys) : Inv sys := by
  apply System.Reach.invariant reachable
  · intro start begins
    cases begins
    exact ⟨rfl, Nat.zero_le _, .running rfl (fun _ => .inl rfl) (by simp)⟩
  · intro before label after _ inv _ stepped
    exact inv.step stepped

end

/-! ## Once, and drained -/

@[simp] def Event.isLeader : Event → Bool
  | leader _ => true
  | admitted | latched _ | sessionShutdown _ | loginShutdown _ | returned _ _ => false

@[simp] def Event.isSessionShutdown : Event → Bool
  | sessionShutdown _ => true
  | admitted | latched _ | leader _ | loginShutdown _ | returned _ _ => false

@[simp] def Event.isLoginShutdown : Event → Bool
  | loginShutdown _ => true
  | admitted | latched _ | leader _ | sessionShutdown _ | returned _ _ => false

/-- Some caller can go on, whatever a lower shutdown answers. -/
def Sys.CanMove (sys : Sys) : Prop :=
  ∃ i, (sys.step (.section_ i)).isSome ∨ ∀ failed, (sys.step (.lower i failed)).isSome

structure RunsOnce (sys : Sys) : Prop where
  /-- At most one leader and one call of each lower shutdown at any time. -/
  atMostOnce : sys.history.countP Event.isLeader ≤ 1 ∧ sys.history.countP Event.isSessionShutdown ≤ 1 ∧
    sys.history.countP Event.isLoginShutdown ≤ 1
  /-- Exactly one when a caller has returned. -/
  once : ∀ i result, .returned i result ∈ sys.history → sys.history.countP Event.isLeader = 1 ∧
    sys.history.countP Event.isSessionShutdown = 1 ∧ sys.history.countP Event.isLoginShutdown = 1
  drained : ∀ operations, .sessionShutdown operations ∈ sys.history ∨ .loginShutdown operations ∈ sys.history →
    operations = 0
  closed : sys.history.Pairwise fun earlier later => ∀ l, earlier = .latched l → later ≠ .admitted
  agreed : ∀ i result l, .returned i result ∈ sys.history → .leader l ∈ sys.history →
    .returned l result ∈ sys.history
  /-- A caller that has not returned waits for operations that are still there, or for one that can go on. -/
  progress : ∀ i, sys.callers i ≠ .idle → (∀ result, sys.callers i ≠ .returned result) →
    sys.operations ≠ 0 ∨ sys.CanMove

section

variable {sys : Sys} {before rest : List Event} {p : Event → Bool} {i : Nat}

theorem countP_admitted (early : ∀ event ∈ before, event = .admitted) (other : p .admitted = false) :
    before.countP p = 0 := by
  apply List.countP_eq_zero.mpr
  intro event member
  simp [early event member, other]

theorem countP_returned (late : ∀ event ∈ rest, ∃ i, event = .returned i result)
    (other : ∀ i, p (.returned i result) = false) : rest.countP p = 0 := by
  apply List.countP_eq_zero.mpr
  intro event member
  obtain ⟨i, rfl⟩ := late event member
  simp [other i]

theorem Inv.progress (inv : Inv sys) (called : sys.callers i ≠ .idle)
    (going : ∀ result, sys.callers i ≠ .returned result) : sys.operations ≠ 0 ∨ sys.CanMove := by
  have enters : sys.callers i = .entering → sys.CanMove := by
    intro at_
    exact ⟨i, .inl (by simp [Sys.step, at_])⟩
  cases inv.stage with
  | running phase callers =>
      rcases callers i with at_ | at_
      · exact (called at_).elim
      · exact .inr (enters at_)
  | complete _ _ _ result phase callers =>
      rcases callers i with at_ | at_ | at_
      · exact (called at_).elim
      · exact .inr (enters at_)
      · exact (going result at_).elim
  | draining l _ _ phase own empty blocked others =>
      cases at_ : sys.callers l with
      | draining => exact .inl (blocked at_)
      | drained | clearing result | completing result => exact .inr ⟨l, .inl (by simp [Sys.step, at_])⟩
      | leading | sessionDown sessionFailed => exact .inr ⟨l, .inr (by simp [Sys.step, at_])⟩
      | _ => simp [at_, Caller.noted] at own

/-- The history after the admissions. -/
inductive Tail : List Event → Prop where
  | quiet : Tail []
  | begun (l : Nat) (caller : Caller) (after : List Event) (own : caller.noted l = some after) :
      Tail (.latched l :: after)
  | done (l : Nat) (result : ShutdownResult) (rest : List Event)
      (late : ∀ event ∈ rest, ∃ i, event = .returned i result) :
      Tail (.latched l :: .leader l :: .sessionShutdown 0 :: .loginShutdown 0 :: .returned l result :: rest)

theorem Inv.tail (inv : Inv sys) :
    ∃ before tail, sys.history = before ++ tail ∧ (∀ event ∈ before, event = .admitted) ∧ Tail tail := by
  cases inv.stage with
  | running _ _ history => exact ⟨sys.history, [], by simp, history, .quiet⟩
  | draining l before after _ own _ _ _ history early => exact ⟨before, _, history, early, .begun l _ after own⟩
  | complete l before rest result _ _ history early late =>
      exact ⟨before, _, history, early, .done l result rest late⟩

theorem Tail.begun_cases {l : Nat} {caller : Caller} (own : caller.noted l = some after) :
    after = [] ∨ after = [.leader l] ∨ after = [.leader l, .sessionShutdown 0] ∨
      after = [.leader l, .sessionShutdown 0, .loginShutdown 0] := by
  cases caller <;> simp_all [Caller.noted]

variable {tail : List Event}

/-- Only the leader's part of the history counts. -/
theorem Tail.done_counts {rest : List Event} (late : ∀ event ∈ rest, ∃ i, event = .returned i result) :
    rest.countP Event.isLeader = 0 ∧ rest.countP Event.isSessionShutdown = 0 ∧ rest.countP Event.isLoginShutdown = 0 :=
  ⟨countP_returned late fun _ => rfl, countP_returned late fun _ => rfl, countP_returned late fun _ => rfl⟩

theorem Tail.atMostOnce (shape : Tail tail) : tail.countP Event.isLeader ≤ 1 ∧
    tail.countP Event.isSessionShutdown ≤ 1 ∧ tail.countP Event.isLoginShutdown ≤ 1 := by
  cases shape with
  | quiet => simp
  | begun l caller after own =>
      rcases Tail.begun_cases own with rfl | rfl | rfl | rfl <;> simp [List.countP_cons]
  | done l result rest late =>
      obtain ⟨leader, session, login⟩ := Tail.done_counts late
      simp [List.countP_cons, leader, session, login]

theorem Tail.once (shape : Tail tail) (back : .returned i result ∈ tail) :
    tail.countP Event.isLeader = 1 ∧ tail.countP Event.isSessionShutdown = 1 ∧
      tail.countP Event.isLoginShutdown = 1 := by
  cases shape with
  | quiet => simp at back
  | begun l caller after own => rcases Tail.begun_cases own with rfl | rfl | rfl | rfl <;> simp at back
  | done l result rest late =>
      obtain ⟨leader, session, login⟩ := Tail.done_counts late
      simp [List.countP_cons, leader, session, login]

theorem Tail.drained (shape : Tail tail) {operations : Nat}
    (called : .sessionShutdown operations ∈ tail ∨ .loginShutdown operations ∈ tail) : operations = 0 := by
  cases shape with
  | quiet => simp at called
  | begun l caller after own => rcases Tail.begun_cases own with rfl | rfl | rfl | rfl <;> simp_all
  | done l result rest late =>
      have others : .sessionShutdown operations ∉ rest ∧ .loginShutdown operations ∉ rest := by
        constructor <;> intro among <;> obtain ⟨i, other⟩ := late _ among <;> cases other
      simpa [others.1, others.2] using called

theorem Tail.closed (shape : Tail tail) : .admitted ∉ tail := by
  cases shape with
  | quiet => simp
  | begun l caller after own => rcases Tail.begun_cases own with rfl | rfl | rfl | rfl <;> simp
  | done l result rest late =>
      have other : .admitted ∉ rest := by
        intro among
        obtain ⟨i, other⟩ := late _ among
        cases other
      simpa using other

theorem Tail.agreed (shape : Tail tail) {l : Nat} (back : .returned i result ∈ tail) (leads : .leader l ∈ tail) :
    .returned l result ∈ tail := by
  cases shape with
  | quiet => simp at back
  | begun l caller after own => rcases Tail.begun_cases own with rfl | rfl | rfl | rfl <;> simp at back
  | done leader shared rest late =>
      have same : shared = result := by
        simp only [List.mem_cons, reduceCtorEq, false_or, Event.returned.injEq] at back
        rcases back with ⟨-, own⟩ | among
        · exact own.symm
        · obtain ⟨j, other⟩ := late _ among
          cases other
          rfl
      have own : l = leader := by
        simp only [List.mem_cons, reduceCtorEq, false_or, Event.leader.injEq] at leads
        rcases leads with own | among
        · exact own
        · obtain ⟨j, other⟩ := late _ among
          cases other
      subst same own
      simp

end

theorem shutdown_runs_once {sys : Sys} (reachable : system.Reachable sys) : RunsOnce sys := by
  have inv := inv_reachable reachable
  obtain ⟨before, tail, history, early, shape⟩ := inv.tail
  have count : ∀ {p : Event → Bool}, p .admitted = false → sys.history.countP p = tail.countP p := by
    intro p other
    rw [history, List.countP_append, countP_admitted early other, Nat.zero_add]
  have member : ∀ {event}, event ≠ .admitted → (event ∈ sys.history ↔ event ∈ tail) := by
    intro event other
    rw [history, List.mem_append, or_iff_right]
    intro first
    exact other (early event first)
  constructor
  · rw [count rfl, count rfl, count rfl]
    exact shape.atMostOnce
  · intro i result back
    rw [count rfl, count rfl, count rfl]
    exact shape.once ((member (by simp)).mp back)
  · intro operations called
    rw [member (by simp), member (by simp)] at called
    exact shape.drained called
  · rw [history, List.pairwise_append]
    refine ⟨?_, ?_, ?_⟩
    · apply List.pairwise_of_forall_mem_list
      intro earlier among later _ l latched
      simp [early earlier among] at latched
    · apply List.pairwise_of_forall_mem_list
      intro earlier _ later among l _ admitted
      exact shape.closed (admitted ▸ among)
    · intro earlier _ later among l _ admitted
      exact shape.closed (admitted ▸ among)
  · intro i result l back leads
    rw [member (by simp)] at back leads ⊢
    exact shape.agreed back leads
  · intro i called going
    exact inv.progress called going

/-- Two callers, an operation that ends while both wait, and a login that fails to shut down. -/
theorem login_failure_reaches_both_callers : ∃ sys, system.Reachable sys ∧ RunsOnce sys ∧
    .returned 0 (.error .login) ∈ sys.history ∧ .returned 1 (.error .login) ∈ sys.history := by
  have ran : (system.run ⟨{}, 0, fun _ => .idle, []⟩ [.admitOperation, .call 0, .section_ 0, .call 1, .section_ 1, .drop,
      .section_ 0, .lower 0 false, .section_ 1, .lower 0 true, .section_ 0, .section_ 0, .section_ 1]).map
      Sys.history = some [.admitted, .latched 0, .leader 0, .sessionShutdown 0, .loginShutdown 0,
        .returned 0 (.error .login), .returned 1 (.error .login)] := rfl
  obtain ⟨sys, ran, history⟩ := Option.map_eq_some_iff.mp ran
  have reachable := System.Reachable.run (.initial rfl) ran
  exact ⟨sys, reachable, shutdown_runs_once reachable, by simp [history], by simp [history]⟩

end Shutdown

end Codebox.ControlPlane
