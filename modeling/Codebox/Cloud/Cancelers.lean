import Codebox.Cloud.Memory

/-! # Which operation a cancellation is for

`cancel` gives the state lock up while it waits for a submit to return, and looks at whatever
record it finds when it has the lock again. Any number of threads call it beside the starts; the
record of what their passes did tells the operation a call found first from the one it acted on.
-/

namespace Codebox.Cloud

open Codebox.Support Proc Codebox.Host

def Flight.operationId : Flight → CloudSubmitOperationId
  | submitting ticket _ => ticket.operationId
  | submitted ticket _ => ticket.operationId

/-- The slot is that of the submit in flight. -/
theorem FlightInv.claims {decisive : Prop} {p : Process} {flight : Flight}
    (inv : FlightInv decisive p (some flight)) :
    p.state.ledger = some (.submitting flight.operationId) := by
  cases flight with
  | submitting ticket prompt => exact Claimed.memory inv
  | submitted ticket result => exact Answered.memory inv

/-- What a call of `cancel` did; `first` is the operation it found when it first had the lock. -/
inductive CancelAct where
  | returned (first : Option CloudSubmitOperationId) (lifecycle : CloudLifecycle)
  /-- The signal of the submit in flight was set; `token` is the operation of that submit. -/
  | requested (first token : Option CloudSubmitOperationId)
  | recorded (first : Option CloudSubmitOperationId) (ledger : CloudLifecycleLedger)
  deriving Repr, DecidableEq

/-- The act is about the operation the call found first. -/
def CancelAct.OnTarget : CancelAct → Prop
  | returned first lifecycle => first = some lifecycle.operationId
  | requested first token => token = first ∧ first ≠ none
  | recorded first ledger => first = some ledger.operationId

structure Cancelers where
  machine : Machine
  /-- The calls that have given the lock up, by thread, each with the operation it found first. -/
  waiting : Nat → Option CloudSubmitOperationId
  /-- What the passes did so far; no step reads it. -/
  acts : List CancelAct

inductive CancelLabel where
  /-- A section of any other call, a crash or a new process. -/
  | other (call : Call)
  /-- A thread enters `cancel`, or has the lock again after it waited. A condition variable may
  wake without a notification. -/
  | cancel (thread : Nat)

namespace Cancelers

/-- The calls of a process end with it. -/
def survivors (waiting : Nat → Option CloudSubmitOperationId) : Machine → Nat → Option CloudSubmitOperationId
  | .down _ => fun _ => none
  | .up _ _ => waiting

/-- The lifecycle record that a pass made durable. -/
def newRecord (p p' : Process) : List CloudLifecycleLedger :=
  if p'.host.lifecycleFile = p.host.lifecycleFile then [] else p'.host.lifecycleFile.toList

/-- The operation a call found first, at a pass on `p`. -/
def first (s : Cancelers) (thread : Nat) (p : Process) : Option CloudSubmitOperationId :=
  (s.waiting thread).or (p.state.ledger.map (·.operationId))

/-- One pass of a thread under the lock. -/
def pass (s : Cancelers) (thread : Nat) (p : Process) (flight : Option Flight) : Cancelers :=
  let first := s.first thread p
  let recorded := fun p' => s.acts ++ (newRecord p p').map (.recorded first)
  match Cloud.cancel p with
  | (.ok (.waiting _), p') =>
      { machine := .up p' flight
        waiting := Function.update s.waiting thread first
        acts := recorded p' ++ [.requested first (flight.map Flight.operationId)] }
  | (.ok (.answered lifecycle), p') =>
      { machine := .up p' flight
        waiting := Function.update s.waiting thread none
        acts := recorded p' ++ [.returned first lifecycle] }
  | (.error _, p') =>
      { machine := .up p' flight
        waiting := Function.update s.waiting thread none
        acts := recorded p' }
  | (.crashed, p') => { machine := .down p'.host, waiting := fun _ => none, acts := recorded p' }

def step (runner : CloudTaskRunner) (s : Cancelers) : CancelLabel → Option Cancelers
  | .other .cancel => none
  | .other call => (s.machine.step runner call).map fun machine =>
      { s with machine := machine, waiting := survivors s.waiting machine }
  | .cancel thread => match s.machine with
      | .up p flight => some (s.pass thread p flight)
      | .down _ => none

def system (runner : CloudTaskRunner) (env : Nat → Answers) : System Cancelers CancelLabel where
  initial s := s = ⟨.down (Host.fresh env), fun _ => none, []⟩
  step := step runner

/-- No start takes the slot while a call of `cancel` waits: either an operation is under way, and
the start is refused, or nobody waits. -/
def StartsAlone (s : Cancelers) : CancelLabel → Prop
  | .other (.startBegin _) => (∃ ledger, s.machine.ledger = some ledger ∧ ledger.phase.isTerminal = false) ∨
      ∀ thread, s.waiting thread = none
  | .other .restart | .other .crash | .other .startSubmit | .other .startCommit | .other .inspect
  | .other .reconcileUnknown | .other (.resolveUnknown _ _) | .other .cancel | .cancel _ => True

variable {runner : CloudTaskRunner} {env : Nat → Answers} {s s' : Cancelers} {machine' : Machine}
  {label : CancelLabel}

theorem pass_machine (s : Cancelers) (thread : Nat) (p : Process) (flight : Option Flight) :
    (Machine.up p flight).step runner .cancel = some (s.pass thread p flight).machine := by
  rw [Machine.step, pass]
  rcases Cloud.cancel p with ⟨pass | _ | _, p'⟩
  · cases pass <;> rfl
  · rfl
  · rfl

/-- Every step is one of the machine. -/
theorem step_machine (stepped : s.step runner label = some s') :
    ∃ call, s.machine.step runner call = some s'.machine := by
  cases label with
  | other call =>
      refine ⟨call, ?_⟩
      cases call with
      | cancel => cases stepped
      | _ =>
          obtain ⟨machine, moved, rfl⟩ := Option.map_eq_some_iff.mp stepped
          exact moved
  | cancel thread =>
      refine ⟨.cancel, ?_⟩
      rw [step] at stepped
      split at stepped
      · rename_i p flight up
        cases stepped
        rw [up]
        exact pass_machine s thread p flight
      · cases stepped

theorem machine_reachable {guard : Cancelers → CancelLabel → Prop} (reach : (system runner env).Reach guard s) :
    (Machine.system runner env).Reachable s.machine := by
  induction reach with
  | initial start =>
      cases start
      exact .initial rfl
  | step _ _ stepped ih =>
      obtain ⟨call, moved⟩ := step_machine stepped
      exact .step ih trivial moved

/-! ## The record that a waiting call found -/

/-- The signal in memory is that of the submit in flight. -/
def TokenInv : Machine → Prop
  | .down _ => True
  | .up p flight => p.state.cancellation.isSome = true → flight.isSome = true

/-- The operation of the record in memory. -/
def current (machine : Machine) : Option CloudSubmitOperationId :=
  machine.ledger.map (·.operationId)

/-- A step that leaves the slot to the operation that has it. -/
def SameSlot (machine machine' : Machine) : Prop :=
  TokenInv machine' ∧ (∀ p' flight', machine' = .up p' flight' → current machine' = current machine)

theorem sameSlot_down (machine : Machine) (host : Host) : SameSlot machine (.down host) := by
  refine ⟨trivial, ?_⟩
  intro _ _ up
  cases up

section

variable {p p' : Process} {flight : Option Flight} {ledger next : CloudLifecycleLedger} {shown : CloudLifecycle}

theorem sameSlot_same (token : TokenInv (.up p flight)) (same : p'.state = p.state) :
    SameSlot (.up p flight) (.up p' flight) := by
  constructor
  · rw [TokenInv, same]
    exact token
  · intro _ _ _
    simp [current, Machine.ledger, same]

theorem sameSlot_advances (token : TokenInv (.up p flight)) (before : p.state.ledger = some ledger)
    (advances : ledger.Advances next) (after : p'.state = { p.state with ledger := some next }) :
    SameSlot (.up p flight) (.up p' flight) := by
  constructor
  · rw [TokenInv, after]
    exact token
  · intro _ _ _
    simp [current, Machine.ledger, after, before, advances.follows.own]

theorem sameSlot_shows (token : TokenInv (.up p flight)) (shows_ : Shows p p' ledger next shown) :
    SameSlot (.up p flight) (.up p' flight) :=
  sameSlot_advances token shows_.before shows_.advances shows_.after

/-- Every call but a start that begins and a new process leaves the slot as it is. -/
theorem sameSlot_step {machine : Machine} {call : Call} (inv : MachineInv False runner machine)
    (token : TokenInv machine) (stepped : machine.step runner call = some machine')
    (stays : ∀ prompt, call ≠ .startBegin prompt) (lives : call ≠ .restart) : SameSlot machine machine' := by
  unfold Machine.step at stepped
  split at stepped
  · exact absurd rfl lives
  · cases stepped
    exact sameSlot_down _ _
  · exact absurd rfl (stays _)
  · cases stepped
    apply Machine.after_spec
    apply wp_mono (startSubmit_memory _ _)
    · intro _ _ kept
      refine ⟨fun _ => rfl, ?_⟩
      intro _ _ _
      simp [current, Machine.ledger, kept.1]
    · intro _ _ never
      exact never.elim
    · intro _ _
      exact sameSlot_down _ _
  · cases stepped
    rename_i p ticket result
    have memory : p.state.ledger = some (.submitting ticket.operationId) := Answered.memory inv.2
    apply Machine.after_spec
    apply wp_mono (startCommit_memory inv.1 inv.2)
    · intro _ p' ended
      refine ⟨?_, ?_⟩
      · simp [TokenInv, ended.1.state]
      · intro _ _ _
        simp [current, Machine.ledger, ended.1.state, memory, committedLedger, CloudLifecycleLedger.submitting]
    · intro _ p' ended
      refine ⟨?_, ?_⟩
      · simp [TokenInv, ended.state]
      · intro _ _ _
        simp [current, Machine.ledger, ended.state]
    · intro _ _
      exact sameSlot_down _ _
  · cases stepped
    apply Machine.after_spec
    apply wp_mono (inspect_memory inv.1)
    · intro _ _ spec
      obtain ⟨-, _, _, shows_, -⟩ := spec
      exact sameSlot_shows token shows_
    · intro _ _ spec
      exact sameSlot_same token spec.2
    · intro _ _
      exact sameSlot_down _ _
  · cases stepped
    apply Machine.after_spec
    apply wp_mono (reconcileUnknown_memory inv.1)
    · intro _ _ spec
      obtain ⟨-, _, _, before, -, -, advances, -, after⟩ := spec
      exact sameSlot_advances token before advances after
    · intro _ _ spec
      exact sameSlot_same token spec.2
    · intro _ _
      exact sameSlot_down _ _
  · cases stepped
    apply Machine.after_spec
    apply wp_mono (resolveUnknown_memory _ _ inv.1)
    · intro _ _ spec
      obtain ⟨-, _, _, shows_, -⟩ := spec
      exact sameSlot_shows token shows_
    · intro _ _ spec
      exact sameSlot_same token spec.2
    · intro _ _
      exact sameSlot_down _ _
  · cases stepped
    apply Machine.after_spec
    apply wp_mono (cancel_memory inv.1)
    · intro pass p' spec
      obtain ⟨-, canceled⟩ := spec
      cases pass with
      | answered shown =>
          obtain ⟨_, _, shows_, -⟩ := canceled
          exact sameSlot_shows token shows_
      | waiting op =>
          obtain ⟨ledger, signal, found, -, -, held, after⟩ := canceled
          refine ⟨?_, ?_⟩
          · intro _
            exact token (by simp [held])
          · intro _ _ _
            simp [current, Machine.ledger, after]
    · intro _ _ spec
      exact sameSlot_same token spec.2
    · intro _ _
      exact sameSlot_down _ _
  · cases stepped

/-- A step that leaves the slot to an operation under way. -/
def YieldsSlot (machine machine' : Machine) : Prop :=
  TokenInv machine' ∧ ((∃ ledger, machine.ledger = some ledger ∧ ledger.phase.isTerminal = false) →
    ∀ p' flight', machine' = .up p' flight' → current machine' = current machine)

theorem startBegin_slot {machine : Machine} {prompt : CloudPrompt} (token : TokenInv machine)
    (stepped : machine.step runner (.startBegin prompt) = some machine') : YieldsSlot machine machine' := by
  cases machine with
  | down host => cases stepped
  | up p flight =>
      cases stepped
      apply Machine.after_spec
      apply wp_mono startBegin_memory
      · intro ticket p' began
        refine ⟨fun _ => rfl, ?_⟩
        rintro ⟨ledger, found, unfinished⟩
        rw [began.free ledger found] at unfinished
        cases unfinished
      · intro error p' refused
        have same := sameSlot_same token refused.state
        exact ⟨same.1, fun _ => same.2⟩
      · intro p' _
        exact ⟨trivial, fun _ => (sameSlot_down _ _).2⟩

theorem restart_token {machine : Machine} (stepped : machine.step runner .restart = some machine') :
    TokenInv machine' := by
  cases machine with
  | up p flight => cases stepped
  | down host =>
      have unsignaled : (fromRunner runner).wp (fun _ p' => p'.state.cancellation = none) (fun _ _ => True)
        (fun _ => True) ⟨host, ⟨none, none, 0⟩⟩ := fromRunner_memory
      simp only [Machine.step] at stepped
      split at stepped <;> cases stepped
      · rename_i p' ran
        have quiet := wp_ok unsignaled ran
        simp [TokenInv, quiet]
      · trivial

end

/-! ## Runs -/

structure Aimed (s : Cancelers) : Prop where
  token : TokenInv s.machine
  waits : ∀ thread first, s.waiting thread = some first → current s.machine = some first
  acts : ∀ act ∈ s.acts, act.OnTarget

section

variable {p p' : Process} {flight : Option Flight} {thread : Nat}

/-- A call that has waited finds the operation it found first. -/
theorem Aimed.first_eq (aimed : Aimed s) (up : s.machine = .up p flight) :
    s.first thread p = current s.machine := by
  cases waits : s.waiting thread with
  | none => simp [first, waits, current, up, Machine.ledger]
  | some op => simp [first, waits, aimed.waits thread op waits]

theorem newRecord_own {allowed : CloudLifecyclePhase → Prop} (touched : Touched allowed p p'.host) :
    ∀ record ∈ newRecord p p', p.state.ledger.map (·.operationId) = some record.operationId := by
  intro record inside
  unfold newRecord at inside
  split at inside
  · cases inside
  · rename_i changed
    rcases touched.file with same | ⟨ledger, next, found, advances, -, stored⟩
    · exact absurd same changed
    · rw [stored, Option.toList_some, List.mem_singleton] at inside
      rw [inside, found, Option.map_some, advances.follows.own]

/-- What a pass adds to the acts is about the operation in the slot. -/
theorem Aimed.acts_append {added : List CancelAct} (aimed : Aimed s)
    (good : ∀ act ∈ added, act.OnTarget) : ∀ act ∈ s.acts ++ added, act.OnTarget := by
  intro act inside
  rcases List.mem_append.mp inside with before | after
  · exact aimed.acts act before
  · exact good act after

/-- The calls that wait after a pass, if the slot is still with its operation. -/
theorem Aimed.waits_update {next : Option CloudSubmitOperationId} (aimed : Aimed s)
    (own : ∀ op, next = some op → current s.machine = some op) :
    ∀ other op, Function.update s.waiting thread next other = some op → current s.machine = some op := by
  intro other op waits
  by_cases same : other = thread
  · subst same
    rw [Function.update_self] at waits
    exact own op waits
  · rw [Function.update_of_ne same] at waits
    exact aimed.waits other op waits

theorem Aimed.pass (aimed : Aimed s) (inv : MachineInv False runner s.machine)
    (up : s.machine = .up p flight) (thread : Nat) : Aimed (s.pass thread p flight) := by
  have inv' : MachineInv False runner (.up p flight) := up ▸ inv
  have token : TokenInv (.up p flight) := up ▸ aimed.token
  have moved : SameSlot (.up p flight) (s.pass thread p flight).machine :=
    sameSlot_step inv' token (pass_machine s thread p flight) (by simp) (by simp)
  have found : s.first thread p = p.state.ledger.map (·.operationId) := by
    rw [aimed.first_eq up, up]
    rfl
  have here : current s.machine = p.state.ledger.map (·.operationId) := by
    rw [up]
    rfl
  have recorded : ∀ p', Touched (· = .canceledLocally true) p p'.host →
      ∀ act ∈ (newRecord p p').map (CancelAct.recorded (s.first thread p)), act.OnTarget := by
    intro p' touched act inside
    obtain ⟨record, new, rfl⟩ := List.mem_map.mp inside
    exact found.trans (newRecord_own touched record new)
  have spec := cancel_memory inv'.1
  unfold Cancelers.pass at moved ⊢
  cases ran : Cloud.cancel p with
  | mk outcome p' =>
      rw [ran] at moved
      cases outcome with
      | ok pass =>
          obtain ⟨touched, canceled⟩ := wp_ok spec ran
          cases pass with
          | answered lifecycle =>
              have same := moved.2 p' flight rfl
              obtain ⟨ledger, next, shows_, -⟩ := canceled
              refine ⟨moved.1, ?_, ?_⟩
              · intro other op waits
                rw [same, ← up]
                exact aimed.waits_update (by simp) other op waits
              · intro act inside
                rcases List.mem_append.mp inside with before | last
                · exact aimed.acts_append (recorded p' touched) act before
                · rw [List.mem_singleton.mp last]
                  have own := (CloudLifecycleLedger.lifecycle_eq_ok shows_.shown).1
                  rw [CancelAct.OnTarget, found, shows_.before, Option.map_some, own,
                    shows_.advances.follows.own]
          | waiting op =>
              have same := moved.2 p' flight rfl
              obtain ⟨ledger, signal, held, phase, own, holds, -⟩ := canceled
              refine ⟨moved.1, ?_, ?_⟩
              · intro other op waits
                rw [same, ← up]
                refine aimed.waits_update ?_ other op waits
                intro op first
                rw [here, ← found]
                exact first
              · intro act inside
                rcases List.mem_append.mp inside with before | last
                · exact aimed.acts_append (recorded p' touched) act before
                · rw [List.mem_singleton.mp last]
                  obtain ⟨submit, rfl⟩ := Option.isSome_iff_exists.mp (token (by simp [holds]))
                  rw [CancelAct.OnTarget, found, inv'.2.claims]
                  simp [CloudLifecycleLedger.submitting]
      | error error =>
          have same := moved.2 p' flight rfl
          simp only [Proc.wp, ran] at spec
          refine ⟨moved.1, ?_, aimed.acts_append (recorded p' spec.1)⟩
          intro other op waits
          rw [same, ← up]
          exact aimed.waits_update (by simp) other op waits
      | crashed =>
          simp only [Proc.wp, ran] at spec
          exact ⟨trivial, by simp, aimed.acts_append (recorded p' spec)⟩

/-- A step of the machine beside the calls of `cancel`. -/
theorem Aimed.carry (aimed : Aimed s) (token : TokenInv machine')
    (same : ∀ thread, s.waiting thread ≠ none → ∀ p' flight', machine' = .up p' flight' →
      current machine' = current s.machine) :
    Aimed { s with machine := machine', waiting := survivors s.waiting machine' } := by
  refine ⟨token, ?_, aimed.acts⟩
  intro thread op waits
  cases machine' with
  | down host => cases waits
  | up p' flight' =>
      have waits : s.waiting thread = some op := waits
      exact (same thread (by simp [waits]) p' flight' rfl).trans (aimed.waits thread op waits)

theorem Aimed.step (aimed : Aimed s) (inv : MachineInv False runner s.machine) (alone : StartsAlone s label)
    (stepped : s.step runner label = some s') : Aimed s' := by
  have quiet : ∀ machine', SameSlot s.machine machine' →
      Aimed { s with machine := machine', waiting := survivors s.waiting machine' } :=
    fun machine' slot => aimed.carry slot.1 fun _ _ => slot.2
  cases label with
  | cancel thread =>
      rw [Cancelers.step] at stepped
      split at stepped
      · rename_i p flight up
        cases stepped
        exact aimed.pass inv up thread
      · cases stepped
  | other call =>
      cases call with
      | cancel => cases stepped
      | startBegin prompt =>
          obtain ⟨machine, moved, rfl⟩ := Option.map_eq_some_iff.mp stepped
          obtain ⟨token, yields⟩ := startBegin_slot aimed.token moved
          apply aimed.carry token
          intro thread waits
          rcases alone with busy | nobody
          · exact yields busy
          · exact absurd (nobody thread) waits
      | restart =>
          obtain ⟨machine, moved, rfl⟩ := Option.map_eq_some_iff.mp stepped
          apply aimed.carry (restart_token moved)
          intro thread waits
          -- nobody waits in a process that is gone
          obtain ⟨op, found⟩ := Option.ne_none_iff_exists'.mp waits
          have slot := aimed.waits thread op found
          cases here : s.machine with
          | up p flight =>
              rw [here] at moved
              cases moved
          | down host =>
              rw [here] at slot
              cases slot
      | crash | startSubmit | startCommit | inspect | reconcileUnknown | resolveUnknown op decision =>
          obtain ⟨machine, moved, rfl⟩ := Option.map_eq_some_iff.mp stepped
          exact quiet machine (sameSlot_step inv aimed.token moved (by simp) (by simp))

/-- In every run in which no start takes the slot while a call of `cancel` waits, each such call
returns, signals and records only the operation that it found first. -/
theorem cancel_on_target (reach : (system runner env).Reach StartsAlone s) :
    ∀ act ∈ s.acts, act.OnTarget := by
  have aimed : Aimed s := by
    apply System.Reach.invariant reach
    · intro start begins
      cases begins
      exact ⟨trivial, by simp, by simp⟩
    · intro before label after reached aimed alone stepped
      exact aimed.step (machineInv_reachable False.elim (machine_reachable reached)) alone stepped
  exact aimed.acts

/-- A call waits for the submit that it signaled and returns its cancellation. -/
theorem waiting_cancel_on_target :
    ∃ s, (system ⟨⟨[]⟩, ⟨[]⟩⟩ fun _ => {}).Reach StartsAlone s ∧
      s.acts = [.requested (some ⟨1, by decide⟩) (some ⟨1, by decide⟩),
        .returned (some ⟨1, by decide⟩) (.canceledLocally ⟨1, by decide⟩ none false)] ∧
      ∀ act ∈ s.acts, act.OnTarget := by
  let sys := system ⟨⟨[]⟩, ⟨[]⟩⟩ fun _ => {}
  have begun : sys.Reach StartsAlone _ :=
    .step (.step (.initial rfl) trivial (l := .other .restart) rfl) (.inr fun _ => rfl)
      (l := .other (.startBegin ⟨['p']⟩)) rfl
  have ended : sys.Reach StartsAlone _ :=
    .step (.step (.step begun trivial (l := .cancel 0) rfl) trivial (l := .other .startSubmit) rfl) trivial
      (l := .other .startCommit) rfl
  have answered : sys.Reach StartsAlone _ := .step ended trivial (l := .cancel 0) rfl
  exact ⟨_, answered, by decide, cancel_on_target answered⟩

/-- The call waits for the first submit; before it has the lock again, the next start has taken the
slot. It signals that start's submit and returns its cancellation. -/
theorem late_cancel_hits_next_start :
    ∃ s, (system ⟨⟨[]⟩, ⟨[]⟩⟩ fun _ => {}).Reachable s ∧
      s.acts = [.requested (some ⟨1, by decide⟩) (some ⟨1, by decide⟩),
        .requested (some ⟨1, by decide⟩) (some ⟨2, by decide⟩),
        .returned (some ⟨1, by decide⟩) (.canceledLocally ⟨2, by decide⟩ none false)] ∧
      ¬ ∀ act ∈ s.acts, act.OnTarget := by
  have ran : (system ⟨⟨[]⟩, ⟨[]⟩⟩ fun _ => {}).run ⟨.down (Host.fresh fun _ => {}), fun _ => none, []⟩
      [.other .restart, .other (.startBegin ⟨['p']⟩), .cancel 0, .other .startSubmit, .other .startCommit,
        .other (.startBegin ⟨['q']⟩), .cancel 0, .other .startSubmit, .other .startCommit, .cancel 0] =
      some _ := rfl
  refine ⟨_, .run (.initial rfl) ran, by decide, ?_⟩
  intro onTarget
  have hit := onTarget (.requested (some ⟨1, by decide⟩) (some ⟨2, by decide⟩)) (by decide)
  simp [CancelAct.OnTarget] at hit

end

end Cancelers

end Codebox.Cloud
