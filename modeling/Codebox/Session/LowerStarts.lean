import Codebox.Session.Delivery
import Codebox.Session.Records

/-! # One lower start for a turn

Claiming a queued turn, admitting it and calling the orchestrator are three steps of the worker, and
a cancellation or a shutdown may come between any two of them. An observer records the turns for
which the orchestrator's start was called and the turns that were seen to end before it.
-/

namespace Codebox.Session

open Codebox.Support Codebox.Cloud

/-! ## What becomes of the current turn -/

/-- The current turn stays and keeps its admission, and ends without a lower start only if it had
not been admitted. -/
def Carried (before after : Option TurnRecord) : Prop :=
  ∀ record', after = some record' → ∃ record, before = some record ∧ record'.turnId = record.turnId ∧
    record'.lowerStartAdmitted = record.lowerStartAdmitted ∧
    (record'.projection.Unclaimed → record.projection.Unclaimed ∨ record.lowerStartAdmitted = false) ∧
    (record'.projection = .queued → record.projection = .queued)

namespace Carried

variable {record record' : TurnRecord} {allowed : P0CloudLifecycle → Prop}

theorem refl (current : Option TurnRecord) : Carried current current :=
  fun record same => ⟨record, same, rfl, rfl, .inl, id⟩

theorem trans {before mid after : Option TurnRecord} (first : Carried before mid)
    (second : Carried mid after) : Carried before after := by
  intro record'' found
  obtain ⟨record', found, turn, admitted, unclaimed, queued⟩ := second record'' found
  obtain ⟨record, found, turn', admitted', unclaimed', queued'⟩ := first record' found
  refine ⟨record, found, turn.trans turn', admitted.trans admitted', ?_, queued' ∘ queued⟩
  intro ended
  obtain early | out := unclaimed ended
  · exact unclaimed' early
  · exact .inr (admitted' ▸ out)

/-- One small step of the record. -/
theorem step (small : record.Step allowed record') : Carried (some record) (some record') := by
  intro other found
  cases found
  refine ⟨record, rfl, ?_⟩
  cases small with
  | flags inProgress completed => exact ⟨rfl, rfl, .inl, id⟩
  | requestCancel => exact ⟨rfl, rfl, fun ended => .inl (by simpa using ended), fun queued => by simpa using queued⟩
  | display asked fine | degrade asked shown waits | fail => exact ⟨rfl, rfl, False.elim, fun queued => by cases queued⟩
  | cancelQueued queued => exact ⟨rfl, rfl, fun _ => .inl (by simp [queued]), fun queued => by cases queued⟩
  | stopEarly waiting =>
      refine ⟨rfl, rfl, fun _ => ?_, fun queued => by cases queued⟩
      obtain queued | out := waiting
      · exact .inl (by simp [queued])
      · unfold RuntimeState.startNotAdmitted at out
        split at out
        · exact .inr (by simpa using out)
        · exact .inr (by simpa using out)
        · cases out

/-- The turn ends before its lower start. -/
theorem early (turn : record'.turnId = record.turnId) (admitted : record'.lowerStartAdmitted = record.lowerStartAdmitted)
    (out : record.lowerStartAdmitted = false) (ended : record'.projection ≠ .queued) :
    Carried (some record) (some record') := by
  intro other found
  cases found
  exact ⟨record, rfl, turn, admitted, fun _ => .inr out, fun queued => absurd queued ended⟩

theorem of_evolves {before after : Option TurnRecord} (evolves : Evolves allowed before after) :
    Carried before after := by
  intro record' found
  obtain ⟨record, rfl, steps⟩ := evolves record' found
  have carried : Carried (some record) (some record') := by
    clear found
    induction steps with
    | refl => exact .refl _
    | tail _ small ih => exact ih.trans (.step small)
  exact carried record' rfl

end Carried

/-! ## Events stay in the log -/

namespace RuntimeState

variable {rt rt' : RuntimeState} {turn : TurnId} {payload : P0SessionEvent}

theorem Logged.grow (was : rt.Logged turn payload) (log : rt.log <+: rt'.log) : rt'.Logged turn payload := by
  obtain ⟨event, logged, about⟩ := was
  exact ⟨event, log.subset logged, about⟩

theorem Publishes.log {final : Prop} {inner : Inner} (published : Publishes final inner rt rt') :
    rt.feed.log <+: rt'.feed.log := by
  induction published with
  | quiet same stays => exact same ▸ List.prefix_rfl
  | append about payload room up going => exact List.prefix_append _ _
  | stop about reason room up reported stopped =>
      rw [reported]
      exact List.prefix_append _ _
  | stopSilently closed stopped => exact closed ▸ List.prefix_rfl
  | trans _ _ first second => exact first.trans second

end RuntimeState

/-! ## The observer -/

/-- The turn for which the worker calls the orchestrator's start next. -/
def Worker.startCall : Worker → Option TurnId
  | .admitted turn _ => some turn
  | .idle | .claimed _ _ | .submitting _ _ _ | .submitted _ _ _ | .started _ _ | .monitoring _ _ | .monitored _ _ _
  | .canceling _ _ | .canceled _ _ _ | .failing _ | .exited => none

/-- The turn the worker has taken but not yet handed to the orchestrator. -/
def Worker.toStart : Worker → Option TurnId
  | .claimed turn _ | .admitted turn _ => some turn
  | .idle | .submitting _ _ _ | .submitted _ _ _ | .started _ _ | .monitoring _ _ | .monitored _ _ _
  | .canceling _ _ | .canceled _ _ _ | .failing _ | .exited => none

/-- A step of the worker that takes no turn: it is where it was, further on with the same start, or
done with it. -/
structure Worker.TakesNone (worker worker' : Worker) : Prop where
  waits : ∀ turn, worker'.toStart = some turn → worker.toStart = some turn
  busy : ∀ busy, worker'.role = some busy → busy.activity = .claiming ∨ busy.activity = .launching →
    worker.role = some busy

theorem Worker.TakesNone.refl (worker : Worker) : worker.TakesNone worker :=
  ⟨fun _ => id, fun _ role _ => role⟩

/-- The worker is not between the claim of a turn and the commit of its start. -/
theorem Worker.TakesNone.free {worker worker' : Worker} (gone : worker'.toStart = none)
    (free : ∀ busy, worker'.role = some busy → busy.activity ≠ .claiming ∧ busy.activity ≠ .launching) :
    worker.TakesNone worker' := by
  constructor
  · intro turn waits
    cases gone.symm.trans waits
  · intro busy role active
    obtain ⟨idle, done⟩ := free busy role
    exact active.elim (absurd · idle) (absurd · done)

/-- The current turn, if it ended before its lower start. -/
def RuntimeState.endedEarly (rt : RuntimeState) : Option TurnId :=
  (rt.currentTurn.filter fun record => record.projection == .canceledBeforeCloudStart ||
    record.projection == .stoppedBeforeCloudStart).map TurnRecord.turnId

variable {turn : TurnId} {prompt : CloudPrompt}

theorem RuntimeState.endedEarly_eq_some {rt : RuntimeState} : rt.endedEarly = some turn ↔
    ∃ record, rt.currentTurn = some record ∧ record.turnId = turn ∧
      (record.projection = .canceledBeforeCloudStart ∨ record.projection = .stoppedBeforeCloudStart) := by
  simp [endedEarly, Option.filter_eq_some_iff, and_assoc, and_comm]

/-- The system with a record of the lower start calls and of the turns seen to end before one. -/
structure Watched where
  sys : Sys
  calls : List TurnId
  ended : List TurnId

namespace Watched

def called (watched : Watched) : Label → List TurnId
  | .worker => watched.calls ++ watched.sys.worker.startCall.toList
  | .startTurn _ | .cancelTurn _ _ | .reconcileUnknown _ _ | .resolveUnknown _ _ _ _ | .shutdown _ | .subscribe _ _
  | .receive _ | .dropReceiver _ | .call _ | .elapse _ => watched.calls

def system (inner : Inner) (runner : CloudTaskRunner) (env : Nat → Answers) : System Watched Label where
  initial watched := (Sys.system inner runner env).initial watched.sys ∧ watched.calls = [] ∧ watched.ended = []
  step watched label := (watched.sys.step inner runner label).map fun sys =>
    ⟨sys, watched.called label, watched.ended ++ sys.runtime.endedEarly.toList⟩

end Watched

/-- What the worker's position and the current turn say about the calls made so far. -/
structure StartsOnce (rt : RuntimeState) (worker : Worker) (turns : Nat) (calls ended : List TurnId) : Prop where
  once : calls.Nodup
  accepted : ∀ turn ∈ calls, rt.Logged turn .turnAccepted
  apart : ∀ turn ∈ ended, turn ∉ calls
  known : ∀ turn, turn ∈ calls ∨ turn ∈ ended → turn ≤ turns
  waiting : ∀ turn, worker.toStart = some turn →
    turn ∉ calls ∧ turn ∉ ended ∧ rt.Logged turn .turnAccepted
  queued : ∀ record, rt.currentTurn = some record → record.projection = .queued →
    record.turnId ∉ ended ∧ rt.Logged record.turnId .turnAccepted
  unclaimed : ∀ record, rt.currentTurn = some record → record.projection.Unclaimed →
    record.lowerStartAdmitted = false
  claimed : ∀ record busy, rt.currentTurn = some record → worker.role = some busy →
    busy.activity = .claiming → record.turnId = busy.turn → record.lowerStartAdmitted = false
  admitted : ∀ record busy, rt.currentTurn = some record → worker.role = some busy →
    busy.activity = .launching → record.turnId = busy.turn → record.lowerStartAdmitted = true
  called : ∀ record, rt.currentTurn = some record → record.turnId ∈ calls → record.lowerStartAdmitted = true

namespace StartsOnce

variable {rt rt' : RuntimeState} {worker worker' : Worker} {callers : Nat → Caller} {turns : Nat}
  {calls ended : List TurnId} {record : TurnRecord}

/-- A turn the worker has taken has not ended. -/
theorem not_endedEarly (control : Controlled rt worker.role callers turns) (waits : worker.toStart = some turn) :
    rt.endedEarly ≠ some turn := by
  intro early
  obtain ⟨record, current, same, early⟩ := RuntimeState.endedEarly_eq_some.mp early
  cases worker with
  | claimed turn' prompt =>
      cases waits
      have shown := control.worker.claiming _ record rfl current same rfl
      grind
  | admitted turn' prompt =>
      cases waits
      have shown := control.worker.launching _ record rfl current same rfl
      grind
  | _ => cases waits

section

variable (starts : StartsOnce rt worker turns calls ended)

include starts

/-- The observer also looks at the state that a step leaves. -/
theorem observe (control : Controlled rt worker.role callers turns) :
    StartsOnce rt worker turns calls (ended ++ rt.endedEarly.toList) := by
  have early : ∀ turn ∈ rt.endedEarly.toList, turn ∉ calls ∧ turn ≤ turns ∧
      worker.toStart ≠ some turn ∧ ∀ record, rt.currentTurn = some record → record.projection = .queued →
        record.turnId ≠ turn := by
    intro turn seen
    have seen := Option.mem_toList.mp seen
    obtain ⟨record, current, rfl, early⟩ := RuntimeState.endedEarly_eq_some.mp seen
    have unclaimed : record.projection.Unclaimed := by rcases early with early | early <;> simp [early]
    refine ⟨fun called => ?_, control.known.current record current, fun waits => ?_, ?_⟩
    · cases (starts.unclaimed record current unclaimed).symm.trans (starts.called record current called)
    · exact not_endedEarly control waits seen
    · intro other current' queued
      cases current.symm.trans current'
      simp [queued] at early
  refine { starts with apart := ?_, known := ?_, waiting := ?_, queued := ?_ }
  · intro turn inside
    obtain was | new := List.mem_append.mp inside
    · exact starts.apart turn was
    · exact (early turn new).1
  · intro turn inside
    obtain called | inside := inside
    · exact starts.known turn (.inl called)
    · obtain was | new := List.mem_append.mp inside
      · exact starts.known turn (.inr was)
      · exact (early turn new).2.1
  · intro turn waits
    obtain ⟨fresh, open', logged⟩ := starts.waiting turn waits
    refine ⟨fresh, fun inside => ?_, logged⟩
    obtain was | new := List.mem_append.mp inside
    · exact open' was
    · exact (early turn new).2.2.1 waits
  · intro record current queued
    obtain ⟨open', logged⟩ := starts.queued record current queued
    refine ⟨fun inside => ?_, logged⟩
    obtain was | new := List.mem_append.mp inside
    · exact open' was
    · exact (early _ new).2.2.2 record current queued rfl

/-- A section that carries the current turn over and takes no new turn. -/
theorem carry (carried : Carried rt.currentTurn rt'.currentTurn) (log : rt.log <+: rt'.log)
    (follows : worker.TakesNone worker') : StartsOnce rt' worker' turns calls ended := by
  obtain ⟨same, busy⟩ := follows
  obtain ⟨once, accepted, apart, known, waiting, queued, unclaimed, claimed, admitted, called⟩ := starts
  constructor
  · exact once
  · exact fun turn inside => (accepted turn inside).grow log
  · exact apart
  · exact known
  · intro turn waits
    obtain ⟨fresh, open', logged⟩ := waiting turn (same turn waits)
    exact ⟨fresh, open', logged.grow log⟩
  · intro record' current' queued'
    obtain ⟨record, current, turn, -, -, was⟩ := carried record' current'
    obtain ⟨open', logged⟩ := queued record current (was queued')
    rw [turn]
    exact ⟨open', logged.grow log⟩
  · intro record' current' ends
    obtain ⟨record, current, -, flag, was, -⟩ := carried record' current'
    rw [flag]
    exact (was ends).elim (unclaimed record current) id
  · intro record' busy' current' role active own
    obtain ⟨record, current, turn, flag, -, -⟩ := carried record' current'
    rw [flag]
    exact claimed record busy' current (busy busy' role (.inl active)) active (turn ▸ own)
  · intro record' busy' current' role active own
    obtain ⟨record, current, turn, flag, -, -⟩ := carried record' current'
    rw [flag]
    exact admitted record busy' current (busy busy' role (.inr active)) active (turn ▸ own)
  · intro record' current' inside
    obtain ⟨record, current, turn, flag, -, -⟩ := carried record' current'
    rw [flag]
    exact called record current (turn ▸ inside)

/-- A new turn has an identifier that was never handed out. -/
theorem accept {turn : TurnRecord} (control : Controlled rt worker.role callers turns)
    (current : rt'.currentTurn = some turn) (fresh : turn.turnId = turns + 1) (flag : turn.lowerStartAdmitted = false)
    (logged : rt'.Logged turn.turnId .turnAccepted) (log : rt.log <+: rt'.log) :
    StartsOnce rt' worker (turns + 1) calls ended := by
  obtain ⟨once, accepted, apart, known, waiting, queued, unclaimed, claimed, admitted, called⟩ := starts
  have above : ∀ {other}, other ≤ turns → turn.turnId ≠ other := by
    intro other low same
    rw [fresh] at same
    exact Nat.not_succ_le_self turns (Nat.le_trans (Nat.le_of_eq same) low)
  constructor
  · exact once
  · exact fun turn inside => (accepted turn inside).grow log
  · exact apart
  · exact fun turn inside => Nat.le_succ_of_le (known turn inside)
  · intro other waits
    obtain ⟨fresh, open', logged⟩ := waiting other waits
    exact ⟨fresh, open', logged.grow log⟩
  · intro record' current' _
    cases current.symm.trans current'
    exact ⟨fun inside => above (known _ (.inr inside)) rfl, logged⟩
  · intro record' current' _
    cases current.symm.trans current'
    exact flag
  · intro record' busy current' role _ own
    cases current.symm.trans current'
    exact flag
  · intro record' busy current' role _ own
    cases current.symm.trans current'
    exact absurd own (above (control.known.worker busy role))
  · intro record' current' inside
    cases current.symm.trans current'
    exact absurd rfl (above (known _ (.inl inside)))

/-- The worker takes a queued turn. -/
theorem claim {turn : TurnRecord} (current : rt.currentTurn = some record) (queued : record.projection = .queued)
    (current' : rt'.currentTurn = some turn) (same : turn.turnId = record.turnId)
    (claimed : turn.projection = .starting false) (flag : turn.lowerStartAdmitted = false) (log : rt'.log = rt.log) :
    StartsOnce rt' (.claimed record.turnId prompt) turns calls ended := by
  have fresh : record.turnId ∉ calls := by
    intro inside
    have out := starts.unclaimed record current (by simp [queued])
    cases out.symm.trans (starts.called record current inside)
  have grow : ∀ {turn}, rt.Logged turn .turnAccepted → rt'.Logged turn .turnAccepted :=
    fun was => was.grow (log ▸ List.prefix_rfl)
  obtain ⟨open', logged⟩ := starts.queued record current queued
  refine ⟨starts.once, fun turn inside => grow (starts.accepted turn inside), starts.apart, starts.known,
    ?_, ?_, ?_, ?_, ?_, ?_⟩
  · intro turn waits
    cases waits
    exact ⟨fresh, open', grow logged⟩
  · intro other now' queued'
    cases current'.symm.trans now'
    cases claimed.symm.trans queued'
  · intro other now' _
    cases current'.symm.trans now'
    exact flag
  · intro other busy now' _ _ _
    cases current'.symm.trans now'
    exact flag
  · intro other busy now' role active
    cases role
    cases active
  · intro other now' inside
    cases current'.symm.trans now'
    rw [same] at inside
    exact absurd inside fresh

end

/-- The worker is let through to the orchestrator. -/
theorem letThrough (starts : StartsOnce rt (.claimed turn prompt) turns calls ended)
    (claimed : ¬record.projection.Unclaimed) :
    StartsOnce { rt with currentTurn := some { record with lowerStartAdmitted := true } }
      (.admitted turn prompt) turns calls ended := by
  refine ⟨starts.once, starts.accepted, starts.apart, starts.known, starts.waiting, ?_, ?_, ?_, ?_, ?_⟩
  · intro other now' queued
    cases now'
    exact absurd (by rw [show record.projection = .queued from queued]; trivial) claimed
  · intro other now' ends
    cases now'
    exact absurd ends claimed
  · intro other busy now' role active
    cases role
    cases active
  · intro other busy now' _ _ _
    cases now'
    rfl
  · intro other now' _
    cases now'
    rfl

/-- The orchestrator's start is called. -/
theorem call (starts : StartsOnce rt (.admitted turn prompt) turns calls ended)
    (control : Controlled rt (some ⟨.launching, turn⟩) callers turns) (role : worker'.role = some ⟨.launching, turn⟩)
    (gone : worker'.toStart = none) : StartsOnce rt worker' turns (calls ++ [turn]) ended := by
  obtain ⟨fresh, open', logged⟩ := starts.waiting turn rfl
  refine ⟨?_, ?_, ?_, ?_, ?_, starts.queued, starts.unclaimed, ?_, ?_, ?_⟩
  · rw [← List.concat_eq_append]
    exact starts.once.concat fresh
  · intro other inside
    obtain was | new := List.mem_append.mp inside
    · exact starts.accepted other was
    · rw [List.mem_singleton.mp new]
      exact logged
  · intro other early inside
    obtain was | new := List.mem_append.mp inside
    · exact starts.apart other early was
    · rw [List.mem_singleton.mp new] at early
      exact open' early
  · intro other inside
    obtain called | early := inside
    · obtain was | new := List.mem_append.mp called
      · exact starts.known other (.inl was)
      · rw [List.mem_singleton.mp new]
        exact control.known.worker _ rfl
    · exact starts.known other (.inr early)
  · intro other waits
    cases gone.symm.trans waits
  · intro record busy current has active own
    cases role.symm.trans has
    cases active
  · intro record busy current has active own
    cases role.symm.trans has
    exact starts.admitted record _ current rfl rfl own
  · intro record current inside
    obtain was | new := List.mem_append.mp inside
    · exact starts.called record current was
    · exact starts.admitted record _ current rfl rfl (List.mem_singleton.mp new)

end StartsOnce

namespace Sys

variable {inner : Inner} {runner : CloudTaskRunner} {sys sys' : Sys} {i : Nat} {calls ended : List TurnId}
  {label : Label}

/-- `StartsOnce` of a system and its observer's record. -/
def StartsOnce (sys : Sys) (calls ended : List TurnId) : Prop :=
  Session.StartsOnce sys.runtime sys.worker sys.turns calls ended

/-- No step takes an event back. -/
theorem step_log (stepped : sys.step inner runner label = some sys') : sys.runtime.log <+: sys'.runtime.log := by
  cases command : label.isSubscriber with
  | false =>
      have published : RuntimeState.Publishes False inner sys.runtime sys'.runtime :=
        step_publishes False.elim False.elim command stepped
      exact published.log
  | true =>
      cases label with
      | subscribe session afterSeq =>
          cases Option.some.inj stepped
          obtain ⟨error, refused⟩ | ⟨-, -, accepted⟩ :=
            RuntimeState.subscribe_cases inner sys.runtime session afterSeq
          · simp only [refused, List.prefix_rfl]
          · simp only [accepted, RuntimeState.registering, List.prefix_rfl]
      | receive subscriber | dropReceiver subscriber =>
          cases Option.some.inj stepped
          exact List.prefix_rfl
      | _ => cases command

section

variable (starts : sys.StartsOnce calls ended)

include starts

theorem StartsOnce.keep (evolves : Evolves (fun _ => True) sys.runtime.currentTurn sys'.runtime.currentTurn)
    (log : sys.runtime.log <+: sys'.runtime.log) (turns : sys'.turns = sys.turns)
    (follows : sys.worker.TakesNone sys'.worker) : sys'.StartsOnce calls ended := by
  unfold Sys.StartsOnce
  rw [turns]
  exact Session.StartsOnce.carry starts (.of_evolves evolves) log follows

theorem StartsOnce.carries (carries : RuntimeState.Carries False False (fun _ => True) inner sys.runtime sys'.runtime)
    (log : sys.runtime.log <+: sys'.runtime.log) (turns : sys'.turns = sys.turns)
    (follows : sys.worker.TakesNone sys'.worker) : sys'.StartsOnce calls ended :=
  starts.keep carries.evolves log turns follows

theorem StartsOnce.startTurn (control : sys.Controlled) (prompt : CloudPrompt) : StartsOnce { sys with
      runtime := (sys.runtime.startTurn inner (sys.turns + 1) prompt).2
      turns := sys.turns + 1 } calls ended := by
  obtain same | ⟨-, -, -, -, accepted⟩ := RuntimeState.startTurn_cases inner sys.runtime (sys.turns + 1) prompt
  · rw [same]
    exact { starts with known := fun turn inside => Nat.le_succ_of_le (starts.known turn inside) }
  · unfold Sys.StartsOnce
    rw [accepted]
    exact Session.StartsOnce.accept starts control rfl rfl rfl (by simp) (List.prefix_append _ _)

theorem StartsOnce.nextAction {action : RuntimeState.WorkerAction} {runtime : RuntimeState} (control : sys.Controlled)
    (taken : sys.runtime.nextWorkerAction inner sys.now = some (action, runtime))
    (log : sys.runtime.log <+: runtime.log) :
    StartsOnce { sys with runtime := runtime, worker := chosen action } calls ended := by
  obtain ⟨-, rfl, rfl⟩ | ⟨record, -, current, -, rfl, rfl⟩ | ⟨record, prompt, -, current, work, rfl, rfl⟩ |
    ⟨turn, prompt, work, missing, -⟩ | ⟨turn, due, failures, -, -, rfl, rfl⟩ :=
    RuntimeState.nextWorkerAction_cases taken
  · exact starts.keep (.stopWorker .shutdown) log rfl (.free rfl nofun)
  · exact starts.keep (.flagged current rfl rfl rfl) log rfl (.free rfl (by rintro busy ⟨⟩; simp))
  · obtain ⟨other, current', -, queued⟩ := (Control.runtime control).start _ _ work
    cases current.symm.trans current'
    exact Session.StartsOnce.claim starts current queued rfl rfl rfl rfl rfl
  · exact (control.start_named work missing).elim
  · exact starts.keep (.refl _) log rfl (.free rfl (by rintro busy ⟨⟩; simp))

theorem StartsOnce.admitStart (control : sys.Controlled) (worker : sys.worker = .claimed turn prompt)
    (log : sys.runtime.log <+: (sys.runtime.admitStart inner turn).2.log) :
    StartsOnce { sys with
      runtime := (sys.runtime.admitStart inner turn).2
      worker := if (sys.runtime.admitStart inner turn).1 then .admitted turn prompt else .idle } calls ended := by
  obtain ⟨-, stops⟩ | fails | ⟨record, -, current, same, ⟨-, -, cancels⟩ | ⟨unasked, admits⟩⟩ :=
    RuntimeState.admitStart_cases inner sys.runtime turn
  · rw [stops] at log ⊢
    exact starts.keep (.stopWorker .shutdown) log rfl (.free rfl nofun)
  · rw [fails] at log ⊢
    exact starts.carries (.stopAfterLowerFailure turn) log rfl (.free rfl nofun)
  · rw [cancels] at log ⊢
    have out := starts.claimed record _ current (congrArg Worker.role worker) rfl same
    have carried : Carried sys.runtime.currentTurn (some { record with
        projection := .canceledBeforeCloudStart, cancelInProgress := false, cancelCompleted := true }) := by
      rw [current]
      exact .early rfl rfl out (by simp)
    exact Session.StartsOnce.carry starts carried log (.free rfl nofun)
  · rw [admits]
    have shown := (Control.worker control).claiming _ record (congrArg Worker.role worker) current same rfl
    have starts : Session.StartsOnce sys.runtime (.claimed turn prompt) sys.turns calls ended := worker ▸ starts
    refine Session.StartsOnce.letThrough starts fun unclaimed => ?_
    obtain starting | asked := shown
    · rw [starting] at unclaimed
      exact unclaimed
    · rw [unasked] at asked
      cases asked

/-- What a step does to the calls and to the turns that wait for one. -/
theorem StartsOnce.step (control : sys.Controlled) (stepped : sys.step inner runner label = some sys') :
    sys'.StartsOnce (Watched.called ⟨sys, calls, ended⟩ label) ended := by
  have log := step_log stepped
  have beside : ∀ {worker : Worker}, sys.worker = worker → worker.startCall = none →
      Watched.called ⟨sys, calls, ended⟩ .worker = calls := by
    rintro worker rfl none
    simp [Watched.called, none]
  have called : label ≠ .worker → Watched.called ⟨sys, calls, ended⟩ label = calls := by
    intro command
    cases label with
    | worker => exact absurd rfl command
    | _ => rfl
  cases step_moves stepped with
  | startTurn prompt => exact starts.startTurn control prompt
  | cancelTurn actor idle => exact starts.carries (.cancelTurn actor) log rfl (.refl _)
  | shutdown idle => exact starts.carries (.requestShutdown False.elim) log rfl (.refl _)
  | subscribe session afterSeq =>
      have same := (RuntimeState.subscribe_quiet inner sys.runtime session afterSeq).currentTurn
      exact starts.keep (by rw [same]; exact .refl _) log rfl (.refl _)
  | receive subscriber | dropReceiver subscriber | elapse duration | enterResolve idle entered
  | cancelPass caller ran | reconcile caller ran | resolve caller ran =>
      exact starts.keep (.refl _) log rfl (.refl _)
  | advance handle next command calm same =>
      rw [called command]
      exact starts.keep (.refl _) log rfl (.refl _)
  | commitCancel caller => exact starts.carries (.commitCancelResult trivial) log rfl (.refl _)
  | releaseCancel caller reply => exact starts.keep (.updateTurn fun _ => .flags _ _) log rfl (.refl _)
  | commitReconcile caller candidates => exact starts.carries (.commitReconcile False.elim) log rfl (.refl _)
  | commitResolve caller own => exact starts.carries (.commitResolve trivial) log rfl (.refl _)
  | nextAction worker taken =>
      rw [beside worker rfl]
      exact starts.nextAction control taken log
  | admitStart worker =>
      rw [beside worker rfl]
      exact starts.admitStart control worker log
  | @startBegin turn prompt result process worker ran =>
      have calling : Watched.called ⟨sys, calls, ended⟩ .worker = calls ++ [turn] := by
        simp [Watched.called, worker, Worker.startCall]
      rw [calling]
      have starts : Session.StartsOnce sys.runtime (.admitted turn prompt) sys.turns calls ended := worker ▸ starts
      have role : sys.worker.role = some ⟨.launching, turn⟩ := congrArg Worker.role worker
      have control : Session.Controlled sys.runtime (some ⟨.launching, turn⟩) sys.callers sys.turns :=
        role ▸ control
      cases result with
      | ok ticket => exact starts.call control rfl rfl
      | error error => exact starts.call control rfl rfl
  | @startSubmit turn ticket prompt result process worker ran =>
      rw [beside worker rfl]
      have role : sys.worker.role = some ⟨.launching, turn⟩ := congrArg Worker.role worker
      refine starts.keep (.refl _) log rfl ?_
      cases result with
      | ok submitted | error error => exact ⟨nofun, by rintro busy ⟨⟩ _; exact role⟩
  | startCommit worker ran =>
      rw [beside worker rfl]
      exact starts.keep (.refl _) log rfl
        ⟨nofun, by rintro busy ⟨⟩ _; exact congrArg Worker.role worker⟩
  | startResult worker =>
      rw [beside worker rfl]
      refine starts.carries (.handleStartResult nofun False.elim fun _ _ => trivial) log rfl ?_
      dsimp only
      split
      · exact .free rfl (by rintro busy ⟨⟩; simp)
      · exact .free rfl nofun
  | inspect worker ran =>
      rw [beside worker rfl]
      exact starts.keep (.refl _) log rfl (.free rfl (by rintro busy ⟨⟩; simp))
  | monitorResult worker =>
      rw [beside worker rfl]
      exact starts.carries (.handleMonitorResult nofun nofun fun _ _ => trivial) log rfl (.free rfl nofun)
  | @workerPass turn afterStart result process worker ran =>
      rw [beside worker rfl]
      refine starts.keep (.refl _) log rfl ?_
      rcases result with error | lifecycle | op
      · exact .free rfl (by rintro busy ⟨⟩; simp)
      · exact .free rfl (by rintro busy ⟨⟩; simp)
      · exact .free rfl (by rintro busy ⟨⟩; simp)
  | workerCommit worker committed =>
      rw [beside worker rfl]
      exact starts.carries (.commitWorkerCancel nofun trivial committed) log rfl (.free rfl nofun)
  | workerDrop worker refused =>
      rw [beside worker rfl]
      refine starts.keep (.refl _) log rfl ?_
      dsimp only
      split
      · exact .free rfl nofun
      · exact .free rfl (by rintro busy ⟨⟩; simp)
  | workerFail worker =>
      have none : sys.worker.startCall = none := by
        obtain worker | ⟨_, _, worker⟩ := worker <;> rw [worker] <;> rfl
      rw [beside rfl none]
      exact starts.carries (.stopAfterLowerFailure _) log rfl (.free rfl nofun)

end

end Sys

namespace Watched

variable {inner : Inner} {runner : CloudTaskRunner} {env : Nat → Answers} {watched : Watched}

theorem reachable_sys (reachable : (system inner runner env).Reachable watched) :
    (Sys.system inner runner env).Reachable watched.sys := by
  apply reachable.invariant
  · intro watched begins
    exact .initial begins.1
  · intro watched label watched' _ before _ stepped
    obtain ⟨sys', moved, rfl⟩ := Option.map_eq_some_iff.mp stepped
    exact .step before trivial moved

/-- Nothing was called before a session began, and its first turn shows an operation. -/
theorem startsOnce_new {process : Process} {sys : Sys} (built : Sys.new inner process = some sys) :
    sys.StartsOnce [] [] := by
  obtain ⟨process', result, built, -⟩ := Sys.build_of_new built
  obtain ⟨rt, starts, begun, rfl⟩ := Sys.build_cases built
  have shown : ∀ record, rt.currentTurn = some record → ∃ lifecycle, record.projection = .cloud lifecycle false := by
    intro record current
    obtain rfl | ⟨lifecycle, work, -, -, -, rfl⟩ := Sys.initialState_cases begun
    · cases current
    · cases current
      exact ⟨lifecycle, rfl⟩
  have claimed : ∀ record, rt.currentTurn = some record → ¬record.projection.Unclaimed := by
    intro record current
    obtain ⟨lifecycle, projection⟩ := shown record current
    simp [projection]
  constructor
  case queued =>
    intro record current queued
    exact absurd (by simp [queued]) (claimed record current)
  case unclaimed => exact fun record current unclaimed => absurd unclaimed (claimed record current)
  all_goals first | (simp; done) | (intros; simp_all [Worker.toStart, Worker.role])

theorem startsOnce_reachable (reachable : (system inner runner env).Reachable watched) :
    watched.sys.StartsOnce watched.calls watched.ended := by
  apply reachable.invariant
  · rintro ⟨sys, calls, ended⟩ ⟨⟨process, -, built⟩, none, nothing⟩
    dsimp only at *
    rw [none, nothing]
    exact startsOnce_new built
  · intro watched label watched' before starts _ stepped
    obtain ⟨sys', moved, rfl⟩ := Option.map_eq_some_iff.mp stepped
    have control := Sys.controlled_reachable (reachable_sys before)
    exact Session.StartsOnce.observe (starts.step control moved) (control.step moved)

/-- In every run the orchestrator's start is called at most once for a turn, and only when the
acceptance of the turn is in the log; it is never called for a turn that is seen to end before. -/
theorem one_lower_start_per_turn (reachable : (system inner runner env).Reachable watched) :
    watched.calls.Nodup ∧
    (∀ turn, watched.sys.worker.startCall = some turn → watched.sys.runtime.Logged turn .turnAccepted) ∧
    ∀ turn ∈ watched.ended, turn ∉ watched.calls ∧ watched.sys.worker.startCall ≠ some turn := by
  have starts := startsOnce_reachable reachable
  have waiting : ∀ {turn}, watched.sys.worker.startCall = some turn → watched.sys.worker.toStart = some turn := by
    intro turn next
    cases worker : watched.sys.worker with
    | admitted turn' prompt =>
        rw [worker] at next
        exact next
    | _ =>
        rw [worker] at next
        cases next
  refine ⟨starts.once, ?_, ?_⟩
  · intro turn next
    exact (starts.waiting turn (waiting next)).2.2
  · intro turn early
    exact ⟨starts.apart turn early, fun next => (starts.waiting turn (waiting next)).2.1 early⟩

end Watched

/-- The first turn's start is called once and the turn was accepted before. -/
theorem first_turn_starts_once :
    ∃ watched : Watched, (Watched.system plainInner plainRunner fun _ => plainAnswers).Reachable watched ∧
      watched.calls = [2] ∧ watched.calls.Nodup := by
  have first : Sys.first plainInner plainRunner (fun _ => plainAnswers) = some _ := rfl
  have begun : (Watched.system plainInner plainRunner fun _ => plainAnswers).Reachable ⟨_, [], []⟩ :=
    .initial ⟨Sys.first_initial first, rfl, rfl⟩
  have reachable := begun.run (show (Watched.system plainInner plainRunner fun _ => plainAnswers).run _
    [.startTurn ⟨['p']⟩, .worker, .worker, .worker] = some _ from rfl)
  exact ⟨_, reachable, rfl, (Watched.one_lower_start_per_turn reachable).1⟩

end Codebox.Session
