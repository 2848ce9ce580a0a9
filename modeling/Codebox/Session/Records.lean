import Mathlib.Logic.Relation
import Codebox.Session.ControlRuns

/-! # What becomes of the current turn

Every section but three changes the record of the current turn only by a few small steps, none of
which touches its admission. The three are the acceptance of a new turn, the claim of a queued one
and the admission of a claimed one.
-/

namespace Codebox.Session

open Codebox.Support Codebox.Cloud

/-- A change of a turn's record that keeps its admission and shows only certain lifecycles. -/
inductive TurnRecord.Step (allowed : P0CloudLifecycle → Prop) (record : TurnRecord) : TurnRecord → Prop where
  | flags (inProgress completed : Bool) :
      Step allowed record { record with cancelInProgress := inProgress, cancelCompleted := completed }
  | requestCancel : Step allowed record { record with projection := record.projection.requestCancel }
  | display {lifecycle : P0CloudLifecycle} (asked : Bool) (fine : allowed lifecycle) :
      Step allowed record { record with projection := .cloud lifecycle asked }
  | degrade {pending : P0CloudLifecycle} (asked : Bool) (shown : record.projection.lifecycle = some pending)
      (waits : pending.isPending = true) :
      Step allowed record { record with projection := .monitoringDegraded pending.operationId pending asked }
  | cancelQueued (queued : record.projection = .queued) :
      Step allowed record { record with projection := .canceledBeforeCloudStart }
  | stopEarly (waiting : record.projection = .queued ∨ RuntimeState.startNotAdmitted record = true) :
      Step allowed record { record with projection := .stoppedBeforeCloudStart }
  | fail : Step allowed record { record with projection := .stoppedAfterLowerFailure }

/-- The current turn stays, and its record goes through small steps. -/
def Evolves (allowed : P0CloudLifecycle → Prop) (before after : Option TurnRecord) : Prop :=
  ∀ record', after = some record' → ∃ record, before = some record ∧
    Relation.ReflTransGen (TurnRecord.Step allowed) record record'

theorem RuntimeState.currentTurn_latchUnknown (rt : RuntimeState) (projected : P0CloudLifecycle) :
    (rt.latchUnknown projected).currentTurn = rt.currentTurn := by
  unfold RuntimeState.latchUnknown
  split <;> rfl

namespace Evolves

variable {inner : Inner} {rt : RuntimeState} {turn : TurnId} {record record' : TurnRecord}
  {projected : P0CloudLifecycle} {allowed : P0CloudLifecycle → Prop}

theorem refl (current : Option TurnRecord) : Evolves allowed current current :=
  fun record same => ⟨record, same, .refl⟩

theorem trans {before mid after : Option TurnRecord} (first : Evolves allowed before mid) (second : Evolves allowed mid after) :
    Evolves allowed before after := by
  intro record'' found
  obtain ⟨record', found, later⟩ := second record'' found
  obtain ⟨record, found, sooner⟩ := first record' found
  exact ⟨record, found, sooner.trans later⟩

theorem one (current : rt.currentTurn = some record) (step : record.Step allowed record') :
    Evolves allowed rt.currentTurn (some record') := by
  intro other found
  cases found
  exact ⟨record, current, .single step⟩

theorem two {mid : TurnRecord} (current : rt.currentTurn = some record) (first : record.Step allowed mid)
    (second : mid.Step allowed record') : Evolves allowed rt.currentTurn (some record') := by
  intro other found
  cases found
  exact ⟨record, current, (Relation.ReflTransGen.single first).tail second⟩

theorem flagged (current : rt.currentTurn = some record) (turn : record'.turnId = record.turnId)
    (same : record'.projection = record.projection) (admitted : record'.lowerStartAdmitted = record.lowerStartAdmitted) :
    Evolves allowed rt.currentTurn (some record') := by
  obtain ⟨turnId, projection, inProgress, completed, lowerStartAdmitted⟩ := record'
  cases turn
  cases same
  cases admitted
  exact .one current (.flags _ _)

theorem updateTurn {f : TurnRecord → TurnRecord} (small : ∀ record : TurnRecord, record.Step allowed (f record)) :
    Evolves allowed rt.currentTurn (rt.updateTurn turn f).currentTurn := by
  cases named : rt.turnNamed turn with
  | none =>
      rw [RuntimeState.updateTurn_other named]
      exact .refl _
  | some record =>
      obtain ⟨current, same⟩ := RuntimeState.turnNamed_eq_some.mp named
      rw [RuntimeState.updateTurn_current current same]
      exact .one current (small record)

theorem showing {completed : Bool} (fine : allowed projected) (current : rt.currentTurn = some record) :
    Evolves allowed rt.currentTurn (rt.showing record projected completed).currentTurn :=
  .two current (.display record.projection.isCancelRequested fine) (.flags _ _)

theorem stopWorker (reason : P0RuntimeStopReason) :
    Evolves allowed rt.currentTurn (RuntimeState.stopWorker inner rt reason).currentTurn := by
  obtain stopped | up := rt.workerStopped.eq_false_or_eq_true
  · rw [RuntimeState.stopWorker_stopped stopped]
    exact .refl _
  · rw [(RuntimeState.stopWorker_running inner rt up reason).currentTurn]
    intro record' found
    obtain ⟨record, current, rfl⟩ := Option.map_eq_some_iff.mp found
    refine ⟨record, current, ?_⟩
    unfold RuntimeState.turnAtStop
    split
    · rename_i out
      exact .single (.stopEarly (.inr out.2))
    · exact .refl

end Evolves

end Codebox.Session
