import Codebox.Cloud.Lasting
import Codebox.Session.Displayed
import Codebox.Session.Monotone

/-! # Durable before shown

The lifecycles that a session shows and publishes are answers of the orchestrator, and the
orchestrator answers with the record in memory. That record was once the content of the lifecycle
file, whatever became of the writes, so nothing is shown that was not durable before.
-/

namespace Codebox.Session

open Codebox.Support Codebox.Cloud

namespace Sys

variable {inner : Inner} {runner : CloudTaskRunner} {env : Nat → Answers} {sys sys' : Sys} {label : Label}
  {lifecycle : P0CloudLifecycle}

/-- The lifecycle file described this lifecycle at some time. -/
def Filed (sys : Sys) (lifecycle : P0CloudLifecycle) : Prop :=
  ∃ ledger ∈ lifecycleRecords sys.process.host.trace, ledger.lifecycle = .ok lifecycle

theorem filed_of_held (reachable : (system inner runner env).Reachable sys)
    (held : ∃ ledger, sys.process.state.ledger = some ledger ∧ ledger.lifecycle = .ok lifecycle) :
    sys.Filed lifecycle := by
  obtain ⟨ledger, memory, described⟩ := held
  exact ⟨ledger, Machine.recorded_reachable (machine_reachable reachable) ledger (.inr memory), described⟩

theorem Filed.step (reachable : (system inner runner env).Reachable sys) (filed : sys.Filed lifecycle)
    (stepped : sys.step inner runner label = some sys') : sys'.Filed lifecycle := by
  obtain ⟨ledger, written, described⟩ := filed
  refine ⟨ledger, ?_, described⟩
  have kept : sys.machine.Keeps fun p => ledger ∈ lifecycleRecords p.host.trace := written
  have later : sys'.machine.Keeps fun p => ledger ∈ lifecycleRecords p.host.trace := by
    obtain same | ⟨call, moved⟩ := machine_step stepped
    · rw [same]
      exact kept
    · have inv : MachineInv False runner sys.machine := machineInv_reachable False.elim (machine_reachable reachable)
      exact kept.step (lasting_written ledger) inv moved
  exact later

/-- What the session holds, displays and has published was in the file. -/
structure Durable (sys : Sys) : Prop where
  holds : sys.Holds fun _ => sys.Filed
  displayed : sys.Displayed sys.Filed
  reports : sys.runtime.Reports sys.Filed

theorem Reports.step {allowed : P0CloudLifecycle → Prop} (reports : sys.runtime.Reports allowed)
    (holds : sys.Holds fun _ => allowed) (stepped : sys.step inner runner label = some sys') :
    sys'.runtime.Reports allowed := by
  cases command : label.isSubscriber with
  | false =>
      have writes : RuntimeState.Writes False False allowed inner sys.runtime sys'.runtime :=
        step_writes nofun False.elim False.elim holds command stepped
      exact writes.reports reports
  | true =>
      cases label with
      | subscribe session afterSeq =>
          cases Option.some.inj stepped
          intro event logged
          rw [RuntimeState.subscribe_log] at logged
          exact reports event logged
      | receive subscriber | dropReceiver subscriber =>
          cases Option.some.inj stepped
          exact reports
      | _ => cases command

theorem Durable.step (durable : sys.Durable) (reachable : (system inner runner env).Reachable sys)
    (stepped : sys.step inner runner label = some sys') : sys'.Durable := by
  have later : ∀ lifecycle, sys.Filed lifecycle → sys'.Filed lifecycle := fun _ filed => filed.step reachable stepped
  have control := controlled_reachable reachable
  have holds : sys.Holds fun _ => sys'.Filed := durable.holds.mono fun _ => later
  have displayed : sys.Displayed sys'.Filed := fun record current =>
    { durable.displayed record current with
      known := fun lifecycle shown => later _ ((durable.displayed record current).known lifecycle shown) }
  have reports : sys.runtime.Reports sys'.Filed := fun event logged lifecycle same =>
    later _ (durable.reports event logged lifecycle same)
  refine ⟨?_, displayed.step control holds stepped, Reports.step reports holds stepped⟩
  obtain quiet | ⟨lower, calls, ran⟩ := step_calls stepped
  · exact holds.own (own_step quiet stepped)
  · apply holds.calls calls
    intro command lifecycle answered
    exact filed_of_held (reachable.step trivial stepped) (orchestrated_calls reachable calls ran _ _ answered).2

/-- What an inspection tells is what memory then holds, an unknown outcome included. -/
theorem held_of_told {p process : Process} {result : Except CloudLifecycleError CloudLifecycle} {lifecycle : CloudLifecycle}
    (valid : ∀ ledger, p.state.ledger = some ledger → ledger.Valid) (ran : Returned (Cloud.inspect p) result process)
    (told : Told result lifecycle) : ∃ ledger, process.state.ledger = some ledger ∧ ledger.lifecycle = .ok lifecycle := by
  have spec : Cloud.inspect.wp
      (fun shown p' => ∃ ledger, p'.state.ledger = some ledger ∧ ledger.lifecycle = .ok shown)
      (fun error p' => error.category = .outcomeUnknown → ∃ ledger op, p'.state.ledger = some ledger ∧
        ledger.lifecycle = .ok (.outcomeUnknown op) ∧ error.operationId = some op) (fun _ => True) p := by
    apply wp_inspect valid
    · intro ledger shown found projected _ _
      exact ⟨ledger, found, projected⟩
    · intro error time unknown
      exact unknown
    · exact fun _ => trivial
    · intro ledger next task status shown time _ _ _ _ projected
      rw [Commits, persistAfterEffect, Proc.wp_mapError]
      -- A failed write asks for recovery, which no start-up takes for an unknown outcome.
      apply wp_persist_hosts
      · exact fun _ _ => ⟨next, rfl, projected⟩
      · exact fun _ _ unknown => by cases unknown
      · exact fun _ _ unknown => by cases unknown
      · exact fun _ => trivial
  obtain rfl | ⟨op, error, rfl, rfl, unknown, named⟩ := told
  · exact of_returned spec ran
  · have ran : Cloud.inspect p = (.error error, process) := ran
    simp only [Proc.wp, ran] at spec
    obtain ⟨ledger, op', found, described, named'⟩ := spec unknown
    cases named.symm.trans named'
    exact ⟨ledger, found, described⟩

theorem durable_reachable (reachable : (system inner runner env).Reachable sys) : sys.Durable := by
  apply reachable.invariant
  · intro sys initial
    obtain ⟨process, up, begun⟩ := id initial
    obtain ⟨process', result, built, ran⟩ := build_of_new begun
    have inv : MachineInv False runner (.up process none) := machineInv_reachable False.elim up
    refine ⟨.build built, .build built ?_, ?_⟩
    · intro lifecycle told _
      apply filed_of_held (.initial initial)
      rw [(build_lower built).1]
      exact held_of_told (fun ledger found => (inv.1.accounted found).valid) ran told
    · have silent : sys.runtime.log = [] := congrArg Feed.log (build_feed built)
      intro event logged
      rw [silent] at logged
      cases logged
  · intro sys label sys' before durable _ stepped
    exact durable.step before stepped

/-- A lifecycle that was published or is on display was the content of the lifecycle file before. -/
theorem lifecycles_durable_first (reachable : (system inner runner env).Reachable sys) {lifecycle : P0CloudLifecycle}
    (seen : (∃ event ∈ sys.runtime.log, event.payload = .lifecycleChanged lifecycle) ∨
      ∃ record, sys.runtime.currentTurn = some record ∧ record.projection.lifecycle = some lifecycle) :
    ∃ ledger ∈ lifecycleRecords sys.process.host.trace, ledger.lifecycle = .ok lifecycle := by
  have durable := durable_reachable reachable
  obtain ⟨event, logged, reported⟩ | ⟨record, current, shown⟩ := seen
  · exact durable.reports event logged lifecycle reported
  · exact (durable.displayed record current).known lifecycle shown

end Sys

theorem first_turn_durable :
    ∃ sys : Sys, (Sys.system plainInner plainRunner fun _ => plainAnswers).Reachable sys ∧
      (∃ event ∈ sys.runtime.log, event.payload = .lifecycleChanged (.pending firstOperation listedTask)) ∧
      ∃ ledger ∈ lifecycleRecords sys.process.host.trace, ledger.lifecycle = .ok (.pending firstOperation listedTask) := by
  have found : (Sys.scheduled plainInner plainRunner (fun _ => plainAnswers)
      [.startTurn ⟨['p']⟩, .worker, .worker, .worker, .worker, .worker, .worker]).map
      (fun sys => sys.runtime.log.map (·.payload)) =
        some [.turnAccepted, .lifecycleChanged (.pending firstOperation listedTask)] := by decide +kernel
  obtain ⟨sys, ran, published⟩ := Option.map_eq_some_iff.mp found
  have logged : .lifecycleChanged (.pending firstOperation listedTask) ∈ sys.runtime.log.map (·.payload) := by
    simp [published]
  have logged := List.mem_map.mp logged
  exact ⟨sys, Sys.scheduled_reachable ran, logged,
    Sys.lifecycles_durable_first (Sys.scheduled_reachable ran) (.inl logged)⟩

end Codebox.Session
