import Codebox.Cloud.Recovery

/-! # What a restart makes of an interrupted operation

A process may die between any two of its writes. The two files it leaves agree well enough that a
restart always finds out how far the operation came, and writes that down; a second restart has
nothing left to repair.
-/

namespace Codebox.Cloud

open Codebox.Support Proc Codebox.Host

/-! ## What the submit file says -/

/-- What an operation has come to whose submit record ends with this phase. A record that never got
to its child submitted nothing; a child that may have run without naming a task leaves it open. -/
def CloudLedgerPhase.outcome (task : Option CloudTaskId) :
    CloudLedgerPhase → CloudLifecyclePhase × Option CloudTaskId
  | intent | failedBeforeSpawn => (.failedBeforeSubmit, none)
  | authorized | started | outcomeUnknown | reconciliationObserved => (.outcomeUnknown, none)
  | taskRecorded | taskAdopted => (.pending, task)
  | explicitlyAbandoned => (.abandonedUnknown, none)

/-- What the submit file says an interrupted operation has come to: nothing was submitted without a
record of the operation. -/
def interruptedOutcome (op : CloudSubmitOperationId) :
    Option CloudSubmitLedger → CloudLifecyclePhase × Option CloudTaskId
  | none => (.failedBeforeSubmit, none)
  | some submit =>
      if submit.operationId = op then submit.latest.outcome submit.taskId
      else (.failedBeforeSubmit, none)

def CloudLifecycleLedger.Interrupted (ledger : CloudLifecycleLedger) : Prop :=
  ledger.phase = .submitting ∨ ledger.phase = .outcomeUnknown

variable {runner : CloudTaskRunner} {h : Host} {current : CloudLifecycleLedger}
  {file : Option CloudSubmitLedger} {op : CloudSubmitOperationId} {submit : CloudSubmitLedger}
  {observation : CloudSubmitObservation} {p : Process}

theorem outcome_classified (phase : CloudLedgerPhase) (task : Option CloudTaskId) :
    phase.classified.outcome task = phase.outcome task := by
  cases phase <;> rfl

/-- Crash classification does not change what the file says. -/
theorem interruptedOutcome_recovered :
    interruptedOutcome op (file.map CloudSubmitLedger.recovered) = interruptedOutcome op file := by
  cases file with
  | none => rfl
  | some submit =>
      rw [Option.map_some, CloudSubmitLedger.recovered]
      split
      · rw [interruptedOutcome, interruptedOutcome, CloudSubmitLedger.latest_classify, outcome_classified]
        rfl
      · rfl

/-- The same for an observation of the operation. -/
def CloudSubmitObservation.outcome : CloudSubmitObservation → CloudLifecyclePhase × Option CloudTaskId
  | absent | failedBeforeSpawn => (.failedBeforeSubmit, none)
  | outcomeUnknown => (.outcomeUnknown, none)
  | taskRecorded submission => (.pending, some submission.taskId)
  | explicitlyAbandoned => (.abandonedUnknown, none)

theorem classifyObservation_outcome (observed : CloudTaskRunner.classifyObservation op file = .ok observation) :
    observation.outcome = interruptedOutcome op file := by
  cases file with
  | none =>
      cases observed
      rfl
  | some submit =>
      simp only [CloudTaskRunner.classifyObservation] at observed
      split at observed
      · rename_i other
        split at observed <;> cases observed
        simp [interruptedOutcome, other, CloudSubmitObservation.outcome]
      · rename_i same
        have own : submit.operationId = op := not_not.mp same
        simp only [interruptedOutcome, own, if_true]
        cases phase : submit.latest <;> simp only [phase] at observed
        case taskRecorded | taskAdopted =>
          obtain ⟨task, recorded, rfl⟩ := exceptMap_eq_ok.mp observed
          cases held : submit.taskId <;>
            simp_all [CloudTaskRunner.recordedTaskOrInvalid, CloudSubmitLedger.recordedTask,
              CloudSubmitObservation.outcome, CloudLedgerPhase.outcome]
        case intent | authorized | started => cases observed
        case failedBeforeSpawn | outcomeUnknown | reconciliationObserved | explicitlyAbandoned =>
          cases observed
          rfl

/-- An operation whose child may have run is not observed as one that submitted nothing. -/
theorem classifyObservation_maySubmit (observed : CloudTaskRunner.classifyObservation op file = .ok observation)
    (mayRun : MaySubmit op file) : observation ≠ .absent ∧ observation ≠ .failedBeforeSpawn := by
  obtain ⟨submit, rfl, own, ran, spawned⟩ := mayRun
  simp only [CloudTaskRunner.classifyObservation, own, ne_eq, not_true_eq_false, if_false] at observed
  cases phase : submit.latest <;> simp only [phase] at observed ran spawned
  case intent | failedBeforeSpawn => simp at ran spawned
  case taskRecorded | taskAdopted =>
    obtain ⟨task, -, rfl⟩ := exceptMap_eq_ok.mp observed
    simp
  case authorized | started => cases observed
  case outcomeUnknown | reconciliationObserved | explicitlyAbandoned =>
    cases observed
    simp

theorem classifyObservation_own {submission : CloudSubmission}
    (observed : CloudTaskRunner.classifyObservation op file = .ok (.taskRecorded submission)) :
    submission.operationId = op := by
  cases file with
  | none => cases observed
  | some submit =>
      simp only [CloudTaskRunner.classifyObservation] at observed
      split at observed
      · split at observed <;> cases observed
      · split at observed
        case h_4 | h_5 =>
          obtain ⟨task, -, same⟩ := exceptMap_eq_ok.mp observed
          cases same
          rfl
        all_goals cases observed

/-- An interrupted operation can always be observed. -/
theorem classifyObservation_interrupted (coherent : Coherent False current file)
    (interrupted : current.Interrupted)
    (settled : ∀ submit, file = some submit → submit.latest.isOpen = false)
    (sound : ∀ submit, file = some submit → submit.Valid) :
    ∃ observation, CloudTaskRunner.classifyObservation current.operationId file = .ok observation := by
  cases file with
  | none => exact ⟨.absent, rfl⟩
  | some submit =>
      have closed := settled submit rfl
      by_cases own : submit.operationId = current.operationId
      · simp only [CloudTaskRunner.classifyObservation, own, ne_eq, not_true_eq_false, if_false]
        cases phase : submit.latest with
        | intent | authorized | started => simp [phase] at closed
        | taskRecorded | taskAdopted =>
            obtain ⟨task, recorded, -⟩ := (sound submit rfl).named (by simp [phase])
            simp [CloudTaskRunner.recordedTaskOrInvalid, CloudSubmitLedger.recordedTask, recorded, Except.map]
        | failedBeforeSpawn | outcomeUnknown | reconciliationObserved | explicitlyAbandoned =>
            exact ⟨_, rfl⟩
      · have idle : Idle (some submit) := by
          cases interrupted with
          | inl phase =>
              cases coherent.submitting phase with
              | inl idle => exact idle
              | inr owned =>
                  obtain ⟨_, ⟨⟩, same⟩ := owned
                  exact absurd same own
          | inr phase =>
              obtain ⟨_, ⟨⟩, same, -⟩ := coherent.unknown phase
              exact absurd same own
        have permits := idle submit rfl
        refine ⟨.absent, ?_⟩
        cases phase : submit.latest <;>
          simp_all [CloudTaskRunner.classifyObservation, CloudLedgerPhase.classified]

/-! ## The repair -/

/-- An interrupted record takes one more phase. -/
theorem append_interrupted {phase : CloudLifecyclePhase} (short : current.Short)
    (step : current.phase.validTransition phase = true) :
    current.append phase = .ok { current with history := current.history ++ [phase], phase := phase } :=
  CloudLifecycleLedger.append_eq_ok.mpr ⟨short.room, step, rfl⟩

/-- The repaired record agrees with the submit file; an unknown outcome that stays unknown is not
written again. -/
structure Repairs (current : CloudLifecycleLedger) (outcome : CloudLifecyclePhase × Option CloudTaskId)
    (result : Option CloudLifecycleLedger) : Prop where
  own : (result.getD current).operationId = current.operationId
  agrees : ((result.getD current).phase, (result.getD current).taskId) = outcome
  quiet : current.phase = .outcomeUnknown → outcome.1 = .outcomeUnknown → result = none

theorem repair_agrees (valid : current.Valid) (short : current.Short) (coherent : Coherent False current file)
    (interrupted : current.Interrupted)
    (observed : CloudTaskRunner.classifyObservation current.operationId file = .ok observation) :
    ∃ result, repairedLedger current observation = .ok result ∧ Repairs current observation.outcome result := by
  have untasked : current.taskId = none := by
    have task := valid.task
    cases interrupted with
    | inl phase => simpa [phase] using task
    | inr phase => simpa [phase] using task
  have moved : ∀ phase, current.phase.validTransition phase = true → current.phase ≠ phase →
      ∃ next, current.append phase = .ok next ∧ next.Short ∧ next.phase = phase ∧
        Repairs current (phase, none) (some next) := by
    intro phase step changed
    refine ⟨_, append_interrupted short step, short.grow step changed, rfl, rfl, by simp [untasked], ?_⟩
    intro unknown same
    exact absurd (unknown.trans same.symm) changed
  have named : ∀ submission, observation = .taskRecorded submission →
      ∃ result, repairedLedger current observation = .ok result ∧ Repairs current observation.outcome result := by
    rintro submission rfl
    let next : CloudLifecycleLedger :=
      { current with history := current.history ++ [.pending], phase := .pending, taskId := some submission.taskId }
    have step : current.phase.validTransition .pending = true := by
      rcases interrupted with phase | phase <;> rw [phase] <;> rfl
    have status : current.recordStatus submission.taskId .pending = .ok next := by
      simp [CloudLifecycleLedger.recordStatus, untasked, phaseForStatus, append_interrupted short step, Except.map, next]
    refine ⟨some next, ?_, rfl, rfl, fun _ same => by cases same⟩
    rcases interrupted with phase | phase <;>
      simp [repairedLedger, phase, classifyObservation_own observed, status, Except.map]
  cases interrupted with
  | inl phase =>
      have failed := moved .failedBeforeSubmit (by rw [phase]; rfl) (by rw [phase]; decide)
      obtain ⟨unknown, recorded, short', reached, agrees⟩ :=
        moved .outcomeUnknown (by rw [phase]; rfl) (by rw [phase]; decide)
      cases observation with
      | absent | failedBeforeSpawn =>
          obtain ⟨next, appended, -, -, repairs⟩ := failed
          exact ⟨some next, by simp [repairedLedger, phase, CloudLifecycleLedger.recordFailedBeforeSubmit,
            appended, Except.map], repairs⟩
      | outcomeUnknown =>
          exact ⟨some unknown, by simp [repairedLedger, phase, CloudLifecycleLedger.recordOutcomeUnknown,
            recorded, Except.map], agrees⟩
      | taskRecorded submission => exact named submission rfl
      | explicitlyAbandoned =>
          have step : unknown.phase.validTransition .abandonedUnknown = true := by rw [reached]; rfl
          have abandoned := append_interrupted short' step
          refine ⟨some { unknown with
            history := unknown.history ++ [.abandonedUnknown], phase := .abandonedUnknown }, ?_, ?_⟩
          · simp [repairedLedger, phase, CloudLifecycleLedger.recordOutcomeUnknown, recorded, bind, Except.bind,
              CloudLifecycleLedger.recordAbandonedUnknown, abandoned, Except.map]
          · have own := agrees.own
            have task := congrArg Prod.snd agrees.agrees
            exact ⟨own, by simpa [CloudSubmitObservation.outcome] using task, fun same => by simp [phase] at same⟩
  | inr phase =>
      have ran := classifyObservation_maySubmit observed (coherent.unknown phase)
      cases observation with
      | absent => exact absurd rfl ran.1
      | failedBeforeSpawn => exact absurd rfl ran.2
      | outcomeUnknown => exact ⟨none, by simp [repairedLedger, phase], rfl, by simp [phase, untasked]; rfl,
          fun _ _ => rfl⟩
      | taskRecorded submission => exact named submission rfl
      | explicitlyAbandoned =>
          obtain ⟨next, appended, -, -, repairs⟩ :=
            moved .abandonedUnknown (by rw [phase]; rfl) (by rw [phase]; decide)
          exact ⟨some next, by simp [repairedLedger, phase, CloudLifecycleLedger.recordAbandonedUnknown,
            appended, Except.map], repairs⟩

/-! ## Construction on files that work -/

/-- What a construction leaves: an interrupted record repaired, everything else as it was. -/
structure Constructed (h : Host) (p : Process) : Prop where
  env : p.host.env = h.env
  tick : h.tick ≤ p.host.tick
  memory : p.state.ledger = p.host.lifecycleFile
  absent : h.lifecycleFile = none → p.host.lifecycleFile = none ∧ p.host.submitFile = h.submitFile
  kept : ∀ ledger, h.lifecycleFile = some ledger → ¬ ledger.Interrupted →
    p.host.lifecycleFile = some ledger ∧ p.host.submitFile = h.submitFile
  repaired : ∀ ledger, h.lifecycleFile = some ledger → ledger.Interrupted →
    p.host.submitFile = h.submitFile.map CloudSubmitLedger.recovered ∧
      ∃ result, p.host.lifecycleFile = some (result.getD ledger) ∧
        Repairs ledger (interruptedOutcome ledger.operationId h.submitFile) result

theorem Classified.map_recovered {h' : Host} (classified : Classified h h')
    (settled : ∀ found, h'.submitFile = some found → found.latest.isOpen = false) :
    h'.submitFile = h.submitFile.map CloudSubmitLedger.recovered := by
  cases current : h.submitFile with
  | some submit => exact classified.recovered current settled
  | none =>
      cases classified with
      | same => exact current
      | closed submit _ _ found => cases current.symm.trans found

/-- Observing an interrupted operation classifies the file and returns what it then says. -/
theorem observeSubmit_reliable (inv : HostInv False runner h) (reliable : Reliable h)
    (accounted : Accounted False h current) (interrupted : current.Interrupted)
    (onOk : CloudSubmitObservation → Host → Prop) (onError : CloudRunnerError → Host → Prop)
    (onCrash : Host → Prop)
    (observes : ∀ observation h', Classified h h' →
      h'.submitFile = h.submitFile.map CloudSubmitLedger.recovered →
      CloudTaskRunner.classifyObservation current.operationId h'.submitFile = .ok observation →
      onOk observation h') :
    (runner.observeSubmit current.operationId).wp onOk onError onCrash h := by
  have acquires := succeeds_acquireScope reliable
  rw [CloudTaskRunner.observeSubmit, wp_bind]
  refine ReadOnly.succeeds_wp readOnly_acquireScope acquires fun _ time later => ?_
  have recovers : Proc.Succeeds runner.recoverCurrentLedger (h.atTime time) :=
    succeeds_recoverCurrentLedger (reliable.time later) inv.tidy.valid fun _ found => inv.configured found
  rw [wp_bind]
  apply recovers.wp
  apply wp_mono (recoverCurrentLedger_spec runner (h := h.atTime time) inv.tidy.valid) _
    (fun _ _ _ => trivial) (fun _ _ => trivial)
  rintro found h' ⟨classified, rfl, recovered⟩
  have settled : ∀ submit, h'.submitFile = some submit → submit.latest.isOpen = false :=
    fun submit found => (recovered submit found).settled
  have coherent := (accounted.onward (classified.later later).onward).coherent
  obtain ⟨observation, observed⟩ := classifyObservation_interrupted coherent interrupted settled
    fun submit found => (recovered submit found).valid
  rw [observed, wp_ofExcept_ok]
  exact observes observation h' (classified.later later) (classified.map_recovered settled) observed

theorem repairInterruptedState_reliable (inv : ProcessInv False runner p) (reliable : Reliable p.host)
    (loaded : p.state.ledger = p.host.lifecycleFile) :
    (repairInterruptedState runner).wp (fun _ => Constructed p.host) (fun _ _ => False) (fun _ => False) p := by
  rw [repairInterruptedState, wp_bind, wp_getState]
  cases found : p.state.ledger with
  | none =>
      have absent := loaded.symm.trans found
      exact ⟨rfl, Nat.le_refl _, loaded, fun _ => ⟨absent, rfl⟩, fun _ file => by simp [absent] at file,
        fun _ file => by simp [absent] at file⟩
  | some current =>
      have file := loaded.symm.trans found
      have alone : ∀ ledger, p.host.lifecycleFile = some ledger → ledger = current := fun ledger other =>
        Option.some.inj (other.symm.trans file)
      by_cases interrupted : current.Interrupted
      · have accounted := inv.accounted found
        have repairs : ¬ (current.phase ≠ .submitting ∧ current.phase ≠ .outcomeUnknown) := by
          rintro ⟨other, other'⟩
          exact interrupted.elim other other'
        simp only [if_neg repairs]
        rw [wp_bind, wp_onRunner]
        apply observeSubmit_reliable inv.host reliable accounted interrupted
        intro observation h' classified stored observed
        have onward := classified.onward
        have accounted' := accounted.onward onward
        have settled : ∀ submit, h'.submitFile = some submit → submit.latest.isOpen = false := by
          intro submit same
          rw [stored] at same
          obtain ⟨before, -, rfl⟩ := Option.map_eq_some_iff.mp same
          exact recovered_settled before
        have outcome : observation.outcome = interruptedOutcome current.operationId p.host.submitFile := by
          rw [classifyObservation_outcome observed, stored, interruptedOutcome_recovered]
        obtain ⟨result, recorded, agrees⟩ :=
          repair_agrees accounted'.valid accounted'.short accounted'.coherent interrupted observed
        rw [outcome] at agrees
        -- whatever is written, an interrupted record is the only one there is
        have constructed : ∀ p' : Process, p'.host.env = p.host.env → p.host.tick ≤ p'.host.tick →
            p'.state.ledger = p'.host.lifecycleFile → p'.host.submitFile = h'.submitFile →
            p'.host.lifecycleFile = some (result.getD current) → Constructed p.host p' := by
          intro p' env tick memory submit written
          refine ⟨env, tick, memory, fun absent => ?_, fun ledger other quiet => ?_, fun ledger other _ => ?_⟩
          · cases absent.symm.trans file
          · cases alone ledger other
            exact absurd interrupted quiet
          · cases alone ledger other
            exact ⟨submit.trans stored, result, written, agrees⟩
        rw [wp_bind, recorded, wp_ofExcept_ok]
        cases result with
        | none =>
            have same := onward.lifecycle
            exact constructed _ classified.env classified.later_tick (loaded.trans same.symm) rfl
              (same.trans file)
        | some next =>
            have valid := (repairedLedger_accounted accounted' (classifyObservation_ok settled observed)
              recorded).valid
            have reliable' := reliable.later classified.env classified.later_tick
            rw [wp_bind]
            apply (succeeds_persist reliable' valid).wp
            apply wp_mono persist_stored _ (fun _ _ _ => trivial) (fun _ _ => trivial)
            rintro _ _ ⟨time, later, rfl⟩
            exact constructed _ classified.env (Nat.le_trans classified.later_tick later) rfl rfl rfl
      · have settled : current.phase ≠ .submitting ∧ current.phase ≠ .outcomeUnknown := not_or.mp interrupted
        simp only [settled, ne_eq, not_false_eq_true, and_self, if_true]
        refine ⟨rfl, Nat.le_refl _, loaded, fun absent => ?_, fun ledger other _ => ?_, fun ledger other open_ => ?_⟩
        · cases absent.symm.trans file
        · cases alone ledger other
          exact ⟨file, rfl⟩
        · cases alone ledger other
          exact absurd open_ interrupted

theorem Constructed.earlier {time : Nat} (later : h.tick ≤ time) (constructed : Constructed (h.atTime time) p) :
    Constructed h p :=
  ⟨constructed.env, Nat.le_trans later constructed.tick, constructed.memory, constructed.absent,
    constructed.kept, constructed.repaired⟩

theorem fromRunner_reliable (inv : HostInv False runner p.host) (reliable : Reliable p.host) :
    (fromRunner runner).wp (fun _ => Constructed p.host) (fun _ _ => False) (fun _ => False) p := by
  rw [fromRunner, wp_bind, wp_onHost, loadWithRunner, wp_bind, wp_mapError]
  refine ReadOnly.succeeds_wp readOnly_acquireScope (succeeds_acquireScope reliable) fun _ time later => ?_
  have reliable' := reliable.time later
  have inv' : HostInv False runner (p.host.atTime time) := inv.onward (.time _ time)
  apply wp_of_ok (loadLifecycleLedger_run reliable'.now.alive reliable'.now.read fun ledger found =>
    (inv'.accounted found).valid)
  rw [wp_bind, wp_modify]
  have next : p.host.tick ≤ time + 1 := Nat.le_succ_of_le later
  have inv'' : HostInv False runner (p.host.atTime (time + 1)) := inv.onward (.time _ _)
  have loaded : ProcessInv False runner ⟨p.host.atTime (time + 1), ⟨p.host.lifecycleFile, none, 0⟩⟩ :=
    ⟨inv'', inv''.file⟩
  exact wp_mono (repairInterruptedState_reliable loaded (reliable.time next) rfl)
    (fun _ _ constructed => constructed.earlier next) (fun _ _ => id) (fun _ => id)

theorem fromRunner_run (state : OrchestratorState) (inv : HostInv False runner h) (reliable : Reliable h) :
    ∃ p, fromRunner runner ⟨h, state⟩ = (.ok (), p) ∧ Constructed h p := by
  obtain ⟨⟨⟩, p, ran, constructed⟩ := wp_returns (fromRunner_reliable (p := ⟨h, state⟩) inv reliable)
  exact ⟨p, ran, constructed⟩

/-! ## No provider command -/

def Process.toolless (p : Process) : Process := { p with host := p.host.toolless }

/-- A procedure that takes the same course without the provider's tool: it reads no answer to a
command, and there no command starts a child. -/
def Commandless {ε α : Type} (p : Proc Process ε α) : Prop := Proc.Projects Process.toolless p p

/-- The same of a procedure on the host. -/
def Deaf {ε α : Type} (p : Proc Host ε α) : Prop := Proc.Projects Host.toolless p p

example : ¬ Deaf (CloudTaskRunner.status ⟨"task_1".toList, by decide⟩) := fun deaf =>
  absurd (congrArg Prod.fst (deaf (fresh fun _ => { statusOutput := some .ready }))) (by decide)

section

variable {ε α : Type} {invalid unavailable : ε}

theorem commandless_onHost {p : Proc Host ε α} (deaf : Deaf p) : Commandless (onHost p) := by
  intro process
  simp only [onHost, Proc.on, Process.toolless, deaf process.host]

theorem deaf_ask {f : Answers → Proc Host ε α} (same : ∀ h : Host, f h.toolless.answers = f h.answers)
    (rest : ∀ answers, Deaf (f answers)) : Deaf (ask >>= f) := by
  intro h
  have run : ∀ h : Host, (ask >>= f) h =
      if h.answers.crash then (.crashed, h.advance) else f h.answers h.advance := by
    intro h
    cases dies : h.answers.crash <;> simp [Bind.bind, Proc.bind, ask, dies]
  rw [run, run, same, show h.toolless.answers.crash = h.answers.crash from rfl]
  split
  · rfl
  · exact rest h.answers h.advance

theorem deaf_acquireScope : Deaf acquireScope := by
  refine deaf_ask (fun _ => rfl) fun answers => ?_
  cases answers.scope with
  | none => exact projects_pure _
  | some error => exact projects_fail _

theorem deaf_readFile {content : Host → α} (same : ∀ h : Host, content h.toolless = content h) :
    Deaf (readFile content invalid unavailable) := by
  refine deaf_ask (fun _ => rfl) fun answers => ?_
  cases answers.read with
  | readable => exact fun h => congrArg (fun value => (Outcome.ok value, h.toolless)) (same h)
  | unavailable | invalid => exact projects_fail _

theorem deaf_replaceFile {outcome : Answers → WriteOutcome} {store : Host → Host}
    (same : ∀ h : Host, outcome h.toolless.answers = outcome h.answers)
    (stores : ∀ h : Host, store h.toolless = (store h).toolless) :
    Deaf (replaceFile outcome store invalid unavailable) := by
  refine deaf_ask (fun h => by simp only [same]) fun answers => ?_
  cases outcome answers with
  | stored => exact fun h => congrArg (Outcome.ok (), ·) (stores h)
  | storedUnsynced => exact fun h => congrArg (Outcome.error unavailable, ·) (stores h)
  | refused | rejected => exact projects_fail _

theorem deaf_persistCloudLedger : Deaf (persistCloudLedger submit) :=
  projects_bind (projects_ofExcept _) fun _ => deaf_replaceFile (fun _ => rfl) fun _ => rfl

theorem deaf_closeInterrupted : Deaf (CloudTaskRunner.closeInterrupted submit) := by
  have closed : ∀ phase, Deaf (do
      let ledger ← Proc.ofExcept (submit.append phase)
      persistCloudLedger ledger
      return ledger : RunnerProc CloudSubmitLedger) := fun _ =>
    projects_bind (projects_ofExcept _) fun _ => projects_bind deaf_persistCloudLedger fun _ => projects_pure _
  unfold CloudTaskRunner.closeInterrupted
  split
  · exact closed _
  · exact closed _
  · exact closed _
  all_goals exact projects_pure _

theorem deaf_observeSubmit : Deaf (runner.observeSubmit op) := by
  refine projects_bind deaf_acquireScope fun _ => projects_bind (projects_bind
    (projects_bind (deaf_readFile fun _ => rfl) fun found => ?_) fun found => ?_) fun _ => projects_ofExcept _
  · cases found with
    | none => exact projects_pure _
    | some ledger => exact projects_bind (projects_ofExcept _) fun _ => projects_pure _
  · cases found with
    | none => exact projects_pure _
    | some ledger =>
        refine projects_bind ?_ fun _ => projects_bind deaf_closeInterrupted fun _ => projects_pure _
        unfold CloudTaskRunner.requireMatchingConfig
        split
        · exact projects_pure _
        · exact projects_fail _

theorem commandless_repairInterruptedState : Commandless (repairInterruptedState runner) := by
  refine projects_bind (fun _ => rfl) fun state => ?_
  cases state.ledger with
  | none => exact projects_pure _
  | some current =>
      dsimp only
      split
      · exact projects_pure _
      · refine projects_bind (projects_mapError _ (commandless_onHost deaf_observeSubmit))
          fun observation => projects_bind (projects_ofExcept _) fun result => ?_
        cases result with
        | none => exact projects_pure _
        | some repaired =>
            refine projects_bind (projects_bind (projects_mapError _ (commandless_onHost deaf_acquireScope))
              fun _ => commandless_onHost ?_) fun _ _ => rfl
            exact projects_bind (projects_ofExcept _) fun _ => deaf_replaceFile (fun _ => rfl) fun _ => rfl

theorem commandless_fromRunner : Commandless (fromRunner runner) := by
  refine projects_bind (commandless_onHost (projects_bind (projects_mapError _ deaf_acquireScope) fun _ =>
    projects_bind (deaf_readFile fun _ => rfl) fun found => ?_)) fun _ =>
    projects_bind (fun _ => rfl) fun _ => commandless_repairInterruptedState
  cases found with
  | none => exact projects_pure _
  | some ledger => exact projects_bind (projects_ofExcept _) fun _ => projects_pure _

end

/-! ## Restarts -/

theorem recovered_recovered (submit : CloudSubmitLedger) : submit.recovered.recovered = submit.recovered := by
  have settled := recovered_settled submit
  generalize submit.recovered = recovered at settled ⊢
  simp [CloudSubmitLedger.recovered, settled]

theorem interruptedOutcome_ne_submitting : (interruptedOutcome op file).1 ≠ .submitting := by
  cases file with
  | none => nofun
  | some submit =>
      rw [interruptedOutcome]
      split
      · cases submit.latest <;> nofun
      · nofun

/-- A second construction finds nothing to do. -/
theorem Constructed.again {p' : Process} (first : Constructed h p) (second : Constructed p.host p') :
    p'.host.lifecycleFile = p.host.lifecycleFile ∧ p'.host.submitFile = p.host.submitFile := by
  cases found : p.host.lifecycleFile with
  | none => exact second.absent found
  | some ledger =>
      by_cases interrupted : ledger.Interrupted
      · obtain ⟨submit', result', written', repairs'⟩ := second.repaired ledger found interrupted
        -- only a repair leaves an interrupted record, and then one that stays unknown
        cases before : h.lifecycleFile with
        | none => cases found.symm.trans (first.absent before).1
        | some original =>
            by_cases cut : original.Interrupted
            · obtain ⟨submit, result, written, repairs⟩ := first.repaired original before cut
              have same : result.getD original = ledger := Option.some.inj (written.symm.trans found)
              have own := repairs.own
              have agrees := repairs.agrees
              rw [same] at own agrees
              have unknown : ledger.phase = .outcomeUnknown := by
                have phase : ledger.phase = (interruptedOutcome original.operationId h.submitFile).1 :=
                  congrArg Prod.fst agrees
                apply interrupted.resolve_left
                rw [phase]
                exact interruptedOutcome_ne_submitting
              have outcome : (interruptedOutcome ledger.operationId p.host.submitFile).1 = .outcomeUnknown := by
                rw [submit, interruptedOutcome_recovered, own, ← agrees]
                exact unknown
              rw [repairs'.quiet unknown outcome] at written'
              refine ⟨written', ?_⟩
              rw [submit', submit, Option.map_map]
              exact congrArg (Option.map · h.submitFile) (funext recovered_recovered)
            · cases found.symm.trans (first.kept original before cut).1
              exact absurd interrupted cut
      · exact second.kept ledger found interrupted

/-- The state of a process that has just come up. -/
def OrchestratorState.initial : OrchestratorState := ⟨none, none, 0⟩

/-- Whatever a run left when its process died: if the files work, a construction succeeds without a
provider command. It repairs an interrupted record to what the submit file says, leaves any other as
it was, and a second construction changes neither file. -/
theorem restart_repairs {env : Nat → Answers} (reachable : (Machine.system runner env).Reachable (.down h))
    (reliable : Reliable h) :
    Commandless (fromRunner runner) ∧
      ∃ p, fromRunner runner ⟨h, .initial⟩ = (.ok (), p) ∧
        (h.lifecycleFile = none → p.host.lifecycleFile = none) ∧
        (∀ ledger, h.lifecycleFile = some ledger → ledger.Interrupted →
          ∃ repaired, p.host.lifecycleFile = some repaired ∧ repaired.operationId = ledger.operationId ∧
            (repaired.phase, repaired.taskId) = interruptedOutcome ledger.operationId h.submitFile) ∧
        (∀ ledger, h.lifecycleFile = some ledger → ¬ ledger.Interrupted →
          p.host.lifecycleFile = some ledger) ∧
        ∃ p', fromRunner runner ⟨p.host, .initial⟩ = (.ok (), p') ∧
          p'.host.lifecycleFile = p.host.lifecycleFile ∧ p'.host.submitFile = p.host.submitFile := by
  have inv : HostInv False runner h := machineInv_reachable False.elim reachable
  obtain ⟨p, ran, constructed⟩ := fromRunner_run .initial inv reliable
  have inv' : HostInv False runner p.host := (wp_ok (fromRunner_spec inv) ran).host
  have reliable' := reliable.later constructed.env constructed.tick
  obtain ⟨p', ran', constructed'⟩ := fromRunner_run .initial inv' reliable'
  refine ⟨commandless_fromRunner, p, ran, fun absent => (constructed.absent absent).1, ?_, ?_, p', ran',
    constructed.again constructed'⟩
  · intro ledger file interrupted
    obtain ⟨-, result, written, repairs⟩ := constructed.repaired ledger file interrupted
    exact ⟨_, written, repairs.own, repairs.agrees⟩
  · intro ledger file settled
    exact (constructed.kept ledger file settled).1

/-- A process that dies after its submit returned and before the task is in the lifecycle file. -/
theorem cut_submit_repaired :
    ∃ (runner : CloudTaskRunner) (h : Host) (p : Process) (task : CloudTaskId),
      h.lifecycleFile.map CloudLifecycleLedger.phase = some .submitting ∧
      fromRunner runner ⟨h, .initial⟩ = (.ok (), p) ∧
      fromRunner runner (Process.toolless ⟨h, .initial⟩) = (.ok (), p.toolless) ∧
      p.host.lifecycleFile.map (fun ledger => (ledger.phase, ledger.taskId)) = some (.pending, some task) := by
  let runner : CloudTaskRunner := ⟨⟨[]⟩, ⟨[]⟩⟩
  let env : Nat → Answers := fun _ => { execOutput := some ⟨"task_1".toList, by decide⟩ }
  have ran : (Machine.system runner env).run (.down (Host.fresh env))
      [.restart, .startBegin ⟨['p']⟩, .startSubmit, .crash] = some (.down _) := rfl
  have reachable := System.Reachable.run (.initial rfl) ran
  have reliable : ∀ h : Host, h.env = env → Reliable h := by
    intro h same time _
    rw [same]
    exact ⟨rfl, rfl, rfl, fun _ => rfl, fun _ => rfl⟩
  obtain ⟨commandless, p, constructed, -, repaired, -⟩ := restart_repairs reachable (reliable _ rfl)
  obtain ⟨ledger, written, -, agrees⟩ := repaired _ rfl (.inl rfl)
  exact ⟨runner, _, p, _, rfl, constructed, (commandless _).trans (by rw [constructed]), by
    rw [written, Option.map_some, agrees]; rfl⟩

end Codebox.Cloud
