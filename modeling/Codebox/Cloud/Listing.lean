import Codebox.Cloud.Coherence

/-! # The pages a reconciliation reads

A reconciliation lists the provider's tasks page by page, each page under the cursor of the one
before. The loop is run here with a record of the cursors it asked for and the pages it got; without
the record it is the loop of the runner. What is returned and recorded is then compared with the
pages that were read.
-/

namespace Codebox.Cloud

open Codebox.Support Proc Codebox.Host

/-- A host, with the list commands a reconciliation has started on it. -/
structure Listing where
  host : Host
  /-- The cursor of each list command, oldest first. -/
  requests : List (Option CloudCursor) := []
  /-- The pages that were read and decoded, oldest first. -/
  pages : List CloudTaskListPage := []

namespace Listing

abbrev ListingProc := Proc Listing CloudRunnerError

/-- Run a procedure of the host beside the record. -/
def beside {α : Type} (p : RunnerProc α) : ListingProc α :=
  Proc.on Listing.host (fun listing host => { listing with host := host }) p

def request (cursor : Option CloudCursor) (listing : Listing) : Listing :=
  { listing with requests := listing.requests ++ [cursor] }

def receive (page : CloudTaskListPage) (listing : Listing) : Listing :=
  { listing with pages := listing.pages ++ [page] }

end Listing

open Listing

namespace CloudTaskRunner

/-- The loop over the pages, with the cursor each list command is given. -/
def followPages : Nat → Option CloudCursor → List CloudTaskSummary → List CloudCursor →
    ListingProc (List CloudTaskSummary × Bool)
  | 0, _, tasks, _ => return (tasks, false)
  | pages + 1, cursor, tasks, seenCursors => do
      if (← beside ask).deadlinePassed then return (tasks, false)
      else do
        beside ensureDiagnosticSentinel
        Proc.modify (request cursor)
        match ← beside (runRead (·.listOutput)) with
        | none => Proc.fail ⟨.providerOutput, none⟩
        | some page => do
            Proc.modify (receive page)
            let tasks' := tasks ++ page.tasks
            if ¬ (tasks'.map CloudTaskSummary.id).Nodup then
              Proc.fail ⟨.reconciliationCycle, none⟩
            else match page.cursor with
              | none => return (tasks', true)
              | some next =>
                  if next ∈ seenCursors then Proc.fail ⟨.reconciliationCycle, none⟩
                  else if maxReconciliationTasks ≤ tasks'.length then return (tasks', false)
                  else followPages pages (some next) tasks' (next :: seenCursors)

variable (runner : CloudTaskRunner)

/-- `reconcileUnknown`, run over the loop that keeps the record. -/
def reconcileFollowing : ListingProc CloudReconciliation := do
  beside acquireScope
  match ← beside runner.recoverCurrentLedger with
  | none => Proc.fail ⟨.noUnknownOperation, none⟩
  | some ledger =>
      if ledger.latest.isUnknown = false then Proc.fail ⟨.noUnknownOperation, none⟩
      else do
        beside (runner.requireMatchingConfig ledger)
        beside verifyVersion
        let (tasks, complete) ← followPages maxReconciliationPages none [] []
        let ledger ← Proc.ofExcept
          (ledger.recordReconciliation (tasks.map CloudTaskSummary.id) complete)
        beside (persistCloudLedger ledger)
        return ⟨ledger.operationId, tasks, complete⟩

/-! ## Without the record -/

theorem projects_beside {α : Type} (p : RunnerProc α) : Proc.Projects Listing.host (beside p) p :=
  projects_on (fun _ _ => rfl) p

theorem projects_followPages (pages : Nat) (cursor : Option CloudCursor) (tasks : List CloudTaskSummary)
    (seenCursors : List CloudCursor) :
    Proc.Projects Listing.host (followPages pages cursor tasks seenCursors)
      (listPages pages tasks seenCursors) := by
  induction pages generalizing cursor tasks seenCursors with
  | zero => exact projects_pure _
  | succ pages ih =>
      apply projects_bind (projects_beside ask)
      intro answers
      split
      · exact projects_pure _
      apply projects_bind (projects_beside ensureDiagnosticSentinel)
      intro _
      apply projects_modify (f := request cursor) (fun _ => rfl)
      apply projects_bind (projects_beside (runRead _))
      intro output
      cases output with
      | none => exact projects_fail _
      | some page =>
          apply projects_modify (f := receive page) (fun _ => rfl)
          simp only
          split
          · exact projects_fail _
          cases page.cursor with
          | none => exact projects_pure _
          | some next =>
              simp only
              split
              · exact projects_fail _
              split
              · exact projects_pure _
              · exact ih (some next) _ _

theorem projects_reconcileFollowing :
    Proc.Projects Listing.host runner.reconcileFollowing runner.reconcileUnknown := by
  apply projects_bind (projects_beside acquireScope)
  intro _
  apply projects_bind (projects_beside runner.recoverCurrentLedger)
  intro found
  cases found with
  | none => exact projects_fail _
  | some ledger =>
      simp only
      split
      · exact projects_fail _
      apply projects_bind (projects_beside (runner.requireMatchingConfig ledger))
      intro _
      apply projects_bind (projects_beside verifyVersion)
      intro _
      apply projects_bind (projects_followPages maxReconciliationPages none [] [])
      intro result
      apply projects_bind (projects_ofExcept _)
      intro next
      exact projects_bind (projects_beside (persistCloudLedger next)) fun _ => projects_pure _

end CloudTaskRunner

variable {tasks : List CloudTaskSummary} {listing : Listing} {complete : Bool} {ledger : CloudSubmitLedger} {h : Host}

namespace Listing

/-! ## What the record shows -/

/-- At most five list commands, the first without a cursor and each later one under the cursor of
the page before. -/
structure Follows (listing : Listing) : Prop where
  bounded : listing.requests.length ≤ maxReconciliationPages
  answered : listing.pages.length ≤ listing.requests.length
  cursors : listing.requests <+: none :: listing.pages.map (·.cursor)
  named : ∀ request ∈ listing.requests.tail, request.isSome

/-- The listing that the pages read make up. -/
structure Lists (listing : Listing) (tasks : List CloudTaskSummary) (complete : Bool) : Prop where
  answered : listing.requests.length = listing.pages.length
  listed : tasks = listing.pages.flatMap (·.tasks)
  bounded : tasks.length ≤ maxReconciliationTasks
  distinct : (tasks.map CloudTaskSummary.id).Nodup
  cursors : (listing.pages.filterMap (·.cursor)).Nodup
  ended : complete = true ↔ ∃ last, listing.pages.getLast? = some last ∧ last.cursor = none

theorem Follows.host (follows : listing.Follows) (host : Host) : Follows { listing with host := host } :=
  ⟨follows.bounded, follows.answered, follows.cursors, follows.named⟩

theorem Lists.host (lists : listing.Lists tasks complete) (host : Host) :
    Lists { listing with host := host } tasks complete :=
  ⟨lists.answered, lists.listed, lists.bounded, lists.distinct, lists.cursors, lists.ended⟩

/-- A page read failed, or a task or a cursor came twice. -/
def Broken (listing : Listing) : Prop :=
  listing.pages.length < listing.requests.length ∨
    ¬ ((listing.pages.flatMap (·.tasks)).map CloudTaskSummary.id).Nodup ∨
    ¬ (listing.pages.filterMap (·.cursor)).Nodup

theorem Lists.sound (lists : listing.Lists tasks complete) : ¬ listing.Broken := by
  rintro (failed | repeated | cycle)
  · exact absurd lists.answered (Nat.ne_of_gt failed)
  · exact repeated (lists.listed ▸ lists.distinct)
  · exact cycle lists.cursors

/-- The state of the loop before a page: everything read so far was answered and led on. -/
structure Reading (pages : Nat) (cursor : Option CloudCursor) (tasks : List CloudTaskSummary)
    (seenCursors : List CloudCursor) (listing : Listing) : Prop where
  left : pages + listing.pages.length = maxReconciliationPages
  cursors : listing.requests ++ [cursor] = none :: listing.pages.map (·.cursor)
  seen : listing.pages.map (·.cursor) = seenCursors.reverse.map some
  fresh : seenCursors.Nodup
  listed : tasks = listing.pages.flatMap (·.tasks)
  distinct : (tasks.map CloudTaskSummary.id).Nodup

section Reading

variable {pages : Nat} {cursor : Option CloudCursor} {seenCursors : List CloudCursor}

theorem length_flatMap_tasks (pages : List CloudTaskListPage) :
    (pages.flatMap (·.tasks)).length ≤ maxTasks * pages.length := by
  induction pages with
  | nil => exact Nat.zero_le _
  | cons page rest ih =>
      rw [List.flatMap_cons, List.length_append, List.length_cons]
      have bounded := page.bounded
      rw [Nat.mul_succ]
      omega

theorem filterMap_cursor {pages : List CloudTaskListPage} {cursors : List CloudCursor}
    (all : pages.map (·.cursor) = cursors.map some) : pages.filterMap (·.cursor) = cursors := by
  have same : pages.filterMap (·.cursor) = (pages.map (·.cursor)).filterMap id := by
    rw [List.filterMap_map]
    rfl
  rw [same, all, List.filterMap_map]
  exact List.filterMap_some

variable (reading : Reading pages cursor tasks seenCursors listing)
include reading

theorem Reading.answered : listing.requests.length = listing.pages.length := by
  have lengths := congrArg List.length reading.cursors
  simpa using lengths

theorem Reading.tail_named : ∀ request ∈ (listing.requests ++ [cursor]).tail, request.isSome := by
  rw [reading.cursors, List.tail_cons, reading.seen]
  intro request inside
  obtain ⟨cursor, -, rfl⟩ := List.mem_map.mp inside
  rfl

theorem Reading.follows : listing.Follows where
  bounded := by
    rw [reading.answered, ← reading.left]
    exact Nat.le_add_left _ _
  answered := Nat.le_of_eq reading.answered.symm
  cursors := ⟨[cursor], reading.cursors⟩
  named := fun request inside => reading.tail_named request (by
    cases requests : listing.requests with
    | nil => simp [requests] at inside
    | cons first rest =>
        rw [requests] at inside
        exact List.mem_append_left [cursor] inside)

theorem Reading.bounded : tasks.length ≤ maxReconciliationTasks := by
  have short := length_flatMap_tasks listing.pages
  have left := reading.left
  rw [← reading.listed] at short
  simp only [maxReconciliationTasks, maxReconciliationPages, maxTasks] at *
  omega

/-- The loop may stop here, with more to list. -/
theorem Reading.stop : listing.Lists tasks false where
  answered := reading.answered
  listed := reading.listed
  bounded := reading.bounded
  distinct := reading.distinct
  cursors := by
    rw [filterMap_cursor reading.seen]
    exact (List.reverse_perm seenCursors).nodup_iff.mpr reading.fresh
  ended := by
    refine ⟨nofun, ?_⟩
    rintro ⟨last, ends, final⟩
    have inside : (none : Option CloudCursor) ∈ listing.pages.map (·.cursor) :=
      List.mem_map.mpr ⟨last, List.mem_of_getLast? ends, final⟩
    rw [reading.seen] at inside
    simp at inside

theorem Reading.host (host : Host) : Reading pages cursor tasks seenCursors { listing with host := host } :=
  ⟨reading.left, reading.cursors, reading.seen, reading.fresh, reading.listed, reading.distinct⟩

end Reading

section Reading

variable {pages : Nat} {cursor : Option CloudCursor} {seenCursors : List CloudCursor} {page : CloudTaskListPage}
  (reading : Reading (pages + 1) cursor tasks seenCursors listing)
include reading

theorem Reading.request : (listing.request cursor).Follows where
  bounded := by
    have left := reading.left
    simp only [Listing.request, List.length_append, List.length_singleton, reading.answered]
    omega
  answered := by
    simp only [Listing.request, List.length_append, List.length_singleton, reading.answered]
    omega
  cursors := ⟨[], by rw [List.append_nil]; exact reading.cursors⟩
  named := reading.tail_named

theorem Reading.receive : ((listing.request cursor).receive page).Follows where
  bounded := reading.request.bounded
  answered := by
    simp only [Listing.receive, Listing.request, List.length_append, List.length_singleton, reading.answered]
    exact Nat.le_refl _
  cursors := by
    refine ⟨[page.cursor], ?_⟩
    simp only [Listing.receive, Listing.request, reading.cursors, List.map_append, List.map_singleton]
    rfl
  named := reading.request.named

theorem Reading.received_cursors :
    (listing.pages ++ [page]).map (·.cursor) = seenCursors.reverse.map some ++ [page.cursor] := by
  rw [List.map_append, reading.seen]
  rfl

theorem Reading.received_tasks :
    tasks ++ page.tasks = ((listing.request cursor).receive page).pages.flatMap (·.tasks) := by
  simp only [Listing.receive, Listing.request, List.flatMap_append, ← reading.listed]
  simp

/-- The page before the last has been read: the loop goes on under its cursor. -/
theorem Reading.next {next : CloudCursor}
    (distinct : ((tasks ++ page.tasks).map CloudTaskSummary.id).Nodup) (more : page.cursor = some next)
    (unseen : next ∉ seenCursors) :
    Reading pages (some next) (tasks ++ page.tasks) (next :: seenCursors)
      ((listing.request cursor).receive page) where
  left := by
    have left := reading.left
    simp only [Listing.receive, Listing.request, List.length_append, List.length_singleton]
    omega
  cursors := by
    simp only [Listing.receive, Listing.request, reading.cursors, List.map_append, List.map_singleton, more]
    rfl
  seen := by
    rw [List.reverse_cons, List.map_append]
    exact reading.received_cursors.trans (by rw [more]; rfl)
  fresh := List.nodup_cons.mpr ⟨unseen, reading.fresh⟩
  listed := reading.received_tasks
  distinct := distinct

/-- A page without a cursor is the last one. -/
theorem Reading.last (distinct : ((tasks ++ page.tasks).map CloudTaskSummary.id).Nodup)
    (final : page.cursor = none) :
    ((listing.request cursor).receive page).Lists (tasks ++ page.tasks) true where
  answered := by
    simp only [Listing.receive, Listing.request, List.length_append, List.length_singleton, reading.answered]
  listed := reading.received_tasks
  bounded := by
    have left := reading.left
    have short := length_flatMap_tasks ((listing.request cursor).receive page).pages
    rw [← reading.received_tasks] at short
    simp only [Listing.receive, Listing.request, List.length_append, List.length_singleton,
      maxReconciliationTasks, maxReconciliationPages, maxTasks] at *
    omega
  distinct := distinct
  cursors := by
    have before := filterMap_cursor reading.seen
    simp only [Listing.receive, Listing.request, List.filterMap_append, before]
    simp only [List.filterMap_cons, final, List.filterMap_nil, List.append_nil]
    exact (List.reverse_perm seenCursors).nodup_iff.mpr reading.fresh
  ended := ⟨fun _ => ⟨page, List.getLast?_concat, final⟩, fun _ => rfl⟩

end Reading

/-! ## The loop -/

/-- Only the clock of the host has moved, and the record follows the cursors. -/
structure Later (listing after : Listing) : Prop where
  follows : after.Follows
  host : ∃ time, listing.host.tick ≤ time ∧ after.host = listing.host.atTime time

theorem Later.trans {listing between after : Listing} (first : Later listing between)
    (second : Later between after) : Later listing after := by
  obtain ⟨time, later, same⟩ := first.host
  obtain ⟨time', later', same'⟩ := second.host
  rw [same] at same' later'
  exact ⟨second.follows, time', Nat.le_trans later later', same'⟩

section

variable {α : Type} {onOk : α → Listing → Prop} {onError : CloudRunnerError → Listing → Prop}
  {onCrash : Listing → Prop}

theorem wp_beside {p : RunnerProc α} (quiet : ReadOnly PlainError p)
    (okay : ∀ value time, listing.host.tick ≤ time →
      onOk value { listing with host := listing.host.atTime time })
    (failed : ∀ error time, listing.host.tick ≤ time →
      onError error { listing with host := listing.host.atTime time })
    (died : ∀ time, listing.host.tick ≤ time → onCrash { listing with host := listing.host.atTime time }) :
    (beside p).wp onOk onError onCrash listing := by
  rw [beside, wp_on]
  exact quiet.wp okay (fun error time _ => failed error time) died

end

/-- However the loop ends, the record follows the cursors; when it returns, its result is what the
record lists. -/
theorem followPages_spec {pages : Nat} {cursor : Option CloudCursor} {seenCursors : List CloudCursor}
    (reading : Reading pages cursor tasks seenCursors listing) :
    (CloudTaskRunner.followPages pages cursor tasks seenCursors).wp
      (fun result after => Later listing after ∧ after.Lists result.1 result.2)
      (fun _ => Later listing) (Later listing) listing := by
  induction pages generalizing cursor tasks seenCursors listing with
  | zero => exact ⟨⟨reading.follows, _, Nat.le_refl _, rfl⟩, reading.stop⟩
  | succ pages ih =>
      have waited : ∀ time, listing.host.tick ≤ time →
          Later listing { listing with host := listing.host.atTime time } := by
        intro time later
        exact ⟨(reading.host _).follows, time, later, rfl⟩
      rw [CloudTaskRunner.followPages, wp_bind]
      apply wp_beside readOnly_ask _ (fun _ => waited) waited
      intro answers time later
      split
      · exact ⟨waited time later, (reading.host _).stop⟩
      rw [wp_bind]
      apply wp_beside readOnly_ensureDiagnosticSentinel
      · intro _ time' later'
        have later' := Nat.le_trans later later'
        rw [wp_bind, wp_modify, wp_bind]
        have asked : ∀ time, listing.host.tick ≤ time →
            Later listing (Listing.request cursor { listing with host := listing.host.atTime time }) := by
          intro time later
          exact ⟨(reading.host _).request, time, later, rfl⟩
        apply wp_beside (readOnly_runRead _)
        · intro output time later''
          have later'' := Nat.le_trans later' later''
          cases output with
          | none => exact asked time later''
          | some page =>
              have reading := reading.host (listing.host.atTime time)
              have received : Later listing (Listing.receive page (Listing.request cursor
                  { listing with host := listing.host.atTime time })) :=
                ⟨reading.receive, time, later'', rfl⟩
              rw [wp_bind, wp_modify]
              simp only
              split
              · exact received
              rename_i distinct
              rw [not_not] at distinct
              cases more : page.cursor with
              | none => exact ⟨received, reading.last distinct more⟩
              | some next =>
                  simp only
                  split
                  · exact received
                  rename_i unseen
                  have continues := reading.next distinct more unseen
                  split
                  · exact ⟨received, continues.stop⟩
                  · exact wp_mono (ih continues) (fun _ _ both => ⟨received.trans both.1, both.2⟩)
                      (fun _ _ => received.trans) (fun _ => received.trans)
        · intro _ time later''
          exact asked time (Nat.le_trans later' later'')
        · intro time later''
          exact asked time (Nat.le_trans later' later'')
      · intro _ time' later'
        exact waited time' (Nat.le_trans later later')
      · intro time' later'
        exact waited time' (Nat.le_trans later later')

end Listing

open Listing

/-! ## The whole call -/

/-- A file that does not pass its own check is refused by the loader and left alone. -/
theorem recoverCurrentLedger_classifies (runner : CloudTaskRunner) (h : Host) :
    runner.recoverCurrentLedger.wp
      (fun found h' => Classified h h' ∧ found = h'.submitFile ∧
        ∀ ledger, found = some ledger → Recovered runner ledger)
      (fun _ => Classified h) (Classified h) h := by
  by_cases valid : SubmitFileValid h
  · exact wp_mono (recoverCurrentLedger_spec runner valid) (fun _ _ => id) (fun _ _ both => both.2)
      (fun _ => id)
  · have later : Classified h h.advance := .same _ (Nat.le_succ h.tick)
    simp only [SubmitFileValid, not_forall] at valid
    obtain ⟨ledger, content, invalid⟩ := valid
    have refused : ledger.validate = .error CloudSubmitLedger.ledgerInvalid := if_neg invalid
    have same : h.advance.submitFile = some ledger := content
    rw [CloudTaskRunner.recoverCurrentLedger, wp_bind, loadCloudLedger, wp_bind]
    refine wp_readFile later ?_ later later
    simp only [same, refused, wp_bind, wp_ofExcept_error]
    exact later

/-- Writing any record: the old content or the new one is in the file, and the new one if the write
returns. -/
theorem wp_persist_any {onOk : Unit → Host → Prop} {onError : CloudRunnerError → Host → Prop} {onCrash : Host → Prop}
    (stored : ∀ h', h'.submitFile = some ledger → onOk () h') (failed : ∀ error h', onError error h')
    (died : ∀ h', onCrash h') : (persistCloudLedger ledger).wp onOk onError onCrash h := by
  rw [persistCloudLedger, wp_bind]
  cases ledger.validate with
  | error error => exact failed error h
  | ok _ =>
      apply wp_replaceFile (died _)
      · intro _
        exact stored _ rfl
      · intro _
        exact failed _ _
      · intro _
        exact failed _ _
      · intro _
        exact failed _ _

/-- The record a reconciliation leaves in the file. -/
def RecordedIn (file : Option CloudSubmitLedger) (result : CloudReconciliation) : Prop :=
  ∃ record, file = some record ∧ record.operationId = result.operationId ∧
    record.candidateTaskIds = result.tasks.map CloudTaskSummary.id ∧
    record.reconciliationComplete = some result.complete ∧ record.latest = .reconciliationObserved

/-- Where the call stands when it has not returned: the record follows the cursors, and the file is
only classified unless the pages made up a listing. -/
structure Unreturned (h : Host) (listing : Listing) : Prop where
  follows : listing.Follows
  file : ¬ Classified h listing.host → ∃ tasks complete, listing.Lists tasks complete

theorem Unreturned.classified (follows : listing.Follows) (classified : Classified h listing.host) :
    Unreturned h listing :=
  ⟨follows, fun other => absurd classified other⟩

theorem follows_nil (h : Host) : Follows ⟨h, [], []⟩ :=
  ⟨Nat.zero_le _, Nat.le_refl _, List.nil_prefix, nofun⟩

theorem reading_nil (h : Host) : Reading maxReconciliationPages none [] [] ⟨h, [], []⟩ :=
  ⟨rfl, rfl, rfl, List.nodup_nil, rfl, List.nodup_nil⟩

theorem reconcileFollowing_spec (runner : CloudTaskRunner) (h : Host) :
    runner.reconcileFollowing.wp
      (fun result after => after.Follows ∧ after.Lists result.tasks result.complete ∧
        RecordedIn after.host.submitFile result)
      (fun _ => Unreturned h) (Unreturned h) ⟨h, [], []⟩ := by
  have quiet : ∀ {h'}, Classified h h' → Unreturned h ⟨h', [], []⟩ := by
    intro h' classified
    exact .classified (follows_nil h') classified
  rw [CloudTaskRunner.reconcileFollowing, wp_bind]
  apply wp_beside readOnly_acquireScope _ (fun _ time later => quiet (.same time later))
    (fun time later => quiet (.same time later))
  intro _ time later
  rw [wp_bind, beside, wp_on]
  refine wp_mono (recoverCurrentLedger_classifies runner _) ?_
    (fun _ _ classified => quiet (classified.later later)) (fun _ classified => quiet (classified.later later))
  rintro found h' ⟨classified, content, recovered⟩
  have classified := classified.later later
  cases found with
  | none => exact quiet classified
  | some ledger =>
      have configured := (recovered ledger rfl).configured
      simp only
      split
      · exact quiet classified
      rw [CloudTaskRunner.requireMatchingConfig, if_pos configured, wp_bind, beside, wp_on,
        wp_pure, wp_bind]
      apply wp_beside readOnly_verifyVersion _ (fun _ time later => quiet (classified.time later))
        (fun time later => quiet (classified.time later))
      intro _ time later
      rw [wp_bind]
      have listed : ∀ {after}, Later ⟨h'.atTime time, [], []⟩ after → Unreturned h after := by
        intro after after_later
        obtain ⟨time', later', same⟩ := after_later.host
        have := (classified.time later).time later'
        exact .classified after_later.follows (same ▸ this)
      refine wp_mono (followPages_spec (reading_nil _)) ?_ (fun _ _ => listed) (fun _ => listed)
      rintro ⟨tasks, complete⟩ after ⟨after_later, lists⟩
      rw [wp_bind]
      cases recording : ledger.recordReconciliation (tasks.map CloudTaskSummary.id) complete with
      | error error => exact listed after_later
      | ok next =>
          obtain ⟨-, -, -, -, rfl⟩ := CloudSubmitLedger.recordReconciliation_eq_ok.mp recording
          rw [wp_ofExcept_ok, wp_bind, beside, wp_on]
          -- whatever the write does to the file, the listing was made
          have made : ∀ host, Unreturned h { after with host := host } := by
            intro host
            exact ⟨after_later.follows.host host, fun _ => ⟨tasks, complete, lists.host host⟩⟩
          apply wp_persist_any
          · intro host stored
            refine ⟨after_later.follows.host host, lists.host host, _, stored, rfl, rfl, rfl, ?_⟩
            simp [CloudSubmitLedger.latest]
          · exact fun _ => made
          · exact made

/-- What the loop of the runner lists can be recorded. -/
theorem listPages_recordable {h' : Host}
    (listed : CloudTaskRunner.listPages maxReconciliationPages [] [] h = (.ok (tasks, complete), h'))
    (unknown : ledger.latest.isUnknown = true) (room : ledger.history.length < maxCloudHistoryEntries) :
    ∃ next, ledger.recordReconciliation (tasks.map CloudTaskSummary.id) complete = .ok next ∧
      (ledger.Valid → next.validate = .ok ()) := by
  have run := CloudTaskRunner.projects_followPages maxReconciliationPages none [] [] ⟨h, [], []⟩
  rw [listed, Prod.mk.injEq] at run
  have lists := (wp_ok (followPages_spec (reading_nil h)) (Prod.ext run.1.symm rfl)).2
  have step : ledger.latest.validTransition .reconciliationObserved = true := by
    cases phase : ledger.latest <;> simp_all [CloudLedgerPhase.validTransition]
  have short : (tasks.map CloudTaskSummary.id).length ≤ maxReconciliationCandidates := by
    rw [List.length_map]
    exact lists.bounded
  have recorded : ledger.recordReconciliation (tasks.map CloudTaskSummary.id) complete = .ok _ :=
    CloudSubmitLedger.recordReconciliation_eq_ok.mpr ⟨short, lists.distinct, room, step, rfl⟩
  refine ⟨_, recorded, fun valid => ?_⟩
  exact CloudSubmitLedger.validate_eq_ok.mpr (valid.recordReconciliation recorded)

/-- A reconciliation reads at most five pages, each under the cursor of the page before. It returns
and records the tasks of the pages read, in order and without a repetition, as complete exactly when
the last page had no cursor; a failed read, a repeated task or a repeated cursor leaves the file as
crash classification left it. And what is listed fits the record. -/
theorem reconcileUnknown_lists (runner : CloudTaskRunner) (h : Host) :
    let run := runner.reconcileFollowing ⟨h, [], []⟩
    runner.reconcileUnknown h = (run.1, run.2.host) ∧ run.2.Follows ∧
      (∀ result, run.1 = .ok result →
        run.2.Lists result.tasks result.complete ∧ RecordedIn run.2.host.submitFile result) ∧
      (run.2.Broken →
        (run.1 = .crashed ∨ ∃ error, run.1 = .error error) ∧ Classified h run.2.host) ∧
      (∀ h₁ h₂ tasks complete (ledger : CloudSubmitLedger),
        CloudTaskRunner.listPages maxReconciliationPages [] [] h₁ = (.ok (tasks, complete), h₂) →
        ledger.latest.isUnknown = true → ledger.history.length < maxCloudHistoryEntries →
        ∃ next, ledger.recordReconciliation (tasks.map CloudTaskSummary.id) complete = .ok next ∧
          (ledger.Valid → next.validate = .ok ())) := by
  have spec := reconcileFollowing_spec runner h
  have erased := runner.projects_reconcileFollowing ⟨h, [], []⟩
  have unlisted : ∀ {after}, Unreturned h after → after.Broken → Classified h after.host := by
    intro after unreturned broken
    by_contra other
    obtain ⟨tasks, complete, lists⟩ := unreturned.file other
    exact lists.sound broken
  have recordable : ∀ h₁ h₂ tasks complete (ledger : CloudSubmitLedger),
      CloudTaskRunner.listPages maxReconciliationPages [] [] h₁ = (.ok (tasks, complete), h₂) →
      ledger.latest.isUnknown = true → ledger.history.length < maxCloudHistoryEntries →
      ∃ next, ledger.recordReconciliation (tasks.map CloudTaskSummary.id) complete = .ok next ∧
        (ledger.Valid → next.validate = .ok ()) :=
    fun _ _ _ _ _ listed unknown room => listPages_recordable listed unknown room
  refine ⟨erased, ?_⟩
  rcases run : runner.reconcileFollowing ⟨h, [], []⟩ with ⟨result | error | _, after⟩
  · obtain ⟨follows, lists, recorded⟩ := wp_ok spec run
    refine ⟨follows, ?_, fun broken => absurd broken lists.sound, recordable⟩
    rintro _ ⟨⟩
    exact ⟨lists, recorded⟩
  · simp only [Proc.wp, run] at spec
    refine ⟨spec.follows, ?_, fun broken => ⟨.inr ⟨error, rfl⟩, unlisted spec broken⟩, recordable⟩
    rintro _ ⟨⟩
  · simp only [Proc.wp, run] at spec
    refine ⟨spec.follows, ?_, fun broken => ⟨.inl rfl, unlisted spec broken⟩, recordable⟩
    rintro _ ⟨⟩

end Codebox.Cloud
