import Codebox.Domain.Reducer
import Codebox.Support.Sequence

/-! # The grammar of a session

The streams that the reducer accepts, described without it: what a finished session looks like, and
that a session under way is the beginning of a finished one. An approval is asked for and resolved
within its turn, idling and resuming come in pairs between turns, and a turn that fails ends the work.
-/

namespace Codebox.Domain

open Codebox.Support

/-! ## Words -/

/-- The approvals of a turn, each of them resolved at once. -/
inductive Approvals (turn : TurnId) : List DomainEvent → Prop where
  | none : Approvals turn []
  | more {word : List DomainEvent} (approval : ApprovalId) (decision : ApprovalDecision)
      (before : Approvals turn word) :
      Approvals turn (word ++ [.approvalRequested turn approval, .approvalResolved turn approval decision])

/-- How a turn ends; `failed` says whether it fails. -/
inductive Ending (turn : TurnId) : (failed : Bool) → List DomainEvent → Prop where
  | completed : Ending turn false [.turnCompleted turn]
  | cancelled : Ending turn false [.turnCancellationRequested turn, .turnCancelled turn]
  | failed : Ending turn true [.turnFailed turn]

inductive Turn (turn : TurnId) (failed : Bool) : List DomainEvent → Prop where
  | whole {approvals ending : List DomainEvent} (asked : Approvals turn approvals)
      (ends : Ending turn failed ending) : Turn turn failed (.turnStarted turn :: approvals ++ ending)

/-- A mix of turns and of pairs of an idle and a resume. No turn follows a failed one; whether a pair
may is `late`. -/
inductive Mix (late : Prop) : (failed : Bool) → List DomainEvent → Prop where
  | empty : Mix late false []
  | pair {failed : Bool} {word : List DomainEvent} (before : Mix late failed word)
      (allowed : failed = true → late) : Mix late failed (word ++ [.sessionIdled, .sessionResumed])
  | turn {failed : Bool} {word more : List DomainEvent} (before : Mix late false word) (turn : TurnId)
      (next : Turn turn failed more) : Mix late failed (word ++ more)

/-- A session that is ready, idle or failed. -/
inductive Point (late : Prop) : List DomainEvent → Prop where
  | unprovisioned : Point late [.sessionCreated, .provisioningFailed]
  | settled {failed : Bool} {word : List DomainEvent} (sandbox : SandboxId) (mix : Mix late failed word) :
      Point late (.sessionCreated :: .sandboxProvisioned sandbox :: word)
  | idle {failed : Bool} {word : List DomainEvent} (sandbox : SandboxId) (mix : Mix late failed word)
      (allowed : failed = true → late) :
      Point late (.sessionCreated :: .sandboxProvisioned sandbox :: (word ++ [.sessionIdled]))

/-- A session to its end: up to such a point, or archived from there. -/
inductive Sentence (late : Prop) : List DomainEvent → Prop where
  | resting {word : List DomainEvent} (point : Point late word) : Sentence late word
  | archived {word : List DomainEvent} (point : Point late word) :
      Sentence late (word ++ [.sessionArchivingStarted, .sessionArchived])

/-- The beginning of a session. -/
def Grammatical (late : Prop) (word : List DomainEvent) : Prop :=
  ∃ sentence, Sentence late sentence ∧ word <+: sentence

/-- Envelopes of one stream in the schema that is understood, numbered from one. -/
structure Proper (stream : SessionId) (events : List DomainEventEnvelope) : Prop where
  stream : ∀ event ∈ events, event.streamId = stream
  version : ∀ event ∈ events, event.schemaVersion = domainEventSchemaV1
  numbered : Numbered (fun event => event.seq.value) 1 events

variable {word : List DomainEvent} {late : Prop}

theorem Point.created (point : Point late word) : ∃ rest, word = .sessionCreated :: rest := by
  cases point <;> exact ⟨_, rfl⟩

theorem Sentence.created (sentence : Sentence late word) : ∃ rest, word = .sessionCreated :: rest := by
  cases sentence with
  | resting point => exact point.created
  | archived point =>
      obtain ⟨rest, rfl⟩ := point.created
      exact ⟨_, rfl⟩

/-! ## What the reducer has seen -/

/-- A session that is ready for a turn. -/
def ReadyWord (word : List DomainEvent) : Prop :=
  ∃ sandbox mix, Mix False false mix ∧ word = .sessionCreated :: .sandboxProvisioned sandbox :: mix

/-- A session within a turn, between its approvals. -/
def TurnWord (turn : TurnId) (word : List DomainEvent) : Prop :=
  ∃ before approvals, ReadyWord before ∧ Approvals turn approvals ∧ word = before ++ .turnStarted turn :: approvals

/-- The words that lead to a projection. -/
def Seen (p : SessionProjection) (word : List DomainEvent) : Prop :=
  match p.status with
  | .provisioning => word = [.sessionCreated]
  | .ready => ReadyWord word
  | .running => ∃ turn, p.activeTurn = some turn ∧ TurnWord turn word
  | .waitingApproval => ∃ turn approval before, p.activeTurn = some turn ∧ p.pendingApproval = some approval ∧
      TurnWord turn before ∧ word = before ++ [.approvalRequested turn approval]
  | .cancelling => ∃ turn before, p.activeTurn = some turn ∧ TurnWord turn before ∧
      word = before ++ [.turnCancellationRequested turn]
  | .idle => ∃ before, ReadyWord before ∧ word = before ++ [.sessionIdled]
  | .failed => Point False word
  | .archiving => ∃ before, Point False before ∧ word = before ++ [.sessionArchivingStarted]
  | .archived => ∃ before, Point False before ∧ word = before ++ [.sessionArchivingStarted, .sessionArchived]

section

variable {p next : SessionProjection} {event : DomainEvent} {turn : TurnId} {failed : Bool}

theorem ReadyWord.point (ready : ReadyWord word) : Point False word := by
  obtain ⟨sandbox, mix, mixed, rfl⟩ := ready
  exact .settled sandbox mixed

theorem ReadyWord.idlePoint (ready : ReadyWord word) : Point False (word ++ [.sessionIdled]) := by
  obtain ⟨sandbox, mix, mixed, rfl⟩ := ready
  exact .idle sandbox mixed nofun

theorem ReadyWord.pair (ready : ReadyWord word) : ReadyWord (word ++ [.sessionIdled, .sessionResumed]) := by
  obtain ⟨sandbox, mix, mixed, rfl⟩ := ready
  exact ⟨sandbox, _, .pair mixed nofun, rfl⟩

theorem TurnWord.more (within : TurnWord turn word) (approval : ApprovalId) (decision : ApprovalDecision) :
    TurnWord turn (word ++ [.approvalRequested turn approval, .approvalResolved turn approval decision]) := by
  obtain ⟨before, approvals, ready, asked, rfl⟩ := within
  exact ⟨before, _, ready, .more approval decision asked, by simp⟩

theorem TurnWord.ends {ending : List DomainEvent} (within : TurnWord turn word)
    (ends : Ending turn false ending) : ReadyWord (word ++ ending) := by
  obtain ⟨before, approvals, ⟨sandbox, mix, mixed, rfl⟩, asked, rfl⟩ := within
  exact ⟨sandbox, _, .turn mixed turn (.whole asked ends), by simp⟩

theorem TurnWord.fails (within : TurnWord turn word) : Point False (word ++ [.turnFailed turn]) := by
  obtain ⟨before, approvals, ⟨sandbox, mix, mixed, rfl⟩, asked, rfl⟩ := within
  have point : Point False _ := .settled sandbox (.turn mixed turn (.whole asked .failed))
  simpa using point

/-- What has been seen of a turn that is running. -/
theorem Seen.within (seen : Seen p word) (running : OfTurn p .running turn) : TurnWord turn word := by
  rw [Seen, running.status] at seen
  obtain ⟨other, active, within⟩ := seen
  cases active.symm.trans running.turn
  exact within

/-- The sessions that may be archived have come to such a point. -/
theorem Seen.point (seen : Seen p word) (settled : p.status = .ready ∨ p.status = .idle ∨ p.status = .failed) :
    Point False word := by
  rcases settled with status | status | status
  · rw [Seen, status] at seen
    exact ReadyWord.point seen
  · rw [Seen, status] at seen
    obtain ⟨before, ready, rfl⟩ := seen
    exact ready.idlePoint
  · rw [Seen, status] at seen
    exact seen

theorem Seen.moves (seen : Seen p word) (moves : Moves p event next) : Seen next (word ++ [event]) := by
  cases moves with
  | sandboxProvisioned sandbox starting =>
      rw [Seen, starting] at seen
      cases seen
      exact ⟨sandbox, [], .empty, rfl⟩
  | provisioningFailed starting =>
      rw [Seen, starting] at seen
      cases seen
      exact .unprovisioned
  | turnStarted turn ready =>
      rw [Seen, ready] at seen
      exact ⟨turn, rfl, word, [], seen, .none, rfl⟩
  | approvalRequested turn approval running =>
      exact ⟨turn, approval, word, running.turn, rfl, seen.within running, rfl⟩
  | approvalResolved turn approval decision waiting pending =>
      rw [Seen, waiting.status] at seen
      obtain ⟨turn', approval', before, active, asked, within, rfl⟩ := seen
      cases active.symm.trans waiting.turn
      cases asked.symm.trans pending
      refine ⟨turn, waiting.turn, ?_⟩
      simpa using within.more approval decision
  | turnCancellationRequested turn running =>
      exact ⟨turn, word, running.turn, seen.within running, rfl⟩
  | turnCancelled turn cancelling =>
      rw [Seen, cancelling.status] at seen
      obtain ⟨turn', before, active, within, rfl⟩ := seen
      cases active.symm.trans cancelling.turn
      rw [List.append_assoc]
      exact within.ends .cancelled
  | turnCompleted turn running => exact (seen.within running).ends .completed
  | turnFailed turn running => exact (seen.within running).fails
  | sessionIdled ready =>
      rw [Seen, ready] at seen
      exact ⟨word, seen, rfl⟩
  | sessionResumed idle =>
      rw [Seen, idle] at seen
      obtain ⟨before, ready, rfl⟩ := seen
      rw [List.append_assoc]
      exact ready.pair
  | sessionArchivingStarted settled => exact ⟨word, seen.point settled, rfl⟩
  | sessionArchived archiving =>
      rw [Seen, archiving] at seen
      obtain ⟨before, point, rfl⟩ := seen
      exact ⟨before, point, by simp⟩

/-- What has been seen can be brought to an end. -/
theorem Seen.grammatical (seen : Seen p word) : Grammatical False word := by
  unfold Seen at seen
  split at seen
  · cases seen
    exact ⟨_, .resting .unprovisioned, by simp⟩
  · exact ⟨word, .resting (ReadyWord.point seen), List.prefix_refl word⟩
  · obtain ⟨turn, -, within⟩ := seen
    exact ⟨_, .resting (within.ends .completed).point, List.prefix_append ..⟩
  · obtain ⟨turn, approval, before, -, -, within, rfl⟩ := seen
    refine ⟨_, .resting ((within.more approval .approved).ends .completed).point, ?_⟩
    simp
  · obtain ⟨turn, before, -, within, rfl⟩ := seen
    refine ⟨_, .resting (within.ends .cancelled).point, ?_⟩
    simp
  · obtain ⟨before, ready, rfl⟩ := seen
    exact ⟨_, .resting ready.idlePoint, List.prefix_refl _⟩
  · exact ⟨word, .resting seen, List.prefix_refl word⟩
  · obtain ⟨before, point, rfl⟩ := seen
    refine ⟨_, .archived point, ?_⟩
    simp
  · obtain ⟨before, point, rfl⟩ := seen
    exact ⟨_, .archived point, List.prefix_refl _⟩

/-! ## What the reducer accepts -/

/-- Walk from a projection through the events of a word. -/
def walk (p : SessionProjection) (word : List DomainEvent) : Except SessionReducerError SessionProjection :=
  word.foldlM applyTransition p

/-- The walk goes through and comes to this status. -/
def WalksTo (p : SessionProjection) (word : List DomainEvent) (status : SessionStatus) : Prop :=
  ∃ next, walk p word = .ok next ∧ next.status = status

theorem walk_concat (walked : walk p word = .ok next) {last : SessionProjection} (moves : Moves next event last) :
    walk p (word ++ [event]) = .ok last :=
  foldlM_concat_eq_ok.mpr ⟨next, walked, applyTransition_eq_ok.mpr moves⟩

theorem walk_cons {mid : SessionProjection} (moves : Moves p event mid) (walked : walk mid word = .ok next) :
    walk p (event :: word) = .ok next :=
  foldlM_cons_eq_ok.mpr ⟨mid, applyTransition_eq_ok.mpr moves, walked⟩

theorem walk_approvals (asked : Approvals turn word) (running : OfTurn p .running turn) :
    ∃ next, walk p word = .ok next ∧ OfTurn next .running turn := by
  induction asked with
  | none => exact ⟨p, rfl, running⟩
  | more approval decision before ih =>
      obtain ⟨mid, walked, running⟩ := ih
      have requested := walk_concat walked (.approvalRequested turn approval running)
      have resolved := walk_concat requested (.approvalResolved turn approval decision ⟨rfl, running.turn⟩ rfl)
      rw [List.append_assoc] at resolved
      exact ⟨_, resolved, rfl, running.turn⟩

theorem walk_turn (turned : Turn turn failed word) (ready : p.status = .ready) :
    WalksTo p word (if failed then .failed else .ready) := by
  obtain @⟨approvals, ending, asked, ends⟩ := turned
  obtain ⟨mid, walked, running⟩ :=
    walk_approvals asked (p := { p with status := .running, activeTurn := some turn }) ⟨rfl, rfl⟩
  have within := walk_cons (.turnStarted turn ready) walked
  cases ends with
  | completed => exact ⟨_, walk_concat within (.turnCompleted turn running), rfl⟩
  | cancelled =>
      have requested := walk_concat within (.turnCancellationRequested turn running)
      have cancelled := walk_concat requested (.turnCancelled turn ⟨rfl, running.turn⟩)
      rw [List.append_assoc] at cancelled
      exact ⟨_, cancelled, rfl⟩
  | failed => exact ⟨_, walk_concat within (.turnFailed turn running), rfl⟩

theorem walk_mix (mix : Mix False failed word) (ready : p.status = .ready) :
    WalksTo p word (if failed then .failed else .ready) := by
  induction mix with
  | empty => exact ⟨p, rfl, ready⟩
  | pair before allowed ih =>
      obtain ⟨mid, walked, status⟩ := ih
      rename_i failed word
      cases failed with
      | true => exact (allowed rfl).elim
      | false =>
          have idled := walk_concat walked (.sessionIdled status)
          have resumed := walk_concat idled (.sessionResumed rfl)
          rw [List.append_assoc] at resumed
          exact ⟨_, resumed, rfl⟩
  | turn before turn turned ih =>
      obtain ⟨mid, walked, status⟩ := ih
      obtain ⟨next, rest, reached⟩ := walk_turn turned status
      exact ⟨next, foldlM_append_eq_ok.mpr ⟨mid, walked, rest⟩, reached⟩

/-- From a session that has been created, the rest of a session up to a point. -/
theorem walk_point (point : Point False (.sessionCreated :: word)) (starting : p.status = .provisioning) :
    ∃ status, WalksTo p word status ∧ (status = .ready ∨ status = .idle ∨ status = .failed) := by
  generalize whole : DomainEvent.sessionCreated :: word = sentence at point
  cases point with
  | unprovisioned =>
      cases whole
      exact ⟨.failed, ⟨_, walk_cons (.provisioningFailed starting) rfl, rfl⟩, .inr (.inr rfl)⟩
  | settled sandbox mix =>
      cases whole
      obtain ⟨next, walked, status⟩ := walk_mix mix (p := { p with status := .ready, sandboxId := some sandbox }) rfl
      refine ⟨_, ⟨next, walk_cons (.sandboxProvisioned sandbox starting) walked, status⟩, ?_⟩
      split
      · exact .inr (.inr rfl)
      · exact .inl rfl
  | idle sandbox mix allowed =>
      cases whole
      rename_i failed mixed
      cases failed with
      | true => exact (allowed rfl).elim
      | false =>
          obtain ⟨next, walked, status⟩ := walk_mix mix (p := { p with status := .ready, sandboxId := some sandbox }) rfl
          have idled := walk_concat walked (.sessionIdled status)
          exact ⟨_, ⟨_, walk_cons (.sandboxProvisioned sandbox starting) idled, rfl⟩, .inr (.inl rfl)⟩

theorem walk_sentence (sentence : Sentence False (.sessionCreated :: word)) (starting : p.status = .provisioning) :
    ∃ next, walk p word = .ok next := by
  generalize whole : DomainEvent.sessionCreated :: word = sentence' at sentence
  cases sentence with
  | resting point =>
      subst whole
      obtain ⟨_, ⟨next, walked, -⟩, -⟩ := walk_point point starting
      exact ⟨next, walked⟩
  | archived point =>
      rename_i before
      obtain ⟨first, rfl⟩ := point.created
      cases whole
      obtain ⟨_, ⟨next, walked, rfl⟩, settled⟩ := walk_point point starting
      have archiving := walk_concat walked (.sessionArchivingStarted settled)
      have archived := walk_concat archiving (.sessionArchived rfl)
      rw [List.append_assoc] at archived
      exact ⟨_, archived⟩

/-! ## Streams -/

/-- The stamps of the last event, which no transition looks at. -/
def SessionProjection.stamped (p : SessionProjection) (activity : Int) (seq : EventSeq) : SessionProjection :=
  { p with lastActivity := activity, lastSeq := seq }

theorem OfTurn.stamped {status : SessionStatus} (ofTurn : OfTurn p status turn) (activity : Int) (seq : EventSeq) :
    OfTurn (p.stamped activity seq) status turn :=
  ⟨ofTurn.status, ofTurn.turn⟩

theorem Moves.stamped (moves : Moves p event next) (activity : Int) (seq : EventSeq) :
    Moves (p.stamped activity seq) event (next.stamped activity seq) := by
  cases moves with
  | sandboxProvisioned sandbox starting => exact .sandboxProvisioned sandbox starting
  | provisioningFailed starting => exact .provisioningFailed starting
  | turnStarted turn ready => exact .turnStarted turn ready
  | approvalRequested turn approval running => exact .approvalRequested turn approval (running.stamped activity seq)
  | approvalResolved turn approval decision waiting pending =>
      exact .approvalResolved turn approval decision (waiting.stamped activity seq) pending
  | turnCancellationRequested turn running => exact .turnCancellationRequested turn (running.stamped activity seq)
  | turnCancelled turn cancelling => exact .turnCancelled turn (cancelling.stamped activity seq)
  | turnCompleted turn running => exact .turnCompleted turn (running.stamped activity seq)
  | turnFailed turn running => exact .turnFailed turn (running.stamped activity seq)
  | sessionIdled ready => exact .sessionIdled ready
  | sessionResumed idle => exact .sessionResumed idle
  | sessionArchivingStarted settled => exact .sessionArchivingStarted settled
  | sessionArchived archiving => exact .sessionArchived archiving

theorem walk_stamped (walked : walk p word = .ok next) (activity : Int) (seq : EventSeq) :
    walk (p.stamped activity seq) word = .ok (next.stamped activity seq) := by
  induction word generalizing p with
  | nil =>
      cases walked
      rfl
  | cons event word ih =>
      obtain ⟨mid, applied, rest⟩ := foldlM_cons_eq_ok.mp walked
      exact walk_cons ((applyTransition_eq_ok.mp applied).stamped activity seq) (ih rest)

end

section

variable {stream : SessionId} {reducer : SessionReducer} {events : List DomainEventEnvelope}

/-- Envelopes whose payloads can be walked through are replayed. -/
theorem replay_of_walk {p next : SessionProjection} (own : reducer.streamId = stream)
    (current : reducer.projection = some p) (streams : ∀ event ∈ events, event.streamId = stream)
    (versions : ∀ event ∈ events, event.schemaVersion = domainEventSchemaV1)
    (numbered : Numbered (fun event => event.seq.value) (reducer.lastSeq.value + 1) events)
    (walked : walk p (events.map (·.payload)) = .ok next) : ∃ last, reducer.replay events = .ok last := by
  induction events generalizing reducer p next with
  | nil => exact ⟨reducer, rfl⟩
  | cons event events ih =>
      obtain ⟨mid, applied, rest⟩ := foldlM_cons_eq_ok.mp walked
      obtain ⟨seq, later⟩ := Numbered.cons_iff.mp numbered
      have moved : Starts reducer.streamId event reducer.projection (mid.stamped event.occurredAt event.seq) := by
        rw [current]
        exact .moved p mid (applyTransition_eq_ok.mp applied)
      have taken : reducer.apply event = .ok _ := apply_eq_ok.mpr
        ⟨(streams event (List.mem_cons_self ..)).trans own.symm, seq, versions event (List.mem_cons_self ..), _,
          moved, rfl⟩
      rw [← seq] at later
      obtain ⟨last, replayed⟩ := @ih ⟨reducer.streamId, event.seq, some (mid.stamped event.occurredAt event.seq)⟩
        _ _ own rfl (fun other inside => streams other (List.mem_cons_of_mem event inside))
        (fun other inside => versions other (List.mem_cons_of_mem event inside)) later (walk_stamped rest _ _)
      exact ⟨last, foldlM_cons_eq_ok.mpr ⟨_, taken, replayed⟩⟩

/-- What a replay has found. -/
structure Read (stream : SessionId) (events : List DomainEventEnvelope) (reducer : SessionReducer) : Prop where
  replayed : Replayed stream events reducer
  proper : Proper stream events
  seen : ∀ p, reducer.projection = some p → Seen p (events.map (·.payload))

theorem Read.takes {event : DomainEventEnvelope} {next : SessionReducer} (read : Read stream events reducer)
    (takes : Takes reducer event next) : Read stream (events ++ [event]) next := by
  obtain ⟨replayed, ⟨streams, versions, numbered⟩, seen⟩ := read
  refine ⟨replayed.takes takes, ⟨?_, ?_, ?_⟩, ?_⟩
  · intro other inside
    rcases List.mem_append.mp inside with before | last
    · exact streams other before
    · cases List.mem_singleton.mp last
      exact takes.stream.trans replayed.stream
  · intro other inside
    rcases List.mem_append.mp inside with before | last
    · exact versions other before
    · cases List.mem_singleton.mp last
      exact takes.version
  · apply numbered.concat
    rw [takes.seq, replayed.counted, Nat.add_comm]
  · obtain ⟨stream', last, before⟩ := reducer
    obtain ⟨-, -, -, projection, starts, rfl⟩ := takes
    rintro p ⟨⟩
    rw [List.map_append]
    cases starts with
    | created first =>
        have empty : events = [] := by
          by_contra some
          cases replayed.created.mpr some
        subst empty
        exact congrArg (fun payload => [payload]) first
    | moved before next moves =>
        have moved := (seen before rfl).moves moves
        exact moved

theorem read_of_replay (ran : (SessionReducer.new stream).replay events = .ok reducer) : Read stream events reducer := by
  refine foldlM_invariant ?_ ?_ ran
  · exact ⟨replayed_of_replay rfl, ⟨nofun, nofun, .nil⟩, nofun⟩
  · intro taken mid event next read applied
    exact read.takes (apply_eq_ok.mp applied)

/-- The empty reducer accepts a stream exactly when its envelopes are of the stream, of the first
schema version and numbered from one, and its payloads are the beginning of a session. -/
theorem accepted_iff_grammatical (stream : SessionId) (events : List DomainEventEnvelope) :
    (∃ reducer, (SessionReducer.new stream).replay events = .ok reducer) ↔
      Proper stream events ∧ Grammatical False (events.map (·.payload)) := by
  constructor
  · rintro ⟨reducer, ran⟩
    obtain ⟨replayed, proper, seen⟩ := read_of_replay ran
    refine ⟨proper, ?_⟩
    cases current : reducer.projection with
    | none =>
        have empty : events = [] := by
          by_contra some
          have := replayed.created.mpr some
          simp [current] at this
        subst empty
        exact ⟨_, .resting .unprovisioned, List.nil_prefix⟩
    | some p => exact (seen p current).grammatical
  · rintro ⟨⟨streams, versions, numbered⟩, sentence, whole, beginning⟩
    cases events with
    | nil => exact ⟨_, rfl⟩
    | cons event events =>
        obtain ⟨rest, rfl⟩ := whole.created
        obtain ⟨first, later⟩ := List.cons_prefix_cons.mp beginning
        obtain ⟨seq, following⟩ := Numbered.cons_iff.mp numbered
        let blank : SessionProjection := ⟨stream, .provisioning, none, none, none, event.occurredAt, event.seq⟩
        obtain ⟨_, through⟩ := walk_sentence whole (p := blank) rfl
        obtain ⟨_, walked⟩ := foldlM_of_isPrefix later through
        have taken : (SessionReducer.new stream).apply event = .ok ⟨stream, event.seq, some blank⟩ :=
          apply_eq_ok.mpr ⟨streams event (List.mem_cons_self ..), seq, versions event (List.mem_cons_self ..), blank,
            .created first, rfl⟩
        obtain ⟨last, replayed⟩ := @replay_of_walk stream ⟨stream, event.seq, some blank⟩ events _ _ rfl rfl
          (fun other inside => streams other (List.mem_cons_of_mem event inside))
          (fun other inside => versions other (List.mem_cons_of_mem event inside)) (seq ▸ following) walked
        exact ⟨last, foldlM_cons_eq_ok.mpr ⟨_, taken, replayed⟩⟩

/-- A session whose only turn failed and that then idles. -/
def idleAfterFailure : List DomainEvent :=
  [.sessionCreated, .sandboxProvisioned sampleSandbox, .turnStarted sampleTurn, .turnFailed sampleTurn, .sessionIdled]

/-- A failed turn ends the work for good: not even a pair of an idle and a resume may follow it. -/
theorem idle_after_failure_refused :
    Proper sampleStream (enveloped 1 idleAfterFailure) ∧
      Grammatical True ((enveloped 1 idleAfterFailure).map (·.payload)) ∧
      ¬ ∃ reducer, (SessionReducer.new sampleStream).replay (enveloped 1 idleAfterFailure) = .ok reducer := by
  refine ⟨⟨by decide, by decide, rfl⟩, ⟨_, ?_, List.prefix_refl _⟩, ?_⟩
  · have turned : Turn sampleTurn true [.turnStarted sampleTurn, .turnFailed sampleTurn] := .whole .none .failed
    exact .resting (.idle sampleSandbox (.turn .empty sampleTurn turned) fun _ => trivial)
  · rintro ⟨reducer, ran⟩
    cases ran

end

end Codebox.Domain
