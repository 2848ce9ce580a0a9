import Codebox.Client.EventLog

/-! # Failures of the stream

A stream that fails is closed with a code that a script may not use, so that the call throws and the
exception is swallowed: the socket stays open, and the policy that was recorded for its end waits for
the server to close it. Closing the socket takes effect only where the stream does not fail, on the
frames that fit the phase it is in, and on the one error that ends the session with an allowed code.
-/

namespace Codebox.Client

/-- Every call of `close` that a step makes takes effect. -/
def ClosesTakeEffect (s s' : Controller) : Prop := ∀ call ∈ s'.closes.drop s.closes.length, call.threw = false

theorem closesTakeEffect_of_eq {s s' : Controller} (same : s'.closes = s.closes) : ClosesTakeEffect s s' := by
  intro call mem
  rw [same, List.drop_length] at mem
  cases mem

theorem closesTakeEffect_concat {s s' : Controller} {call : Close} (made : s'.closes = s.closes ++ [call]) :
    ClosesTakeEffect s s' ↔ call.threw = false := by
  unfold ClosesTakeEffect
  rw [made, List.drop_left]
  simp

/-! ## The frames that are accepted -/

/-- The end of the session is the one error that closes the socket with an allowed code. -/
def ExpiresSession (frame : Value) : Prop :=
  (frame.get "type").isText "error" = true ∧ (frame.get "code").isText "authentication_expired" = true ∧
    exactKeys frame ["type", "code", "message"] = true ∧ (frame.get "message").isString = true

/-- The replay begins where the subscription asked it to. -/
@[mk_iff]
structure BeginsReplay (s : Controller) (stream : Socket) (frame : Value) : Prop where
  type : (frame.get "type").isText "replay_begin" = true
  phase : stream.phase = .begin
  keys : exactKeys frame ["type", "session_id", "after_seq", "high_water_seq"] = true
  fits : ∀ identity ∈ s.identity, (frame.get "session_id").isText identity.sessionId = true ∧
    (frame.get "after_seq").isNumber stream.afterSeq = true ∧ isSeq (frame.get "high_water_seq") = true ∧
    stream.afterSeq ≤ (frame.get "high_water_seq").seq

/-- An event is one of the replay or a later one, and it is not ahead of the next one. -/
@[mk_iff]
structure BringsEvent (s : Controller) (stream : Socket) (frame : Value) : Prop where
  type : (frame.get "type").isText "event" = true
  phase : stream.phase = .replay ∨ stream.phase = .live
  keys : exactKeys frame ["type", "envelope"] = true
  fits : ∀ identity ∈ s.identity, validEnvelope (frame.get "envelope") identity.sessionId = true ∧
    (stream.phase = .replay → ((frame.get "envelope").get "seq").seq ≤ stream.highWater) ∧
    (stream.phase = .live → stream.highWater < ((frame.get "envelope").get "seq").seq) ∧
    ((frame.get "envelope").get "seq").seq ≤ s.lastSeq + 1

/-- The snapshot is the one at the end of the replay. -/
@[mk_iff]
structure BringsSnapshot (s : Controller) (stream : Socket) (frame : Value) : Prop where
  type : (frame.get "type").isText "snapshot" = true
  phase : stream.phase = .replay
  keys : exactKeys frame ["type", "snapshot", "high_water_seq"] = true
  valid : validSnapshot (frame.get "snapshot") = true
  fits : ∀ identity ∈ s.identity,
    (((frame.get "snapshot").get "identity").get "session_id").isText identity.sessionId = true ∧
    (((frame.get "snapshot").get "identity").get "instance_id").isText identity.instanceId = true ∧
    (frame.get "high_water_seq").isNumber stream.highWater = true ∧
    ((frame.get "snapshot").get "high_water_seq").isNumber stream.highWater = true ∧ s.lastSeq = stream.highWater

@[mk_iff]
structure EndsReplay (s : Controller) (stream : Socket) (frame : Value) : Prop where
  type : (frame.get "type").isText "replay_end" = true
  phase : stream.phase = .snapshot
  keys : exactKeys frame ["type", "session_id", "high_water_seq"] = true
  fits : ∀ identity ∈ s.identity, (frame.get "session_id").isText identity.sessionId = true ∧
    (frame.get "high_water_seq").isNumber stream.highWater = true

/-- The frames that the stream goes on with. -/
def Accepted (s : Controller) (stream : Socket) : Data → Prop
  | .text bytes (some frame) => bytes ≤ jsonLimit ∧ (ExpiresSession frame ∨ BeginsReplay s stream frame ∨
      BringsEvent s stream frame ∨ BringsSnapshot s stream frame ∨ EndsReplay s stream frame)
  | _ => False

namespace Controller

variable {current : Nat}

/-- With a socket, a failure of the stream makes a call that throws. -/
theorem not_closesTakeEffect_streamFailure {s t : Controller} (open_ : t.socket = some current)
    (same : t.closes = s.closes) (policy : Policy) (message : Message) (k : Nat) :
    ¬ClosesTakeEffect s (t.streamFailure policy message k) := by
  have made : (t.streamFailure policy message k).closes = s.closes ++ [⟨current, 1008, true⟩] := by
    rw [← same]
    simp [streamFailure, setStream, open_, close, closeAllowed]
  rw [closesTakeEffect_concat made]
  exact Bool.noConfusion

theorem not_closesTakeEffect_resyncFailure {s t : Controller} (open_ : t.socket = some current)
    (same : t.closes = s.closes) (k : Nat) : ¬ClosesTakeEffect s (t.resyncFailure k) := by
  unfold resyncFailure
  apply not_closesTakeEffect_streamFailure
  · exact open_
  · exact same

theorem closesTakeEffect_enterBootstrap {s t : Controller} (open_ : t.socket = some current)
    (same : t.closes = s.closes) (message : Message) : ClosesTakeEffect s (t.enterBootstrap message) := by
  have made : (t.enterBootstrap message).closes = s.closes ++ [⟨current, 1000, false⟩] := by
    rw [← same]
    simp [enterBootstrap, closeSocket, cancelReconnect, abortCurrent, open_, close, closeAllowed, forget]
  rw [closesTakeEffect_concat made]

end Controller

variable {text : String}

theorem Value.isText_iff {value : Value} : value.isText text = true ↔ value = .string text := by
  cases value <;> simp [Value.isText]

namespace Controller

variable {s : Controller} {k bytes : Nat} {stream : Socket} {frame : Value}

theorem not_closesTakeEffect_protocolFailure (current : s.socket = some k) : ¬ClosesTakeEffect s (s.protocolFailure k) :=
  not_closesTakeEffect_streamFailure current rfl _ _ _

/-- An error frame fails the stream unless it ends the session. -/
theorem closesTakeEffect_handleWsError_iff (current : s.socket = some k) (type : (frame.get "type").isText "error" = true) :
    ClosesTakeEffect s (s.handleWsError frame k) ↔ ExpiresSession frame := by
  have failed : ¬ClosesTakeEffect s (s.protocolFailure k) := not_closesTakeEffect_protocolFailure current
  have failing : ∀ {t : Controller}, t.socket = some k → t.closes = s.closes → ∀ policy message,
      ¬ClosesTakeEffect s (t.streamFailure policy message k) :=
    fun here same policy message => not_closesTakeEffect_streamFailure here same policy message k
  unfold handleWsError
  dsimp only
  by_cases expired : (frame.get "code").isText "authentication_expired" = true
  · have code := Value.isText_iff.mp expired
    have valid : validWsError frame =
        (exactKeys frame ["type", "code", "message"] && (frame.get "message").isString) := by
      simp [validWsError, code, Value.isText, Value.isOneOf, wsCodes, expectedWsErrorKeys]
    have details : validWsDetails frame = true := by simp [validWsDetails, code, Value.isText]
    rw [valid, details, if_neg (show ¬(!true) = true by decide), if_pos expired]
    split
    · next refused =>
        apply iff_of_false failed
        rintro ⟨-, -, keys, message⟩
        simp [keys, message] at refused
    · next accepted =>
        have shape : exactKeys frame ["type", "code", "message"] = true ∧ (frame.get "message").isString = true := by
          simpa using accepted
        apply iff_of_true
        · exact closesTakeEffect_enterBootstrap (t := s.setStream k _) current rfl _
        · exact ⟨type, expired, shape⟩
  · apply iff_of_false
    · split
      · exact failed
      · split
        · exact failed
        · split
          · exact not_closesTakeEffect_resyncFailure (t := s.setStream k _) current rfl k
          · split <;> exact failing (t := s.setStream k _) current rfl _ _
    · exact fun expires => expired expires.2.1

/-- A test that fails the stream unless it is passed. -/
theorem closesTakeEffect_ite_iff {refused : Prop} [Decidable refused] {t : Controller} (current : s.socket = some k) :
    ClosesTakeEffect s (if refused then s.protocolFailure k else t) ↔ ¬refused ∧ ClosesTakeEffect s t := by
  split
  · next fails => exact iff_of_false (not_closesTakeEffect_protocolFailure current) fun passed => passed.1 fails
  · next passes => exact (and_iff_right passes).symm

theorem closesTakeEffect_handleReplayBegin_iff (current : s.socket = some k)
    (type : (frame.get "type").isText "replay_begin" = true) :
    ClosesTakeEffect s (s.handleReplayBegin frame k stream) ↔ BeginsReplay s stream frame := by
  unfold handleReplayBegin
  dsimp only
  rw [closesTakeEffect_ite_iff current, beginsReplay_iff]
  cases known : s.identity with
  | none => simp [type, closesTakeEffect_of_eq]
  | some identity =>
      dsimp only
      rw [closesTakeEffect_ite_iff current]
      simp [type, closesTakeEffect_of_eq, setStream, and_assoc]

theorem advance_closes (event : Event) (s : Controller) : (s.advance event).closes = s.closes := by
  rw [advance_eq]
  unfold persistCursor
  split
  · rfl
  · split <;> rfl

/-- A repeated event is dropped, a gap fails the stream, and the next event is taken. -/
theorem closesTakeEffect_take_iff (current : s.socket = some k) (event : Event) :
    ClosesTakeEffect s (if event.seq ≤ s.lastSeq then s else if event.seq != s.lastSeq + 1 then s.resyncFailure k
      else s.advance event) ↔ event.seq ≤ s.lastSeq + 1 := by
  split
  · next old => exact iff_of_true (closesTakeEffect_of_eq rfl) (Nat.le_succ_of_le old)
  · next new =>
      split
      · next gap =>
          apply iff_of_false (not_closesTakeEffect_resyncFailure current rfl k)
          have apart : event.seq ≠ s.lastSeq + 1 := by simpa using gap
          omega
      · next follows =>
          have next : event.seq = s.lastSeq + 1 := by simpa using follows
          exact iff_of_true (closesTakeEffect_of_eq (advance_closes event s)) (Nat.le_of_eq next)

theorem closesTakeEffect_handleEvent_iff (current : s.socket = some k) (type : (frame.get "type").isText "event" = true) :
    ClosesTakeEffect s (s.handleEvent frame k stream) ↔ BringsEvent s stream frame := by
  unfold handleEvent
  dsimp only
  rw [closesTakeEffect_ite_iff current, bringsEvent_iff]
  cases known : s.identity with
  | none => simp [type, closesTakeEffect_of_eq, Decidable.or_iff_not_imp_left]
  | some identity =>
      -- the tests in the order of the source: what fails the stream first, then where the event stands
      have taken := closesTakeEffect_take_iff current
        ⟨((frame.get "envelope").get "seq").seq, (((frame.get "envelope").get "payload").get "type").text⟩
      dsimp only at taken ⊢
      iterate 3 rw [closesTakeEffect_ite_iff current]
      rw [taken]
      simp [type, Decidable.or_iff_not_imp_left, and_assoc]

theorem closesTakeEffect_handleSnapshot_iff (current : s.socket = some k)
    (type : (frame.get "type").isText "snapshot" = true) :
    ClosesTakeEffect s (s.handleSnapshot frame k stream) ↔ BringsSnapshot s stream frame := by
  unfold handleSnapshot
  dsimp only
  rw [closesTakeEffect_ite_iff current, bringsSnapshot_iff]
  cases known : s.identity with
  | none => simp [type, closesTakeEffect_of_eq, and_assoc]
  | some identity =>
      dsimp only
      rw [closesTakeEffect_ite_iff current]
      simp [type, closesTakeEffect_of_eq, applySnapshot, setStream, and_assoc]

theorem closesTakeEffect_handleReplayEnd_iff (current : s.socket = some k)
    (type : (frame.get "type").isText "replay_end" = true) :
    ClosesTakeEffect s (s.handleReplayEnd frame k stream) ↔ EndsReplay s stream frame := by
  unfold handleReplayEnd
  rw [closesTakeEffect_ite_iff current, endsReplay_iff]
  cases known : s.identity with
  | none => simp [type, closesTakeEffect_of_eq]
  | some identity =>
      dsimp only
      rw [closesTakeEffect_ite_iff current]
      simp [type, closesTakeEffect_of_eq, setStream, and_assoc]

/-- A frame with a known type is an object. -/
theorem truthy_of_type (type : (frame.get "type").isText text = true) :
    frame.truthy = true ∧ (frame.get "type").isString = true := by
  constructor
  · cases frame <;> first | rfl | cases type
  · rw [Value.isText_iff.mp type]
    rfl

/-- An accepted frame has one of five types. -/
theorem accepted_type (accepted : Accepted s stream (.text bytes (some frame))) :
    ∃ text ∈ ["error", "replay_begin", "event", "snapshot", "replay_end"], (frame.get "type").isText text = true := by
  obtain ⟨-, expires | begins | brings | brings | ends⟩ := accepted
  · exact ⟨"error", by decide, expires.1⟩
  · exact ⟨"replay_begin", by decide, begins.type⟩
  · exact ⟨"event", by decide, brings.type⟩
  · exact ⟨"snapshot", by decide, brings.type⟩
  · exact ⟨"replay_end", by decide, ends.type⟩

/-- A frame of one type is accepted as a frame of that type. -/
theorem accepted_iff (small : bytes ≤ jsonLimit) (type : (frame.get "type").isText text = true) :
    Accepted s stream (.text bytes (some frame)) ↔
      (text = "error" ∧ ExpiresSession frame) ∨ (text = "replay_begin" ∧ BeginsReplay s stream frame) ∨
        (text = "event" ∧ BringsEvent s stream frame) ∨ (text = "snapshot" ∧ BringsSnapshot s stream frame) ∨
        (text = "replay_end" ∧ EndsReplay s stream frame) := by
  have same : ∀ other, (frame.get "type").isText other = true → text = other := by
    intro other found
    have equal := (Value.isText_iff.mp type).symm.trans (Value.isText_iff.mp found)
    exact Value.string.inj equal
  constructor
  · rintro ⟨-, expires | begins | brings | brings | ends⟩
    · exact .inl ⟨same _ expires.1, expires⟩
    · exact .inr (.inl ⟨same _ begins.type, begins⟩)
    · exact .inr (.inr (.inl ⟨same _ brings.type, brings⟩))
    · exact .inr (.inr (.inr (.inl ⟨same _ brings.type, brings⟩)))
    · exact .inr (.inr (.inr (.inr ⟨same _ ends.type, ends⟩)))
  · rintro (⟨-, expires⟩ | ⟨-, begins⟩ | ⟨-, brings⟩ | ⟨-, brings⟩ | ⟨-, ends⟩)
    · exact ⟨small, .inl expires⟩
    · exact ⟨small, .inr (.inl begins)⟩
    · exact ⟨small, .inr (.inr (.inl brings))⟩
    · exact ⟨small, .inr (.inr (.inr (.inl brings)))⟩
    · exact ⟨small, .inr (.inr (.inr (.inr ends)))⟩

theorem closesTakeEffect_handleFrame_iff (current : s.socket = some k) (going : stream.phase ≠ .failed) (data : Data) :
    ClosesTakeEffect s (s.handleFrame data k stream) ↔ Accepted s stream data := by
  have failed : ¬ClosesTakeEffect s (s.protocolFailure k) := not_closesTakeEffect_protocolFailure current
  unfold handleFrame
  rw [if_neg going]
  cases data with
  | binary => exact iff_of_false failed id
  | text bytes parsed =>
      dsimp only
      split
      · next large =>
          apply iff_of_false failed
          intro accepted
          cases parsed with
          | none => exact accepted
          | some frame => exact absurd accepted.1 (Nat.not_le.mpr large)
      · next fits =>
          have small := Nat.not_lt.mp fits
          cases parsed with
          | none => exact iff_of_false failed id
          | some frame =>
              dsimp only
              split_ifs with unread error begin event snapshot end_
              · apply iff_of_false failed
                intro accepted
                obtain ⟨text, -, type⟩ := accepted_type accepted
                obtain ⟨object, string⟩ := truthy_of_type type
                simp [object, string] at unread
              · rw [closesTakeEffect_handleWsError_iff current error, accepted_iff small error]
                simp
              · rw [closesTakeEffect_handleReplayBegin_iff current begin, accepted_iff small begin]
                simp
              · rw [closesTakeEffect_handleEvent_iff current event, accepted_iff small event]
                simp
              · rw [closesTakeEffect_handleSnapshot_iff current snapshot, accepted_iff small snapshot]
                simp
              · rw [closesTakeEffect_handleReplayEnd_iff current end_, accepted_iff small end_]
                simp
              · apply iff_of_false failed
                intro accepted
                obtain ⟨text, known, type⟩ := accepted_type accepted
                simp only [List.mem_cons, List.not_mem_nil, or_false] at known
                obtain rfl | rfl | rfl | rfl | rfl := known
                · exact error type
                · exact begin type
                · exact event type
                · exact snapshot type
                · exact end_ type

end Controller

/-- Whatever state the controller is in, the calls of `close` that a message or a failed subscription leads to take effect
exactly if no handler runs, or the frame is one that the stream goes on with, or the subscription was sent. -/
theorem stream_close_takes_effect_iff (s : Controller) (k : Nat) (stream : Socket) :
    (∀ data, ClosesTakeEffect s (s.onmessage k stream data) ↔ s.hears k stream = false ∨ Accepted s stream data) ∧
      ∀ sendThrows, ClosesTakeEffect s (s.onopen k stream sendThrows) ↔ s.hears k stream = false ∨ sendThrows = false := by
  by_cases heard : s.hears k stream = true
  · obtain ⟨-, -, current, going⟩ := Controller.hears_iff.mp heard
    constructor
    · intro data
      rw [Controller.onmessage, if_pos heard, Controller.closesTakeEffect_handleFrame_iff current going]
      simp [heard]
    · intro sendThrows
      unfold Controller.onopen
      cases sendThrows with
      | false => exact iff_of_true (closesTakeEffect_of_eq (by simp)) (.inr rfl)
      | true =>
          rw [if_pos (by simp [heard])]
          apply iff_of_false (Controller.not_closesTakeEffect_streamFailure current rfl _ _ _)
          simp [heard]
  · have deaf : s.hears k stream = false := Bool.eq_false_iff.mpr heard
    constructor
    · intro data
      rw [Controller.onmessage, if_neg heard]
      exact iff_of_true (closesTakeEffect_of_eq rfl) (.inl deaf)
    · intro sendThrows
      rw [Controller.onopen, if_neg (by simp [deaf])]
      exact iff_of_true (closesTakeEffect_of_eq rfl) (.inl deaf)

/-- A frame that is no text fails the stream of a loaded page, and its socket stays open and current. -/
theorem failed_stream_stays_open : ∃ s stream, system.Reachable s ∧ s.socket = some 0 ∧ s.sockets = [stream] ∧
    stream.ready = .opened ∧ ¬ClosesTakeEffect s (s.onmessage 0 stream .binary) ∧
    (s.onmessage 0 stream .binary).socketPolicy = .terminal ∧ (s.onmessage 0 stream .binary).socket = some 0 ∧
    (s.onmessage 0 stream .binary).sockets = [{ stream with phase := .failed }] := by
  have found : (system.run { storage := ⟨none, []⟩ } (connecting 0 0 0)).map (fun s => (s.socket, s.sockets,
      s.closes, s.hears 0 ⟨.opened, 1, .begin, 0, 0⟩)) = some (some 0, [⟨.opened, 1, .begin, 0, 0⟩], [], true) := by
    decide +kernel
  obtain ⟨s, ran, parts⟩ := Option.map_eq_some_iff.mp found
  simp only [Prod.mk.injEq] at parts
  obtain ⟨socket, sockets, closes, heard⟩ := parts
  have start : system.Reachable { storage := ⟨none, []⟩ } := .initial ⟨none, rfl⟩
  have failed : s.onmessage 0 ⟨.opened, 1, .begin, 0, 0⟩ .binary = s.protocolFailure 0 := by
    rw [Controller.onmessage, if_pos heard]
    rfl
  refine ⟨s, ⟨.opened, 1, .begin, 0, 0⟩, start.run ran, socket, sockets, rfl, ?_⟩
  rw [failed]
  refine ⟨Controller.not_closesTakeEffect_protocolFailure socket, ?_⟩
  simp [Controller.protocolFailure, Controller.streamFailure, Controller.setStream, Controller.close, socket, sockets,
    closeAllowed]

end Codebox.Client
