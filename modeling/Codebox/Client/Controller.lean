import Codebox.Client.Http
import Codebox.Client.Prompt
import Codebox.Support.Transition

/-! # The controller in the browser

The controller of the page: requests and their continuations, the stream and its handlers, the
reconnect timer and the stored cursor. An asynchronous function is cut where it awaits, and each part
is a step of its own, so that any two may be interleaved; the end of a request and the continuation
of its caller are two steps. What the network, the socket and the storage do is chosen by the label
of a step. A listener is told of each change and does not call back, so telling it is left out.
-/

namespace Codebox.Client

open Codebox.Support

def jsonLimit : Nat := 64 * 1024

def eventLimit : Nat := 256

def reconnectDelays : List Nat := [250, 500, 1000, 2000, 4000, 5000]

inductive Connection where
  | disconnected
  | connecting
  | connected
  | reconnecting
  deriving Repr, DecidableEq

inductive Policy where
  | none
  | reconnect
  | refresh
  | terminal
  deriving Repr, DecidableEq

inductive Phase where
  | begin
  | replay
  | snapshot
  | live
  | failed
  deriving Repr, DecidableEq

/-- An identity object: two of them are the same only if they are one object. -/
structure Identity where
  ref : Nat
  instanceId : String
  sessionId : String
  deriving Repr, DecidableEq

structure Stored where
  instanceId : String
  sessionId : String
  eventSeq : Nat
  deriving Repr, DecidableEq

structure Event where
  seq : Nat
  type : String
  deriving Repr, DecidableEq

structure SessionView where
  state : String
  phase : String
  highWaterSeq : Nat
  recoveryRequired : Bool
  deriving Repr, DecidableEq

structure Device where
  verificationUrl : String
  verificationCode : String
  expiresInSeconds : Nat
  deriving Repr, DecidableEq

/-! ## The socket and the storage -/

inductive Ready where
  | connecting
  | opened
  | closing
  | closed
  deriving Repr, DecidableEq

/-- A socket with what its handlers close over. -/
structure Socket where
  ready : Ready
  myGeneration : Nat
  phase : Phase
  afterSeq : Nat
  highWater : Nat
  deriving Repr, DecidableEq

/-- The codes that a script may close a socket with; any other makes the call throw. -/
def closeAllowed (code : Nat) : Bool := code == 1000 || (3000 ≤ code && code ≤ 4999)

def Ready.close : Ready → Ready
  | .closed => .closed
  | _ => .closing

/-- A call of `close`. -/
structure Close where
  socket : Nat
  code : Nat
  threw : Bool
  deriving Repr, DecidableEq

/-- The item of the cursor, with what parsing its text gives, and which of the coming calls throw. -/
structure Storage where
  content : Option (Option Value)
  faults : List Bool

namespace Storage

def throws (storage : Storage) : Bool := storage.faults.headD false

def called (storage : Storage) : Storage := { storage with faults := storage.faults.tail }

def setItem (value : Value) (storage : Storage) : Storage := { storage.called with content := some (some value) }

def removeItem (storage : Storage) : Storage := { storage.called with content := none }

end Storage

def storedOf (value : Value) : Option Stored :=
  if validStored value then
    some ⟨(value.get "instance_id").text, (value.get "session_id").text, (value.get "event_seq").seq⟩
  else none

def clearStorage (storage : Storage) : Storage := if storage.throws then storage.called else storage.removeItem

def readStored (storage : Storage) : Option Stored × Storage :=
  if storage.throws then (none, clearStorage storage.called)
  else
    match storage.content with
    | none => (none, storage.called)
    | some raw =>
        match raw.bind storedOf with
        | some stored => (some stored, storage.called)
        | none => (none, clearStorage storage.called)

def cursor (identity : Identity) (lastSeq : Nat) : Value :=
  .object [(some "schema_version", .integer 1), (some "instance_id", .string identity.instanceId),
    (some "session_id", .string identity.sessionId), (some "event_seq", .integer lastSeq)]

/-! ## State -/

/-- A request with what its caller's continuation needs. -/
inductive Call where
  /-- The first request of `refresh`. -/
  | session (myGeneration : Nat) (stored : Option Stored) (report : Option Message)
  /-- The second one. -/
  | login (myGeneration : Nat) (report : Option Message)
  | authenticate (myGeneration : Nat)
  | mutation (kind : Mutation) (myGeneration requestIdentity : Nat)
  | diff (myGeneration requestIdentity : Nat)
  | logout (myGeneration requestIdentity : Nat)
  deriving Repr, DecidableEq

def Call.route : Call → Route
  | .session .. => .session
  | .login .. => .login
  | .authenticate _ => .bootstrap
  | .mutation kind .. => .mutation kind
  | .diff .. => .diff
  | .logout .. => .logout

inductive Task where
  | requesting (abort : Nat) (call : Call)
  | settled (call : Call) (result : Result)
  /-- The caller of a refresh that went well has a message to show. -/
  | report (refreshGeneration : Nat) (message : Message)
  | done

structure Timer where
  myGeneration : Nat
  delay : Nat
  deriving Repr, DecidableEq

structure Controller where
  storage : Storage
  disposed : Bool := false
  generation : Nat := 0
  socket : Option Nat := none
  reconnectTimer : Option Timer := none
  reconnectAttempt : Nat := 0
  currentAbort : Option Nat := none
  identity : Option Identity := none
  lastSeq : Nat := 0
  forceSnapshotCursor : Bool := false
  socketPolicy : Policy := .reconnect
  authenticated : Bool := false
  busy : Bool := false
  connection : Connection := .disconnected
  login : String := "unknown"
  session : Option SessionView := none
  device : Option Device := none
  diff : String := ""
  events : List Event := []
  error : Message := .none
  /-- Every socket made, by its number. -/
  sockets : List Socket := []
  tasks : List Task := []
  /-- How many abort controllers and identities have been made. -/
  aborts : Nat := 0
  identities : Nat := 0
  /-- The calls of `close`, the last one at the end. -/
  closes : List Close := []

namespace Controller

def setError (message : Message) (s : Controller) : Controller := { s with error := message }

def forget (s : Controller) : Controller := { s with storage := clearStorage s.storage }

def persistCursor (s : Controller) : Controller :=
  match s.identity with
  | none => s
  | some identity =>
      if s.storage.throws then { s with storage := s.storage.called, forceSnapshotCursor := true }
      else { s with storage := s.storage.setItem (cursor identity s.lastSeq) }

/-- Closing a socket with a code; an exception is swallowed by every caller. -/
def close (k code : Nat) (s : Controller) : Controller :=
  if closeAllowed code then
    { s with
      closes := s.closes ++ [⟨k, code, false⟩]
      sockets := s.sockets.modify k fun socket => { socket with ready := socket.ready.close } }
  else { s with closes := s.closes ++ [⟨k, code, true⟩] }

def closeSocket (policy : Policy) (s : Controller) : Controller :=
  let released := { s with socketPolicy := policy, socket := none }
  match s.socket with
  | none => { released with connection := .disconnected }
  | some current => { released.close current 1000 with connection := .disconnected }

def cancelReconnect (s : Controller) : Controller := { s with reconnectTimer := none }

/-- An aborted request still ends as the network has it. -/
def abortCurrent (s : Controller) : Controller := { s with currentAbort := none }

def enterBootstrap (message : Message) (s : Controller) : Controller :=
  let s := ({ s with generation := s.generation + 1 }.cancelReconnect.abortCurrent).closeSocket .none
  let s := forget { s with identity := none, lastSeq := 0, forceSnapshotCursor := false }
  { s with
    authenticated := false
    busy := false
    connection := .disconnected
    login := "unknown"
    session := none
    device := none
    diff := ""
    events := []
    error := message }

def clearVolatileForRead (s : Controller) : Controller := { s with device := none, diff := "" }

def applySnapshot (snapshot : Value) (s : Controller) : Controller :=
  let state := (snapshot.get "state").text
  let phase := match ((snapshot.get "current_turn").get "projection").get "phase" with
    | .string phase => phase
    | _ => "none"
  { s with session := some ⟨state, phase, (snapshot.get "high_water_seq").seq, state == "recovery_required"⟩ }

def applyLogin (login : Value) (s : Controller) : Controller :=
  let state := (login.get "state").text
  { s with login := state, device := if state != "device_login_pending" then none else s.device }

def beginHttp (s : Controller) : Option Controller :=
  if s.disposed || s.busy then none else some { s with busy := true, error := .none }

def endHttp (s : Controller) : Controller := { s with busy := false }

def discardFinishedHttp (s : Controller) : Controller := if s.currentAbort.isNone then { s with busy := false } else s

/-- The start of a request. -/
def send (call : Call) (s : Controller) : Controller :=
  { s with
    currentAbort := some s.aborts
    aborts := s.aborts + 1
    tasks := s.tasks ++ [.requesting s.aborts call] }

/-- The next request of an asynchronous function that is under way. -/
def resend (i : Nat) (call : Call) (s : Controller) : Controller :=
  { s with
    currentAbort := some s.aborts
    aborts := s.aborts + 1
    tasks := s.tasks.set i (.requesting s.aborts call) }

def refresh (report : Option Message) (s : Controller) : Controller :=
  match s.beginHttp with
  | none => s
  | some s =>
      let s := ({ s with generation := s.generation + 1 }.cancelReconnect.closeSocket .none).clearVolatileForRead
      let read := readStored s.storage
      send (.session s.generation read.1 report) { s with storage := read.2 }

def handleFailure (failure : Failure) (s : Controller) : Controller :=
  if failure.disposition = .reauth then s.enterBootstrap failure.message
  else if failure.disposition = .resync ∨ failure.ambiguous = true then
    (forget { s with forceSnapshotCursor := true }).refresh (some failure.message)
  else s.setError failure.message

def scheduleReconnect (myGeneration : Nat) (s : Controller) : Controller :=
  if s.disposed || s.identity.isNone || myGeneration != s.generation || s.reconnectTimer.isSome ||
      s.socketPolicy == .terminal then s
  else
    { s with
      connection := .reconnecting
      error := .streamWaiting
      reconnectTimer := some ⟨myGeneration, reconnectDelays.getD (min s.reconnectAttempt (reconnectDelays.length - 1)) 0⟩
      reconnectAttempt := s.reconnectAttempt + 1 }

/-! ## The stream -/

def setStream (k : Nat) (change : Socket → Socket) (s : Controller) : Controller :=
  { s with sockets := s.sockets.modify k change }

def streamFailure (policy : Policy) (message : Message) (k : Nat) (s : Controller) : Controller :=
  let s := { s.setStream k fun socket => { socket with phase := .failed } with socketPolicy := policy, error := message }
  match s.socket with
  | none => s
  | some current => s.close current 1008

end Controller

def wsCodes : List String :=
  ["authentication_expired", "subscribe_timeout", "protocol_error", "unsupported_version", "wrong_session", "history_gap",
    "future_cursor", "subscriber_limit", "subscriber_lagged", "stream_unavailable"]

def expectedWsErrorKeys (code : Value) : List String :=
  if code.isText "history_gap" then ["type", "code", "message", "oldest_available", "latest_available"]
  else if code.isText "future_cursor" then ["type", "code", "message", "latest_available"]
  else if code.isText "unsupported_version" then ["type", "code", "message", "supported_version"]
  else ["type", "code", "message"]

/-- The keys, the code and the message of an error frame are as they should be. -/
def validWsError (frame : Value) : Bool :=
  let code := frame.get "code"
  let keysAreValid :=
    if code.isText "subscriber_lagged" then
      exactKeys frame ["type", "code", "message"] || exactKeys frame ["type", "code", "message", "latest_available"]
    else exactKeys frame (expectedWsErrorKeys code)
  keysAreValid && code.isOneOf wsCodes && (frame.get "message").isString

/-- So are the fields that come with some codes. -/
def validWsDetails (frame : Value) : Bool :=
  let code := frame.get "code"
  let oldest := frame.get "oldest_available"
  let latest := frame.get "latest_available"
  !((code.isText "history_gap" && (!isSeq oldest || !isSeq latest || latest.seq < oldest.seq)) ||
    (code.isText "future_cursor" && !isSeq latest) ||
    (code.isText "subscriber_lagged" && frame.has "latest_available" && !isSeq latest) ||
    (code.isText "unsupported_version" && !(frame.get "supported_version").isNumber 1))

/-- The data of a message: a text has a length in bytes and what parsing it gives. -/
inductive Data where
  | binary
  | text (bytes : Nat) (parsed : Option Value)

namespace Controller

def protocolFailure (k : Nat) (s : Controller) : Controller := s.streamFailure .terminal .protocolError k

/-- The cursor is given up, and the stream with it. -/
def resyncFailure (k : Nat) (s : Controller) : Controller :=
  (forget { s with forceSnapshotCursor := true }).streamFailure .refresh .stateChanged k

def handleWsError (frame : Value) (k : Nat) (s : Controller) : Controller :=
  let code := frame.get "code"
  if !validWsError frame then s.protocolFailure k
  else if !validWsDetails frame then s.protocolFailure k
  else
    let s := s.setStream k fun socket => { socket with phase := .failed }
    if code.isText "authentication_expired" then s.enterBootstrap .authenticationRequired
    else if code.isText "history_gap" || code.isText "future_cursor" || code.isText "wrong_session" then s.resyncFailure k
    else if code.isText "protocol_error" || code.isText "unsupported_version" then s.protocolFailure k
    else s.streamFailure .refresh .streamWaiting k

def handleReplayBegin (frame : Value) (k : Nat) (stream : Socket) (s : Controller) : Controller :=
  let high := frame.get "high_water_seq"
  if stream.phase != .begin || !exactKeys frame ["type", "session_id", "after_seq", "high_water_seq"] then s.protocolFailure k
  else
    match s.identity with
    -- reading a property of null throws, and the handler ends here
    | none => s
    | some identity =>
        if !(frame.get "session_id").isText identity.sessionId || !(frame.get "after_seq").isNumber stream.afterSeq ||
            !isSeq high || high.seq < stream.afterSeq then s.protocolFailure k
        else s.setStream k fun socket => { socket with phase := .replay, highWater := high.seq }

/-- The event after the last one. -/
def advance (event : Event) (s : Controller) : Controller :=
  let s := { s with lastSeq := event.seq }.persistCursor
  let events := s.events ++ [event]
  { s with events := events.drop (events.length - eventLimit) }

def handleEvent (frame : Value) (k : Nat) (stream : Socket) (s : Controller) : Controller :=
  let envelope := frame.get "envelope"
  let seq := (envelope.get "seq").seq
  if (stream.phase != .replay && stream.phase != .live) || !exactKeys frame ["type", "envelope"] then s.protocolFailure k
  else
    match s.identity with
    | none => s
    | some identity =>
        if !validEnvelope envelope identity.sessionId then s.protocolFailure k
        else if stream.phase == .replay && stream.highWater < seq then s.protocolFailure k
        else if stream.phase == .live && seq ≤ stream.highWater then s.protocolFailure k
        else if seq ≤ s.lastSeq then s
        else if seq != s.lastSeq + 1 then s.resyncFailure k
        else s.advance ⟨seq, ((envelope.get "payload").get "type").text⟩

def handleSnapshot (frame : Value) (k : Nat) (stream : Socket) (s : Controller) : Controller :=
  let snapshot := frame.get "snapshot"
  if stream.phase != .replay || !exactKeys frame ["type", "snapshot", "high_water_seq"] || !validSnapshot snapshot then
    s.protocolFailure k
  else
    match s.identity with
    | none => s
    | some identity =>
        if !((snapshot.get "identity").get "session_id").isText identity.sessionId ||
            !((snapshot.get "identity").get "instance_id").isText identity.instanceId ||
            !(frame.get "high_water_seq").isNumber stream.highWater ||
            !(snapshot.get "high_water_seq").isNumber stream.highWater || s.lastSeq != stream.highWater then
          s.protocolFailure k
        else (s.applySnapshot snapshot).setStream k fun socket => { socket with phase := .snapshot }

def handleReplayEnd (frame : Value) (k : Nat) (stream : Socket) (s : Controller) : Controller :=
  if stream.phase != .snapshot || !exactKeys frame ["type", "session_id", "high_water_seq"] then s.protocolFailure k
  else
    match s.identity with
    | none => s
    | some identity =>
        if !(frame.get "session_id").isText identity.sessionId || !(frame.get "high_water_seq").isNumber stream.highWater then
          s.protocolFailure k
        else
          { s.setStream k fun socket => { socket with phase := .live } with
            connection := .connected
            error := .none
            reconnectAttempt := 0 }

def handleFrame (data : Data) (k : Nat) (stream : Socket) (s : Controller) : Controller :=
  if stream.phase = .failed then s
  else
    match data with
    | .binary => s.protocolFailure k
    | .text bytes parsed =>
        if jsonLimit < bytes then s.protocolFailure k
        else
          match parsed with
          | none => s.protocolFailure k
          | some frame =>
              if !frame.truthy || !(frame.get "type").isString then s.protocolFailure k
              else if (frame.get "type").isText "error" then s.handleWsError frame k
              else if (frame.get "type").isText "replay_begin" then s.handleReplayBegin frame k stream
              else if (frame.get "type").isText "event" then s.handleEvent frame k stream
              else if (frame.get "type").isText "snapshot" then s.handleSnapshot frame k stream
              else if (frame.get "type").isText "replay_end" then s.handleReplayEnd frame k stream
              else s.protocolFailure k

def connect (myGeneration : Nat) (created : Bool) (s : Controller) : Controller :=
  if s.disposed || s.identity.isNone || myGeneration != s.generation || s.socket.isSome then s
  else
    let s := { s with socketPolicy := .reconnect, connection := .connecting }
    if created then
      { s with
        socket := some s.sockets.length
        sockets := s.sockets ++ [⟨.connecting, myGeneration, .begin, s.lastSeq, 0⟩] }
    else s.scheduleReconnect myGeneration

/-- The test that the handlers of a socket begin with. -/
def hears (k : Nat) (stream : Socket) (s : Controller) : Bool :=
  !s.disposed && stream.myGeneration == s.generation && s.socket == some k && stream.phase != .failed

def onopen (k : Nat) (stream : Socket) (sendThrows : Bool) (s : Controller) : Controller :=
  if s.hears k stream && sendThrows then s.streamFailure .refresh .streamWaiting k else s

def onmessage (k : Nat) (stream : Socket) (data : Data) (s : Controller) : Controller :=
  if s.hears k stream then s.handleFrame data k stream else s

def onerror (k : Nat) (stream : Socket) (s : Controller) : Controller :=
  if s.hears k stream then s.setError .streamWaiting else s

def onclose (k : Nat) (stream : Socket) (code : Nat) (s : Controller) : Controller :=
  let s := if s.socket = some k then { s with socket := none } else s
  if s.disposed || stream.myGeneration != s.generation then s
  else
    let s := { s with connection := .disconnected }
    if s.socketPolicy = .terminal then s
    else if code = 1012 ∨ s.socketPolicy = .refresh ∨ s.socketPolicy = .reconnect then
      s.scheduleReconnect stream.myGeneration
    else s

/-- The callback of the reconnect timer. -/
def reconnect (timer : Timer) (s : Controller) : Controller :=
  let s := { s with reconnectTimer := none }
  if s.disposed || timer.myGeneration != s.generation then s
  else if s.busy then s.scheduleReconnect timer.myGeneration
  else s.refresh none

end Controller

/-- The token in the header, unless half a surrogate pair, its length or a control character rules it out. -/
def byteStringBearer (token : List UInt16) : Option (List UInt8) :=
  if (Utf16.points token).any fun point => match point with | .lone _ => true | .scalar _ => false then none
  else
    let bytes := encodeText token
    if bytes.length < 32 || 128 < bytes.length || bytes.any fun byte => byte ≤ 0x1F || byte == 0x7F then none
    else some bytes

namespace Controller

/-! ## Operations -/

def authenticate (token : List UInt16) (s : Controller) : Controller :=
  match s.beginHttp with
  | none => s
  | some s =>
      match byteStringBearer token with
      | none => endHttp { s with error := .invalidBootstrap }
      | some _ => send (.authenticate s.generation) { s with device := none, diff := "" }

/-- A request in the name of the current identity, if there is a valid key for it. -/
def sendKeyed (call : Nat → Nat → Call) (key : Bool) (s : Controller) : Controller :=
  match s.identity with
  | none => s
  | some identity =>
      match s.beginHttp with
      | none => s
      | some s =>
          let s := { s with diff := "", device := none }
          if key then send (call s.generation identity.ref) s else endHttp { s with error := .requestFailed }

def runMutation (kind : Mutation) (key : Bool) (s : Controller) : Controller := s.sendKeyed (.mutation kind) key

def startDeviceLogin (key : Bool) (s : Controller) : Controller := s.runMutation .startDeviceLogin key

def cancelDeviceLogin (key : Bool) (s : Controller) : Controller := s.runMutation .cancelDeviceLogin key

def submitPrompt (prompt : List UInt16) (key : Bool) (s : Controller) : Controller :=
  match validPromptBody prompt with
  | none => s.setError .invalidPrompt
  | some _ => s.runMutation .submitPrompt key

def cancelTurn (key : Bool) (s : Controller) : Controller := s.runMutation .cancelTurn key

def showDiff (s : Controller) : Controller :=
  match s.identity with
  | none => s
  | some identity =>
      match s.beginHttp with
      | none => s
      | some s => send (.diff s.generation identity.ref) { s with diff := "" }

def logout (key : Bool) (s : Controller) : Controller := s.sendKeyed .logout key

def dispose (s : Controller) : Controller :=
  if s.disposed then s
  else
    let s := ({ s with disposed := true, generation := s.generation + 1 }.cancelReconnect.abortCurrent).closeSocket .none
    { s with identity := none, lastSeq := 0, busy := false, device := none, diff := "", events := [] }

/-! ## Continuations -/

def stale (myGeneration : Nat) (s : Controller) : Bool := s.disposed || s.generation != myGeneration

def staleIdentity (myGeneration requestIdentity : Nat) (s : Controller) : Bool :=
  s.stale myGeneration || s.identity.map Identity.ref != some requestIdentity

/-- The stored cursor, if it can be resumed from. -/
def sameStoredIdentity (stored : Option Stored) (snapshot : Value) (s : Controller) : Option Stored :=
  stored.filter fun stored => ((snapshot.get "identity").get "instance_id").isText stored.instanceId &&
    ((snapshot.get "identity").get "session_id").isText stored.sessionId &&
    stored.eventSeq ≤ (snapshot.get "high_water_seq").seq && !s.forceSnapshotCursor

/-- The snapshot of a refresh is taken over, with the events that led up to the cursor. -/
def adopt (stored : Option Stored) (snapshot : Value) (s : Controller) : Controller :=
  let same := s.sameStoredIdentity stored snapshot
  let s := { s with
    identity := some ⟨s.identities, ((snapshot.get "identity").get "instance_id").text,
      ((snapshot.get "identity").get "session_id").text⟩
    identities := s.identities + 1
    lastSeq := (same.map Stored.eventSeq).getD (snapshot.get "high_water_seq").seq
    forceSnapshotCursor := false
    authenticated := true }
  let s := s.applySnapshot snapshot
  { s with events := if same.isSome then s.events else [] }

def sessionArrived (i myGeneration : Nat) (stored : Option Stored) (report : Option Message) (result : Result)
    (s : Controller) : Controller :=
  if s.stale myGeneration then s.discardFinishedHttp
  else
    match result with
    | .failed failure =>
        if failure.disposition = .reauth then s.endHttp.enterBootstrap failure.message
        else s.endHttp.setError failure.message
    | .ok snapshot => (s.adopt stored snapshot).persistCursor.resend i (.login myGeneration report)

/-- The end of a refresh that went well. -/
def finishRefresh (myGeneration : Nat) (report : Option Message) (created : Bool) (s : Controller) : Controller :=
  let s := s.connect myGeneration created
  match report with
  | none => s
  | some message => { s with tasks := s.tasks ++ [.report myGeneration message] }

def loginArrived (myGeneration : Nat) (report : Option Message) (result : Result) (created : Bool) (s : Controller) :
    Controller :=
  if s.stale myGeneration then s.discardFinishedHttp
  else
    match result with
    | .failed failure =>
        if failure.disposition = .reauth then s.endHttp.enterBootstrap failure.message
        else (s.endHttp.setError failure.message).finishRefresh myGeneration report created
    | .ok login => (s.endHttp.applyLogin login).finishRefresh myGeneration report created

def bootstrapped (myGeneration : Nat) (result : Result) (s : Controller) : Controller :=
  if s.stale myGeneration then s.discardFinishedHttp
  else
    match result with
    | .failed failure => s.endHttp.handleFailure failure
    | .ok value =>
        let s := s.endHttp
        (forget { s with
          identity := some ⟨s.identities, (value.get "instance_id").text, (value.get "p0_session_id").text⟩
          identities := s.identities + 1 }).refresh none

/-- What a mutation does with its answer. -/
def apply (kind : Mutation) (value : Value) (s : Controller) : Controller :=
  match kind with
  | .startDeviceLogin => { s with
      login := "device_login_pending"
      device := some ⟨(value.get "verification_url").text, (value.get "verification_code").text,
        (value.get "expires_in_seconds").seq⟩ }
  | .cancelDeviceLogin => s.applyLogin value
  | .submitPrompt => s
  | .cancelTurn =>
      let identity := value.get "identity"
      if s.identity.all fun own => (identity.get "instance_id").isText own.instanceId &&
          (identity.get "session_id").isText own.sessionId then s.applySnapshot value
      else (forget { s with forceSnapshotCursor := true }).refresh (some .stateChanged)

/-- The continuation of a request that was made in the name of an identity. -/
def answered (myGeneration requestIdentity : Nat) (result : Result) (accepted : Value → Controller → Controller)
    (s : Controller) : Controller :=
  if s.staleIdentity myGeneration requestIdentity then s.discardFinishedHttp
  else
    match result with
    | .failed failure => s.endHttp.handleFailure failure
    | .ok value => accepted value s.endHttp

def mutated (kind : Mutation) (myGeneration requestIdentity : Nat) (result : Result) (s : Controller) : Controller :=
  s.answered myGeneration requestIdentity result (apply kind)

def diffArrived (myGeneration requestIdentity : Nat) (result : Result) (s : Controller) : Controller :=
  s.answered myGeneration requestIdentity result fun value s => { s with diff := value.text }

def loggedOut (myGeneration requestIdentity : Nat) (result : Result) (s : Controller) : Controller :=
  s.answered myGeneration requestIdentity result fun _ => enterBootstrap .none

/-- The caller of a refresh shows its message if nothing has come between. -/
def reported (refreshGeneration : Nat) (message : Message) (s : Controller) : Controller :=
  if !s.stale refreshGeneration && s.identity.isSome && s.authenticated then s.setError message else s

/-- The continuation of the caller of a request. -/
def resume (i : Nat) (created : Bool) (result : Result) (s : Controller) : Call → Controller
  | .session myGeneration stored report => s.sessionArrived i myGeneration stored report result
  | .login myGeneration report => s.loginArrived myGeneration report result created
  | .authenticate myGeneration => s.bootstrapped myGeneration result
  | .mutation kind myGeneration requestIdentity => s.mutated kind myGeneration requestIdentity result
  | .diff myGeneration requestIdentity => s.diffArrived myGeneration requestIdentity result
  | .logout myGeneration requestIdentity => s.loggedOut myGeneration requestIdentity result

def finish (i : Nat) (s : Controller) : Controller := { s with tasks := s.tasks.set i .done }

end Controller

/-! ## The system -/

inductive Act where
  | refresh
  | authenticate (token : List UInt16)
  | startDeviceLogin (key : Bool)
  | cancelDeviceLogin (key : Bool)
  | submitPrompt (prompt : List UInt16) (key : Bool)
  | cancelTurn (key : Bool)
  | showDiff
  | logout (key : Bool)
  | dispose
  /-- A request ends. -/
  | reply (i : Nat) (reply : Reply)
  /-- The continuation of an ended request or refresh; a socket that it asks for is made or not. -/
  | resume (i : Nat) (created : Bool)
  | timer
  | opened (k : Nat) (sendThrows : Bool)
  | message (k : Nat) (data : Data)
  | errored (k : Nat)
  | closed (k : Nat) (code : Nat)

/-- An action with the calls of the storage that throw in it. -/
structure Label where
  act : Act
  faults : List Bool := []

namespace Controller

def reply (i : Nat) (reply : Reply) (s : Controller) : Option Controller :=
  match s.tasks[i]? with
  | some (.requesting abort call) => some { s with
      currentAbort := if s.currentAbort = some abort then none else s.currentAbort
      tasks := s.tasks.set i (.settled call (request call.route reply)) }
  | _ => none

def resumeTask (i : Nat) (created : Bool) (s : Controller) : Option Controller :=
  match s.tasks[i]? with
  | some (.settled call result) => some ((s.finish i).resume i created result call)
  | some (.report refreshGeneration message) => some ((s.finish i).reported refreshGeneration message)
  | _ => none

/-- A handler of a socket that is in one of the given states, with the state that it is in then. -/
def onSocket (k : Nat) (before : Ready → Bool) (after : Ready → Ready) (handler : Socket → Controller → Controller)
    (s : Controller) : Option Controller :=
  match s.sockets[k]? with
  | none => none
  | some stream =>
      if before stream.ready then
        some (handler stream (s.setStream k fun socket => { socket with ready := after socket.ready }))
      else none

def act (s : Controller) : Act → Option Controller
  | .refresh => some (s.refresh none)
  | .authenticate token => some (s.authenticate token)
  | .startDeviceLogin key => some (s.startDeviceLogin key)
  | .cancelDeviceLogin key => some (s.cancelDeviceLogin key)
  | .submitPrompt prompt key => some (s.submitPrompt prompt key)
  | .cancelTurn key => some (s.cancelTurn key)
  | .showDiff => some s.showDiff
  | .logout key => some (s.logout key)
  | .dispose => some s.dispose
  | .reply i answer => s.reply i answer
  | .resume i created => s.resumeTask i created
  | .timer => s.reconnectTimer.map fun timer => s.reconnect timer
  | .opened k sendThrows => s.onSocket k (· == .connecting) (fun _ => .opened) fun stream => onopen k stream sendThrows
  | .message k data => s.onSocket k (· == .opened) id fun stream => onmessage k stream data
  | .errored k => s.onSocket k (· != .closed) id fun stream => onerror k stream
  | .closed k code => s.onSocket k (· != .closed) (fun _ => .closed) fun stream => onclose k stream code

def step (s : Controller) (label : Label) : Option Controller :=
  act { s with storage := { s.storage with faults := label.faults } } label.act

end Controller

/-- The storage may hold anything when the page is loaded. -/
def system : System Controller Label where
  initial s := ∃ content, s = { storage := ⟨content, []⟩ }
  step := Controller.step

end Codebox.Client
