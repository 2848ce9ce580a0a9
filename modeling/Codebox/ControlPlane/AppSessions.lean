import Mathlib.Data.List.Sort
import Codebox.Support.Transition
import Codebox.Support.Entrywise
import Codebox.ControlPlane.Cookie

/-! # Operator sessions

The registry holds every session that may still authenticate, and every ended session on which a
request still holds a lease. Ended sessions without a lease are dropped by the next pruning or by
the release of the last lease.
-/

namespace Codebox.ControlPlane

open Codebox.Support

def maxAppSessions : Nat := 4

def maxCookieDraws : Nat := 8

/-- The largest duration, in nanoseconds: a full word of seconds and 999999999 ns. -/
def durationMax : Nat := 18446744073709551615999999999

def checkedAdd (now lifetime : Nat) : Option Nat :=
  if now + lifetime ≤ durationMax then some (now + lifetime) else none

/-- A whole number of seconds from five minutes through twelve hours. -/
structure SessionLifetime where
  seconds : Nat
  min_le : 300 ≤ seconds
  le_max : seconds ≤ 43200
  deriving Repr, DecidableEq

def SessionLifetime.nanos (lifetime : SessionLifetime) : Nat := 1000000000 * lifetime.seconds

structure AppSession where
  token : Token
  expiresAt : Nat
  issuanceSeq : Nat
  invalidated : Bool := false
  activeRequests : Nat := 0
  deriving Repr, DecidableEq

structure AppSessionLease where
  token : Token
  issuanceSeq : Nat
  active : Bool := true
  deriving Repr, DecidableEq

namespace AppSession

def expire (now : Nat) (session : AppSession) : AppSession :=
  if session.expiresAt ≤ now then { session with invalidated := true } else session

def kept (session : AppSession) : Bool := !session.invalidated || session.activeRequests != 0

def invalidate (session : AppSession) : AppSession := { session with invalidated := true }

def lend (session : AppSession) : AppSession :=
  { session with activeRequests := saturatingAdd session.activeRequests 1 }

def giveBack (session : AppSession) : AppSession :=
  { session with activeRequests := session.activeRequests - 1 }

def lease (session : AppSession) : AppSessionLease := ⟨session.token, session.issuanceSeq, true⟩

def named (cookie : Token) (sessionSeq : Nat) (session : AppSession) : Bool :=
  session.issuanceSeq == sessionSeq && Token.fixedTokenEq session.token cookie

/-- Whether a request with this cookie is let in on this session. -/
def accepts (candidate : Token) (valid : Bool) (now : Nat) (session : AppSession) : Bool :=
  let equal := Token.fixedTokenEq session.token candidate
  valid && equal && !session.invalidated && decide (now < session.expiresAt)

end AppSession

structure AppSessionRegistry where
  sessions : List AppSession := []
  issuanceSeq : Nat := 0
  deriving Repr, DecidableEq

namespace AppSessionRegistry

def pruneExpired (now : Nat) (registry : AppSessionRegistry) : AppSessionRegistry :=
  let expired := registry.sessions.map (AppSession.expire now)
  let retained := expired.filter AppSession.kept
  { registry with sessions := retained.insertionSort (fun a b => a.issuanceSeq ≤ b.issuanceSeq) }

/-- The sessions that are not invalidated. -/
def open_ (sessions : List AppSession) : Nat := sessions.countP fun session => !session.invalidated

/-- At most `draws` buffers of the entropy source are tried. -/
def drawToken (sessions : List AppSession) (entropy : Entropy) : (draws : Nat) → Except ApiError Token
  | 0 => .error .serviceUnavailable
  | draws + 1 =>
      match entropy.fill draws with
      | none => .error .serviceUnavailable
      | some random =>
          match Token.ofBytes (entropy.encode random.bytes) with
          | none => .error .serviceUnavailable
          | some token =>
              if sessions.any (fun session => Token.fixedTokenEq session.token token) then
                drawToken sessions entropy draws
              else .ok token

def countIssuance (registry : AppSessionRegistry) : AppSessionRegistry :=
  { registry with issuanceSeq := saturatingAdd registry.issuanceSeq 1 }

def push (registry : AppSessionRegistry) (session : AppSession) : AppSessionRegistry :=
  { registry with sessions := registry.sessions ++ [session] }

/-- The issuance number is taken before the deadline is computed. -/
def register (lifetime : SessionLifetime) (now : Nat) (registry : AppSessionRegistry) (token : Token) :
    Except ApiError AppSession × AppSessionRegistry :=
  let registry := registry.countIssuance
  match checkedAdd now lifetime.nanos with
  | none => (.error .serviceUnavailable, registry)
  | some expiresAt =>
      let session : AppSession := { token, expiresAt, issuanceSeq := registry.issuanceSeq }
      (.ok session, registry.push session)

/-- The session that a bootstrap adds to the pruned registry. -/
def drawSession (lifetime : SessionLifetime) (entropy : Entropy) (now : Nat) (registry : AppSessionRegistry) :
    Except ApiError AppSession × AppSessionRegistry :=
  if maxAppSessions ≤ open_ registry.sessions then (.error .sessionLimit, registry)
  else
    match drawToken registry.sessions entropy maxCookieDraws with
    | .error error => (.error error, registry)
    | .ok token => registry.register lifetime now token

def issueSession (lifetime : SessionLifetime) (entropy : Entropy) (now : Nat) (registry : AppSessionRegistry) :
    Except ApiError AppSession × AppSessionRegistry :=
  (registry.pruneExpired now).drawSession lifetime entropy now

def setCookie (lifetime : SessionLifetime) (session : AppSession) : Bytes :=
  cookieName ++ equals :: session.token.bytes ++
    "; Secure; HttpOnly; SameSite=Strict; Path=/; Max-Age=".toUTF8.toList ++ (toString lifetime.seconds).toUTF8.toList

/-- What a bootstrap answers with: the cookie to set and the lifetime in seconds. -/
def createAppSession (lifetime : SessionLifetime) (entropy : Entropy) (now : Nat)
    (registry : AppSessionRegistry) : Except ApiError (Bytes × Nat) × AppSessionRegistry :=
  let (result, registry) := registry.issueSession lifetime entropy now
  (result.map fun session => (setCookie lifetime session, lifetime.seconds), registry)

def authenticateCookie (headers : List Bytes) (now : Nat) (registry : AppSessionRegistry) :
    Except ApiError AppSessionLease × AppSessionRegistry :=
  let (candidate, valid) := parseCookie headers
  let registry := registry.pruneExpired now
  match (lastMatch (AppSession.accepts candidate valid now) registry.sessions).bind fun index =>
      registry.sessions[index]?.map fun session => (index, session) with
  | none => (.error .authenticationRequired, registry)
  | some (index, session) =>
      (.ok session.lease, { registry with sessions := registry.sessions.modify index AppSession.lend })

def invalidateCookie (cookie : Token) (sessionSeq : Nat) (registry : AppSessionRegistry) : AppSessionRegistry :=
  match registry.sessions.findIdx? (AppSession.named cookie sessionSeq) with
  | none => registry
  | some index => { registry with sessions := registry.sessions.modify index AppSession.invalidate }

/-- Whether the responses kept for the session are to go too, and the registry after the release. -/
def releaseAppSession (sessionSeq : Nat) (registry : AppSessionRegistry) : Bool × AppSessionRegistry :=
  match registry.sessions.findIdx? (fun session => session.issuanceSeq == sessionSeq) with
  | none => (true, registry)
  | some index =>
      let sessions := registry.sessions.modify index AppSession.giveBack
      if sessions[index]?.any (fun session => session.invalidated && session.activeRequests == 0) then
        (true, { registry with sessions := sessions.eraseIdx index })
      else (false, { registry with sessions })

def appSessionIsValid (sessionSeq now : Nat) (registry : AppSessionRegistry) : Bool × AppSessionRegistry :=
  let registry := registry.pruneExpired now
  (registry.sessions.any fun session =>
    session.issuanceSeq == sessionSeq && !session.invalidated && decide (now < session.expiresAt), registry)

end AppSessionRegistry

/-! ## Sequences of calls -/

/-- A session that was registered at some time, and whether a logout named it since. -/
structure Issued where
  token : Token
  expiresAt : Nat
  issuanceSeq : Nat
  loggedOut : Bool := false
  deriving Repr, DecidableEq

namespace Issued

def of (session : AppSession) : Issued := ⟨session.token, session.expiresAt, session.issuanceSeq, false⟩

def logout (cookie : Token) (sessionSeq : Nat) (issued : Issued) : Issued :=
  if issued.token = cookie ∧ issued.issuanceSeq = sessionSeq then { issued with loggedOut := true } else issued

/-- Neither logged out nor expired. -/
def Live (now : Nat) (issued : Issued) : Prop := issued.loggedOut = false ∧ now < issued.expiresAt

end Issued

structure AppSessionSys where
  registry : AppSessionRegistry := {}
  leases : List AppSessionLease := []
  clock : Nat := 0
  issued : List Issued := []

inductive AppSessionLabel where
  | create (entropy : Entropy) (now : Nat)
  | authenticate (headers : List Bytes) (now : Nat)
  | logout (cookie : Token) (sessionSeq : Nat)
  | release (lease : Nat)
  | isValid (sessionSeq now : Nat)

namespace AppSessionSys

def create (lifetime : SessionLifetime) (entropy : Entropy) (now : Nat) (sys : AppSessionSys) : AppSessionSys :=
  let (result, registry) := sys.registry.issueSession lifetime entropy now
  let issued := match result with
    | .error _ => sys.issued
    | .ok session => sys.issued ++ [Issued.of session]
  { sys with registry, clock := now, issued }

def authenticate (headers : List Bytes) (now : Nat) (sys : AppSessionSys) : AppSessionSys :=
  let (result, registry) := sys.registry.authenticateCookie headers now
  let leases := match result with
    | .error _ => sys.leases
    | .ok lease => sys.leases ++ [lease]
  { sys with registry, clock := now, leases }

/-- The lease is dropped. -/
def release (i : Nat) (lease : AppSessionLease) (sys : AppSessionSys) : AppSessionSys :=
  { sys with
    registry := (sys.registry.releaseAppSession lease.issuanceSeq).2
    leases := sys.leases.set i { lease with active := false } }

def step (lifetime : SessionLifetime) (sys : AppSessionSys) : AppSessionLabel → Option AppSessionSys
  | .create entropy now => if sys.clock ≤ now then some (sys.create lifetime entropy now) else none
  | .authenticate headers now => if sys.clock ≤ now then some (sys.authenticate headers now) else none
  | .logout cookie sessionSeq => some { sys with
      registry := sys.registry.invalidateCookie cookie sessionSeq
      issued := sys.issued.map (Issued.logout cookie sessionSeq) }
  | .release i => sys.leases[i]?.bind fun lease => if lease.active then some (sys.release i lease) else none
  | .isValid sessionSeq now =>
      if sys.clock ≤ now then some { sys with
        registry := (sys.registry.appSessionIsValid sessionSeq now).2
        clock := now }
      else none

end AppSessionSys

def appSessionSystem (lifetime : SessionLifetime) : System AppSessionSys AppSessionLabel where
  initial sys := sys = {}
  step := AppSessionSys.step lifetime

end Codebox.ControlPlane
