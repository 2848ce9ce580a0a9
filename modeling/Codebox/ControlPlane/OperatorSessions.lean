import Mathlib.Data.List.Pairwise
import Codebox.ControlPlane.AppSessions

/-! # Operator sessions authenticate exactly

The registry never forgets a session that may still authenticate, and never lets in one that has
ended, whatever its leases do. Only the issuance numbers depend on how many sessions there were: the
counter stops at the largest word.
-/

namespace Codebox.ControlPlane

open Codebox.Support

variable {registry registry' : AppSessionRegistry} {sessions changed kept : List AppSession} {issued : List Issued}
  {clock now : Nat} {session : AppSession} {it : Issued}

/-! ## What no change of the registry touches -/

namespace AppSession

/-- The session after a change: the same name and deadline, and what has ended stays so. -/
structure Turns (session next : AppSession) : Prop where
  token : next.token = session.token
  issuanceSeq : next.issuanceSeq = session.issuanceSeq
  expiresAt : next.expiresAt = session.expiresAt
  ended : session.invalidated = true → next.invalidated = true

theorem Turns.refl (session : AppSession) : Turns session session := ⟨rfl, rfl, rfl, id⟩

theorem turns_expire (now : Nat) (session : AppSession) : Turns session (session.expire now) := by
  unfold expire
  split
  · exact ⟨rfl, rfl, rfl, fun _ => rfl⟩
  · exact .refl session

theorem turns_invalidate (session : AppSession) : Turns session session.invalidate := ⟨rfl, rfl, rfl, fun _ => rfl⟩

theorem turns_lend (session : AppSession) : Turns session session.lend := ⟨rfl, rfl, rfl, id⟩

theorem turns_giveBack (session : AppSession) : Turns session session.giveBack := ⟨rfl, rfl, rfl, id⟩

/-- Two registered sessions differ in their tokens, and in their numbers until the counter has stopped. -/
def Separate (a b : AppSession) : Prop :=
  a.token ≠ b.token ∧ (a.issuanceSeq = b.issuanceSeq → a.issuanceSeq = wordMax)

theorem Separate.symm {a b : AppSession} (separate : Separate a b) : Separate b a :=
  ⟨separate.1.symm, fun same => same.trans (separate.2 same.symm)⟩

instance : Std.Symm Separate := ⟨fun _ _ => Separate.symm⟩

theorem named_iff {cookie : Token} {sessionSeq : Nat} :
    session.named cookie sessionSeq = true ↔ session.token = cookie ∧ session.issuanceSeq = sessionSeq := by
  rw [named, Bool.and_eq_true, beq_iff_eq, Token.fixedTokenEq_iff, and_comm]

end AppSession

namespace AppSessionRegistry

structure WellFormed (registry : AppSessionRegistry) : Prop where
  separate : registry.sessions.Pairwise AppSession.Separate
  limit : open_ registry.sessions ≤ maxAppSessions
  numbered : ∀ session ∈ registry.sessions, session.issuanceSeq ≤ registry.issuanceSeq
  word : registry.issuanceSeq ≤ wordMax

theorem open_le (turned : List.Forall₂ AppSession.Turns sessions changed) (fewer : kept.Subperm changed) :
    open_ kept ≤ open_ sessions := by
  apply Nat.le_trans (fewer.countP_le _)
  apply countP_le_of_forall₂ turned
  intro session next turns openNext
  simp only [Bool.not_eq_true'] at openNext ⊢
  rw [Bool.eq_false_iff] at openNext ⊢
  exact fun ended => openNext (turns.ended ended)

theorem WellFormed.change (formed : registry.WellFormed)
    (turned : List.Forall₂ AppSession.Turns registry.sessions changed) (fewer : kept.Subperm changed) :
    WellFormed { registry with sessions := kept } where
  separate := by
    apply pairwise_of_subperm fewer _ AppSession.Separate.symm
    apply pairwise_of_forall₂ turned formed.separate
    intro a b a' b' left right separate
    unfold AppSession.Separate
    rw [left.token, right.token, left.issuanceSeq, right.issuanceSeq]
    exact separate
  limit := Nat.le_trans (open_le turned fewer) formed.limit
  numbered := by
    intro session mem
    obtain ⟨old, mem, turns⟩ := mem_of_forall₂_right turned (fewer.subset mem)
    rw [turns.issuanceSeq]
    exact formed.numbered old mem
  word := formed.word

/-- A token names at most one registered session. -/
theorem WellFormed.unique (formed : registry.WellFormed) {a b : AppSession} (left : a ∈ registry.sessions)
    (right : b ∈ registry.sessions) (same : a.token = b.token) : a = b := by
  by_contra other
  exact (formed.separate.forall left right other).1 same

end AppSessionRegistry

/-! ## The registry and the sessions that were issued -/

def Issued.Names (it : Issued) (session : AppSession) : Prop :=
  it.token = session.token ∧ it.issuanceSeq = session.issuanceSeq ∧ it.expiresAt = session.expiresAt

theorem Issued.Names.turns {next : AppSession} (names : it.Names session) (turns : session.Turns next) :
    it.Names next :=
  ⟨names.1.trans turns.token.symm, names.2.1.trans turns.issuanceSeq.symm, names.2.2.trans turns.expiresAt.symm⟩

theorem Issued.Live.earlier (live : it.Live now) (passed : clock ≤ now) : it.Live clock :=
  ⟨live.1, Nat.lt_of_le_of_lt passed live.2⟩

namespace AppSessionRegistry

structure Inv (clock : Nat) (issued : List Issued) (registry : AppSessionRegistry) : Prop where
  formed : registry.WellFormed
  origin : ∀ session ∈ registry.sessions, ∃ it ∈ issued, it.Names session ∧
    (session.invalidated = false → it.loggedOut = false)
  present : ∀ it ∈ issued, it.Live clock → ∃ session ∈ registry.sessions, it.Names session ∧
    session.invalidated = false

/-- A change that ends only sessions whose deadline has come. -/
theorem Inv.change (inv : registry.Inv clock issued) (passed : clock ≤ now)
    (turned : List.Forall₂ AppSession.Turns registry.sessions changed) (fewer : kept.Subperm changed)
    (survive : ∀ session ∈ registry.sessions, session.invalidated = false → now < session.expiresAt →
      ∃ next ∈ kept, session.Turns next ∧ next.invalidated = false) :
    Inv now issued { registry with sessions := kept } where
  formed := inv.formed.change turned fewer
  origin := by
    intro next mem
    obtain ⟨session, mem, turns⟩ := mem_of_forall₂_right turned (fewer.subset mem)
    obtain ⟨it, issuedHere, names, still⟩ := inv.origin session mem
    refine ⟨it, issuedHere, names.turns turns, fun openNext => still ?_⟩
    rw [Bool.eq_false_iff] at openNext ⊢
    exact fun ended => openNext (turns.ended ended)
  present := by
    intro it issuedHere live
    obtain ⟨session, mem, names, still⟩ := inv.present it issuedHere (live.earlier passed)
    obtain ⟨next, mem, turns, openNext⟩ := survive session mem still (names.2.2 ▸ live.2)
    exact ⟨next, mem, names.turns turns, openNext⟩

theorem pruneExpired_perm (now : Nat) (registry : AppSessionRegistry) :
    (registry.pruneExpired now).sessions.Perm ((registry.sessions.map (AppSession.expire now)).filter AppSession.kept) :=
  List.perm_insertionSort _ _

theorem Inv.pruneExpired (inv : registry.Inv clock issued) (passed : clock ≤ now) :
    Inv now issued (registry.pruneExpired now) := by
  have perm := pruneExpired_perm now registry
  apply inv.change passed (forall₂_map fun session _ => AppSession.turns_expire now session)
    (perm.subperm.trans List.filter_sublist.subperm)
  intro session mem still ahead
  have same : session.expire now = session := if_neg (Nat.not_le.mpr ahead)
  refine ⟨session, perm.mem_iff.mpr (List.mem_filter.mpr ⟨?_, ?_⟩), .refl session, still⟩
  · exact List.mem_map.mpr ⟨session, mem, same⟩
  · simp [AppSession.kept, still]

/-- One session is changed in place, and is not ended by it. -/
theorem Inv.modify (inv : registry.Inv clock issued) (index : Nat) (f : AppSession → AppSession)
    (turns : ∀ session : AppSession, session.Turns (f session))
    (same : ∀ session : AppSession, (f session).invalidated = session.invalidated) :
    Inv clock issued { registry with sessions := registry.sessions.modify index f } := by
  have turned : List.Forall₂ (fun (session next : AppSession) => session.Turns next ∧ next.invalidated = session.invalidated)
      registry.sessions (registry.sessions.modify index f) :=
    forall₂_modify index (fun session _ => ⟨.refl session, rfl⟩) (fun session _ => ⟨turns session, same session⟩)
  apply inv.change (Nat.le_refl clock) (turned.imp fun _ _ both => both.1) (List.Subperm.refl _)
  intro session mem still _
  obtain ⟨next, mem, turns, same⟩ := mem_of_forall₂_left turned mem
  exact ⟨next, mem, turns, same.trans still⟩

theorem Inv.releaseAppSession (inv : registry.Inv clock issued) (sessionSeq : Nat) :
    Inv clock issued (registry.releaseAppSession sessionSeq).2 := by
  unfold AppSessionRegistry.releaseAppSession
  split
  · exact inv
  · rename_i index found
    have given := inv.modify index AppSession.giveBack AppSession.turns_giveBack fun _ => rfl
    dsimp only
    split
    · rename_i spent
      apply given.change (Nat.le_refl clock) (List.forall₂_same.mpr fun session _ => .refl session)
        (List.eraseIdx_sublist _ index).subperm
      intro session mem still _
      -- the session that is dropped has ended
      obtain ⟨at_, here⟩ := List.getElem?_of_mem mem
      refine ⟨session, List.mem_eraseIdx_iff_getElem?.mpr ⟨at_, ?_, here⟩, .refl session, still⟩
      intro same
      rw [same] at here
      simp [here, still] at spent
    · exact given

/-- A logout ends the session of that number and token, which is the only one with the token. -/
theorem invalidateCookie_eq (formed : registry.WellFormed) (cookie : Token) (sessionSeq : Nat) :
    registry.invalidateCookie cookie sessionSeq = { registry with
      sessions := registry.sessions.map fun session =>
        if session.named cookie sessionSeq then session.invalidate else session } := by
  unfold AppSessionRegistry.invalidateCookie
  cases found : registry.sessions.findIdx? (AppSession.named cookie sessionSeq) with
  | none =>
      have same : registry.sessions.map (fun session =>
          if session.named cookie sessionSeq then session.invalidate else session) = registry.sessions.map id :=
        List.map_congr_left fun session mem =>
          if_neg (Bool.eq_false_iff.mp (List.findIdx?_eq_none_iff.mp found session mem))
      dsimp only
      rw [same, List.map_id]
  | some index =>
      dsimp only
      rw [modify_findIdx_eq_map found]
      apply formed.separate.imp
      rintro a b ⟨apart, -⟩ ⟨left, right⟩
      exact apart ((AppSession.named_iff.mp left).1.trans (AppSession.named_iff.mp right).1.symm)

theorem Inv.invalidateCookie (inv : registry.Inv clock issued) (cookie : Token) (sessionSeq : Nat) :
    Inv clock (issued.map (Issued.logout cookie sessionSeq)) (registry.invalidateCookie cookie sessionSeq) := by
  rw [invalidateCookie_eq inv.formed]
  refine ⟨inv.formed.change (forall₂_map fun session _ => ?_) (List.Subperm.refl _), ?_, ?_⟩
  · split
    · exact session.turns_invalidate
    · exact .refl session
  · intro next mem
    obtain ⟨session, mem, same⟩ := List.mem_map.mp mem
    obtain ⟨it, issuedHere, names, still⟩ := inv.origin session mem
    refine ⟨it.logout cookie sessionSeq, List.mem_map.mpr ⟨it, issuedHere, rfl⟩, ?_⟩
    subst same
    have both : (it.token = cookie ∧ it.issuanceSeq = sessionSeq) ↔ session.named cookie sessionSeq = true := by
      rw [names.1, names.2.1, AppSession.named_iff]
    by_cases hit : session.named cookie sessionSeq = true
    · rw [if_pos hit, Issued.logout, if_pos (both.mpr hit)]
      exact ⟨names, fun openNext => by cases openNext⟩
    · rw [if_neg hit, Issued.logout, if_neg fun named => hit (both.mp named)]
      exact ⟨names, still⟩
  · intro after mem live
    obtain ⟨it, issuedHere, same⟩ := List.mem_map.mp mem
    subst same
    unfold Issued.logout at live ⊢
    split
    · rename_i named
      rw [if_pos named] at live
      cases live.1
    · rename_i other
      rw [if_neg other] at live
      obtain ⟨session, mem, names, still⟩ := inv.present it issuedHere live
      rw [names.1, names.2.1, ← AppSession.named_iff] at other
      exact ⟨session, List.mem_map.mpr ⟨session, mem, if_neg other⟩, names, still⟩

variable {token : Token}

theorem drawToken_fresh {entropy : Entropy} {draws : Nat} (drawn : drawToken sessions entropy draws = .ok token) :
    ∀ session ∈ sessions, session.token ≠ token := by
  induction draws with
  | zero => cases drawn
  | succ draws ih =>
      unfold drawToken at drawn
      split at drawn
      · cases drawn
      · split at drawn
        · cases drawn
        · split at drawn
          · exact ih drawn
          · rename_i unused
            cases drawn
            intro session mem same
            exact unused (List.any_eq_true.mpr ⟨session, mem, Token.fixedTokenEq_iff.mpr same⟩)

theorem Inv.countIssuance (inv : registry.Inv clock issued) : Inv clock issued registry.countIssuance where
  formed := {
    separate := inv.formed.separate
    limit := inv.formed.limit
    numbered := fun session mem =>
      Nat.le_min.mpr ⟨Nat.le_succ_of_le (inv.formed.numbered session mem),
        Nat.le_trans (inv.formed.numbered session mem) inv.formed.word⟩
    word := Nat.min_le_right _ _ }
  origin := inv.origin
  present := inv.present

/-- The counter is above every number given before, or has stopped. -/
theorem Inv.push (inv : registry.Inv clock issued) (session : AppSession) (room : open_ registry.sessions < maxAppSessions)
    (fresh : ∀ other ∈ registry.sessions, other.token ≠ session.token) (still : session.invalidated = false)
    (number : session.issuanceSeq = registry.countIssuance.issuanceSeq) :
    Inv clock (issued ++ [Issued.of session]) (registry.countIssuance.push session) where
  formed := {
    separate := by
      refine List.pairwise_append.mpr ⟨inv.formed.separate, List.pairwise_singleton _ _, ?_⟩
      intro other mem last isLast
      rw [List.mem_singleton.mp isLast]
      refine ⟨fresh other mem, fun same => ?_⟩
      have below := inv.formed.numbered other mem
      have word := inv.formed.word
      have counted : registry.countIssuance.issuanceSeq = min (registry.issuanceSeq + 1) wordMax := rfl
      rw [same, number, counted] at below
      rw [same, number, counted]
      omega
    limit := by
      have counted : open_ (registry.countIssuance.push session).sessions ≤ open_ registry.sessions + 1 := by
        apply Nat.le_trans (Nat.le_of_eq (List.countP_append ..))
        exact Nat.add_le_add_left List.countP_le_length _
      exact Nat.le_trans counted room
    numbered := by
      intro other mem
      rcases List.mem_append.mp mem with mem | mem
      · exact inv.countIssuance.formed.numbered other mem
      · rw [List.mem_singleton.mp mem]
        exact Nat.le_of_eq number
    word := Nat.min_le_right _ _ }
  origin := by
    intro other mem
    rcases List.mem_append.mp mem with mem | mem
    · obtain ⟨it, issuedHere, rest⟩ := inv.origin other mem
      exact ⟨it, List.mem_append_left _ issuedHere, rest⟩
    · rw [List.mem_singleton.mp mem]
      exact ⟨Issued.of session, List.mem_append_right _ (List.mem_singleton_self _), ⟨rfl, rfl, rfl⟩, fun _ => rfl⟩
  present := by
    intro it mem live
    rcases List.mem_append.mp mem with mem | mem
    · obtain ⟨other, mem, rest⟩ := inv.present it mem live
      exact ⟨other, List.mem_append_left _ mem, rest⟩
    · rw [List.mem_singleton.mp mem]
      exact ⟨session, List.mem_append_right _ (List.mem_singleton_self _), ⟨rfl, rfl, rfl⟩, still⟩

/-- The sessions issued so far, after one more attempt. -/
def issuedAfter (issued : List Issued) : Except ApiError AppSession → List Issued
  | .error _ => issued
  | .ok session => issued ++ [Issued.of session]

theorem Inv.register (inv : registry.Inv clock issued) (lifetime : SessionLifetime) (now : Nat)
    (room : open_ registry.sessions < maxAppSessions) (fresh : ∀ other ∈ registry.sessions, other.token ≠ token) :
    Inv clock (issuedAfter issued (registry.register lifetime now token).1) (registry.register lifetime now token).2 := by
  unfold AppSessionRegistry.register
  cases checkedAdd now lifetime.nanos with
  | none => exact inv.countIssuance
  | some expiresAt => exact inv.push _ room fresh rfl rfl

theorem Inv.issueSession (inv : registry.Inv clock issued) (passed : clock ≤ now) (lifetime : SessionLifetime)
    (entropy : Entropy) :
    Inv now (issuedAfter issued (registry.issueSession lifetime entropy now).1)
      (registry.issueSession lifetime entropy now).2 := by
  have pruned := inv.pruneExpired passed
  unfold AppSessionRegistry.issueSession
  by_cases full : maxAppSessions ≤ open_ (registry.pruneExpired now).sessions
  · rw [drawSession, if_pos full]
    exact pruned
  · cases drawn : drawToken (registry.pruneExpired now).sessions entropy maxCookieDraws with
    | error error =>
        rw [drawSession, if_neg full, drawn]
        exact pruned
    | ok token =>
        rw [drawSession, if_neg full, drawn]
        exact pruned.register lifetime now (Nat.not_le.mp full) (drawToken_fresh drawn)

theorem accepts_iff {candidate : Token} {valid : Bool} :
    session.accepts candidate valid now = true ↔
      valid = true ∧ session.token = candidate ∧ session.invalidated = false ∧ now < session.expiresAt := by
  simp only [AppSession.accepts, Bool.and_eq_true, Token.fixedTokenEq_iff, Bool.not_eq_true', decide_eq_true_eq, and_assoc]

/-- Who is let in, and on which session. -/
theorem Inv.authenticates (inv : registry.Inv clock issued) (passed : clock ≤ now) (headers : List Bytes)
    (lease : AppSessionLease) : (registry.authenticateCookie headers now).1 = .ok lease ↔
      ∃ it ∈ issued, it.Live now ∧ sessionValues headers = [it.token.bytes] ∧ lease = ⟨it.token, it.issuanceSeq, true⟩ := by
  have pruned := inv.pruneExpired passed
  unfold AppSessionRegistry.authenticateCookie
  cases parsed : parseCookie headers with | _ candidate valid => _
  dsimp only
  cases found : lastMatch (AppSession.accepts candidate valid now) (registry.pruneExpired now).sessions with
  | none =>
      apply iff_of_false
      · intro answered
        cases answered
      · rintro ⟨it, issuedHere, live, presented, -⟩
        obtain ⟨session, mem, names, still⟩ := pruned.present it issuedHere live
        have refused := lastMatch_eq_none found session mem
        rw [parseCookie_iff.mpr presented] at parsed
        cases parsed
        rw [Bool.eq_false_iff, ne_eq, accepts_iff] at refused
        exact refused ⟨rfl, names.1.symm, still, names.2.2 ▸ live.2⟩
  | some index =>
      obtain ⟨session, here, accepted⟩ := lastMatch_eq_some found
      obtain ⟨good, token, still, ahead⟩ := accepts_iff.mp accepted
      have mem := List.mem_of_getElem? here
      obtain ⟨it, issuedHere, names, alive⟩ := pruned.origin session mem
      rw [good] at parsed
      rw [Option.bind_some, here]
      dsimp only [Option.map_some]
      constructor
      · intro answered
        cases answered
        refine ⟨it, issuedHere, ⟨alive still, names.2.2 ▸ ahead⟩, ?_, ?_⟩
        · rw [names.1, token]
          exact parseCookie_iff.mp parsed
        · rw [names.1, names.2.1]
          rfl
      · rintro ⟨it', issuedHere', live', presented, same⟩
        obtain ⟨session', mem', names', still'⟩ := pruned.present it' issuedHere' live'
        rw [parseCookie_iff.mpr presented] at parsed
        cases parsed
        have unique := pruned.formed.unique mem mem' (token.trans names'.1)
        rw [same, names'.1, names'.2.1, ← unique]
        rfl

theorem Inv.authenticateCookie (inv : registry.Inv clock issued) (passed : clock ≤ now) (headers : List Bytes) :
    Inv now issued (registry.authenticateCookie headers now).2 := by
  have pruned := inv.pruneExpired passed
  unfold AppSessionRegistry.authenticateCookie
  dsimp only
  split
  · exact pruned
  · rename_i index session found
    exact pruned.modify index AppSession.lend AppSession.turns_lend fun _ => rfl

end AppSessionRegistry

/-! ## Whole runs -/

namespace AppSessionSys

variable {lifetime : SessionLifetime} {sys sys' : AppSessionSys} {label : AppSessionLabel}

def Inv (sys : AppSessionSys) : Prop := sys.registry.Inv sys.clock sys.issued

theorem create_issued (lifetime : SessionLifetime) (entropy : Entropy) (now : Nat) (sys : AppSessionSys) :
    (sys.create lifetime entropy now).issued =
      AppSessionRegistry.issuedAfter sys.issued (sys.registry.issueSession lifetime entropy now).1 := by
  unfold create AppSessionRegistry.issuedAfter
  rfl

theorem Inv.step (inv : sys.Inv) (stepped : sys.step lifetime label = some sys') : sys'.Inv := by
  cases label with
  | create entropy now =>
      obtain ⟨passed, same⟩ := Option.ite_none_right_eq_some.mp stepped
      cases same
      unfold Inv
      rw [create_issued]
      exact AppSessionRegistry.Inv.issueSession inv passed lifetime entropy
  | authenticate headers now =>
      obtain ⟨passed, same⟩ := Option.ite_none_right_eq_some.mp stepped
      cases same
      exact AppSessionRegistry.Inv.authenticateCookie inv passed headers
  | logout cookie sessionSeq =>
      cases stepped
      exact AppSessionRegistry.Inv.invalidateCookie inv cookie sessionSeq
  | release i =>
      obtain ⟨lease, here, stepped⟩ := Option.bind_eq_some_iff.mp stepped
      obtain ⟨active, same⟩ := Option.ite_none_right_eq_some.mp stepped
      cases same
      exact AppSessionRegistry.Inv.releaseAppSession inv lease.issuanceSeq
  | isValid sessionSeq now =>
      obtain ⟨passed, same⟩ := Option.ite_none_right_eq_some.mp stepped
      cases same
      exact AppSessionRegistry.Inv.pruneExpired inv passed

theorem inv_reachable (reachable : (appSessionSystem lifetime).Reachable sys) : sys.Inv := by
  apply reachable.invariant
  · intro start begins
    cases begins
    refine ⟨⟨.nil, Nat.zero_le _, ?_, Nat.zero_le _⟩, ?_, ?_⟩ <;> intro it mem <;> cases mem
  · intro before label after _ inv _ stepped
    exact inv.step stepped

/-- A session keeps its place, name and deadline in the list of issued sessions, and what has ended stays so. -/
structure Follows (sys sys' : AppSessionSys) : Prop where
  clock : sys.clock ≤ sys'.clock
  issued : ∀ (i : Nat) (it : Issued), sys.issued[i]? = some it → ∃ it' : Issued, sys'.issued[i]? = some it' ∧
    it'.token = it.token ∧ it'.issuanceSeq = it.issuanceSeq ∧ it'.expiresAt = it.expiresAt ∧ (it.loggedOut = true → it'.loggedOut = true)

theorem Follows.of_issued (passed : sys.clock ≤ sys'.clock) (kept : sys.issued <+: sys'.issued) : sys.Follows sys' := by
  refine ⟨passed, fun i it here => ⟨it, ?_, rfl, rfl, rfl, id⟩⟩
  obtain ⟨more, same⟩ := kept
  rw [← same, List.getElem?_append_left (List.getElem?_eq_some_iff.mp here).1]
  exact here

theorem Follows.refl (sys : AppSessionSys) : sys.Follows sys := .of_issued (Nat.le_refl _) (List.prefix_refl _)

theorem Follows.trans {sys'' : AppSessionSys} (first : sys.Follows sys') (second : sys'.Follows sys'') :
    sys.Follows sys'' := by
  refine ⟨Nat.le_trans first.clock second.clock, fun i it here => ?_⟩
  obtain ⟨it', here', token', seq', expires', out'⟩ := first.issued i it here
  obtain ⟨it'', here'', token'', seq'', expires'', out''⟩ := second.issued i it' here'
  exact ⟨it'', here'', token''.trans token', seq''.trans seq', expires''.trans expires', fun out => out'' (out' out)⟩

theorem step_follows (stepped : sys.step lifetime label = some sys') : sys.Follows sys' := by
  cases label with
  | create entropy now =>
      obtain ⟨passed, same⟩ := Option.ite_none_right_eq_some.mp stepped
      cases same
      apply Follows.of_issued passed
      rw [create_issued]
      unfold AppSessionRegistry.issuedAfter
      split
      · exact List.prefix_refl _
      · exact List.prefix_append _ _
  | authenticate headers now | isValid sessionSeq now =>
      obtain ⟨passed, same⟩ := Option.ite_none_right_eq_some.mp stepped
      cases same
      exact .of_issued passed (List.prefix_refl _)
  | logout cookie sessionSeq =>
      cases stepped
      refine ⟨Nat.le_refl _, fun i it here => ⟨it.logout cookie sessionSeq, ?_, ?_⟩⟩
      · exact List.getElem?_map.trans (by rw [here]; rfl)
      · unfold Issued.logout
        split
        · exact ⟨rfl, rfl, rfl, fun _ => rfl⟩
        · exact ⟨rfl, rfl, rfl, id⟩
  | release i =>
      obtain ⟨lease, here, stepped⟩ := Option.bind_eq_some_iff.mp stepped
      obtain ⟨active, same⟩ := Option.ite_none_right_eq_some.mp stepped
      cases same
      exact .of_issued (Nat.le_refl _) (List.prefix_refl _)

theorem run_follows {labels : List AppSessionLabel} (ran : (appSessionSystem lifetime).run sys labels = some sys') :
    sys.Follows sys' := by
  induction labels generalizing sys with
  | nil =>
      cases ran
      exact .refl _
  | cons label labels ih =>
      obtain ⟨next, stepped, rest⟩ := Option.bind_eq_some_iff.mp ran
      exact (step_follows stepped).trans (ih rest)

/-- What an operator may rely on. -/
structure Exact (lifetime : SessionLifetime) (sys : AppSessionSys) : Prop where
  /-- A request is let in exactly on the live session whose token its headers present, once. -/
  authenticates : ∀ headers now lease, sys.clock ≤ now →
    ((sys.registry.authenticateCookie headers now).1 = .ok lease ↔
      ∃ it ∈ sys.issued, it.Live now ∧ sessionValues headers = [it.token.bytes] ∧ lease = ⟨it.token, it.issuanceSeq, true⟩)
  limit : AppSessionRegistry.open_ sys.registry.sessions ≤ maxAppSessions
  tokens : (sys.registry.sessions.map AppSession.token).Nodup
  /-- Numbers differ, or are the one at which the counter stops. -/
  numbers : sys.registry.sessions.Pairwise fun a b => a.issuanceSeq = b.issuanceSeq → a.issuanceSeq = wordMax
  /-- A session that has ended stays so, in every later state and at every later time. -/
  final : ∀ (i : Nat) (it : Issued), sys.issued[i]? = some it → ∀ now, ¬ it.Live now → ∀ labels sys' now',
    (appSessionSystem lifetime).run sys labels = some sys' → now ≤ now' →
      ∃ it' : Issued, sys'.issued[i]? = some it' ∧ it'.token = it.token ∧ it'.issuanceSeq = it.issuanceSeq ∧ ¬ it'.Live now'

theorem sessions_exact (reachable : (appSessionSystem lifetime).Reachable sys) : sys.Exact lifetime where
  authenticates := fun headers now lease passed => (inv_reachable reachable).authenticates passed headers lease
  limit := (inv_reachable reachable).formed.limit
  tokens := List.pairwise_map.mpr ((inv_reachable reachable).formed.separate.imp fun separate => separate.1)
  numbers := (inv_reachable reachable).formed.separate.imp fun separate => separate.2
  final := by
    intro i it here now ended labels sys' now' ran later
    obtain ⟨it', here', token, seq, expires, out⟩ := (run_follows ran).issued i it here
    refine ⟨it', here', token, seq, fun live => ended ⟨?_, ?_⟩⟩
    · rw [Bool.eq_false_iff]
      intro loggedOut
      have := out loggedOut
      rw [live.1] at this
      cases this
    · rw [← expires]
      exact Nat.lt_of_le_of_lt later live.2

/-! ## Where the counter stops -/

def shortest : SessionLifetime := ⟨300, Nat.le_refl 300, Nat.le_of_ble_eq_true rfl⟩

def zeros : Random := ⟨List.replicate 32 0, List.length_replicate⟩

def ones : Random := ⟨List.replicate 32 255, List.length_replicate⟩

/-- The token drawn from zero bytes: forty-three times the digit `A`. -/
def zeroToken : Token := ⟨List.replicate 43 65, List.length_replicate⟩

def zeroCookie : Bytes := cookieName ++ equals :: zeroToken.bytes

def opened (number : Nat) : AppSession := ⟨zeroToken, 300000000000, number, false, 0⟩

theorem create_step (number : Nat) (leases : List AppSessionLease) (issued : List Issued) :
    (appSessionSystem shortest).step ⟨⟨[], number⟩, leases, 0, issued⟩ (.create { fill _ := some zeros } 0) =
      some ⟨⟨[opened (saturatingAdd number 1)], saturatingAdd number 1⟩, leases, 0,
        issued ++ [Issued.of (opened (saturatingAdd number 1))]⟩ := by
  rfl

theorem authenticate_step (number : Nat) (leases : List AppSessionLease) (issued : List Issued) :
    (appSessionSystem shortest).step ⟨⟨[opened number], number⟩, leases, 0, issued⟩ (.authenticate [zeroCookie] 0) =
      some ⟨⟨[(opened number).lend], number⟩, leases ++ [(opened number).lease], 0, issued⟩ := by
  rfl

theorem logout_step (number : Nat) (leases : List AppSessionLease) (issued : List Issued) :
    (appSessionSystem shortest).step ⟨⟨[(opened number).lend], number⟩, leases, 0, issued⟩ (.logout zeroToken number) =
      some ⟨⟨[(opened number).lend.invalidate], number⟩, leases, 0, issued.map (Issued.logout zeroToken number)⟩ := by
  have hit : AppSession.named zeroToken number (opened number).lend = true := AppSession.named_iff.mpr ⟨rfl, rfl⟩
  simp [appSessionSystem, step, AppSessionRegistry.invalidateCookie, List.findIdx?_cons, hit]

theorem release_step (number : Nat) (leases : List AppSessionLease) (issued : List Issued) :
    (appSessionSystem shortest).step
      ⟨⟨[(opened number).lend.invalidate], number⟩, leases ++ [(opened number).lease], 0, issued⟩ (.release leases.length) =
      some ⟨⟨[], number⟩, leases ++ [{ (opened number).lease with active := false }], 0, issued⟩ := by
  simp [appSessionSystem, step, release, AppSession.lease, AppSessionRegistry.releaseAppSession, List.findIdx?_cons, opened,
    AppSession.lend, AppSession.invalidate, AppSession.giveBack, saturatingAdd, wordMax]

/-- A session is opened, used, logged out and dropped; only the counter remembers it. -/
theorem count_up {sys : AppSessionSys} (reachable : (appSessionSystem shortest).Reachable sys)
    (idle : sys.registry.sessions = []) (start : sys.clock = 0) :
    ∃ sys', (appSessionSystem shortest).Reachable sys' ∧ sys'.clock = 0 ∧
      sys'.registry = ⟨[], saturatingAdd sys.registry.issuanceSeq 1⟩ := by
  obtain ⟨⟨sessions, number⟩, leases, clock, issued⟩ := sys
  cases idle
  cases start
  have created := reachable.step trivial (create_step number leases issued)
  have let_in := created.step trivial (authenticate_step _ leases _)
  have out := let_in.step trivial (logout_step _ _ _)
  have released := out.step trivial (release_step _ leases _)
  exact ⟨_, released, rfl, rfl⟩

theorem counter_reaches (number : Nat) (word : number ≤ wordMax) : ∃ sys, (appSessionSystem shortest).Reachable sys ∧
    sys.clock = 0 ∧ sys.registry = ⟨[], number⟩ := by
  induction number with
  | zero => exact ⟨{}, .initial rfl, rfl, rfl⟩
  | succ number ih =>
      obtain ⟨sys, reachable, start, idle⟩ := ih (Nat.le_of_succ_le word)
      obtain ⟨sys', reachable', start', counted⟩ := count_up reachable (by rw [idle]) start
      refine ⟨sys', reachable', start', counted.trans ?_⟩
      rw [idle, saturatingAdd_eq word]

/-- Two registered sessions with one issuance number, both valid. -/
theorem numbers_repeat : ∃ sys, (appSessionSystem shortest).Reachable sys ∧
    sys.registry.sessions.map AppSession.issuanceSeq = [wordMax, wordMax] := by
  obtain ⟨⟨registry, leases, clock, issued⟩, reachable, start, idle⟩ := counter_reaches wordMax (Nat.le_refl _)
  cases idle
  cases start
  have first := reachable.step trivial (create_step wordMax leases issued)
  have stopped : saturatingAdd wordMax 1 = wordMax := rfl
  rw [stopped] at first
  have second : (appSessionSystem shortest).step
    ⟨⟨[opened wordMax], wordMax⟩, leases, 0, issued ++ [Issued.of (opened wordMax)]⟩ (.create { fill _ := some ones } 0) =
      some _ := rfl
  exact ⟨_, first.step trivial second, rfl⟩

/-- The cookie of an open session lets a request in. -/
theorem cookie_lets_in : ∃ sys : AppSessionSys, sys.Exact shortest ∧
    (sys.registry.authenticateCookie [zeroCookie] 0).1 = .ok ⟨zeroToken, 1, true⟩ := by
  have start : (appSessionSystem shortest).Reachable {} := .initial rfl
  have reachable := start.step trivial (create_step 0 [] [])
  have exact_ := sessions_exact reachable
  have presented : sessionValues [zeroCookie] = [zeroToken.bytes] := by decide +kernel
  refine ⟨_, exact_, (exact_.authenticates _ 0 _ (Nat.le_refl 0)).mpr ⟨_, List.mem_singleton_self _, ?_, presented, rfl⟩⟩
  exact ⟨rfl, Nat.le_of_ble_eq_true rfl⟩

end AppSessionSys

end Codebox.ControlPlane
