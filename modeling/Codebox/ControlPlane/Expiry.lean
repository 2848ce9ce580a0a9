import Codebox.ControlPlane.Replay

/-! # Responses that expire

A completed device login may be replayed until its instruction expires. Expired entries are removed
at the head of every admission, but only if nobody waits for them; the lookup that follows does not
look at the deadline again.
-/

namespace Codebox.ControlPlane.Replay

open Codebox.Support

variable {admission : Admission} {i : Nat}

/-- An admission stays with the notify it was given. -/
theorem step_attached {sys sys' : Sys} {label : Label} (stepped : sys.step label = some sys')
    (here : sys.admissions[i]? = some admission) :
    ∃ admission', sys'.admissions[i]? = some admission' ∧ admission'.notify = admission.notify := by
  have moved : ∀ {j : Nat} {at_ : Admission} (next : Admission), sys.admissions[j]? = some at_ →
      next.notify = at_.notify → ∃ admission', (sys.admissions.set j next)[i]? = some admission' ∧
        admission'.notify = admission.notify := by
    intro j at_ next there same
    rw [getElem?_set_here there]
    split
    · rename_i own
      rw [own, there] at here
      cases here
      exact ⟨next, rfl, same⟩
    · exact ⟨admission, here, rfl⟩
  have kept : ∃ admission', sys.admissions[i]? = some admission' ∧ admission'.notify = admission.notify :=
    ⟨admission, here, rfl⟩
  cases label with
  | admitRequest key identity now =>
      simp only [Sys.step, Sys.admitRequest] at stepped
      split at stepped
      · split at stepped
        · cases stepped
          exact kept
        · cases stepped
          exact ⟨admission, getElem?_concat_eq_some.mpr (.inl here), rfl⟩
      · cases stepped
  | complete j response disposition =>
      obtain ⟨at_, there, stepped⟩ := Option.bind_eq_some_iff.mp stepped
      split at stepped <;> cases stepped
      obtain ⟨admission', here', same⟩ := moved { at_ with owes := false } there rfl
      refine ⟨_, by rw [Sys.complete, List.getElem?_map, here']; rfl, ?_⟩
      rw [(woken_wake _ admission').moved]
      exact same
  | arm j | resume j | drop j =>
      obtain ⟨at_, there, stepped⟩ := Option.bind_eq_some_iff.mp stepped
      split at stepped <;> cases stepped
      exact moved _ there rfl
  | look j =>
      obtain ⟨at_, there, stepped⟩ := Option.bind_eq_some_iff.mp stepped
      split at stepped <;> cases stepped
      unfold Sys.look
      split <;> exact moved _ there rfl
  | releaseAuthSession sessionSeq =>
      cases Option.some.inj stepped
      exact kept
  | rehash entries =>
      simp only [Sys.step] at stepped
      split at stepped <;> cases stepped
      exact kept

theorem run_attached {sys sys' : Sys} {labels : List Label} (ran : system.run sys labels = some sys')
    (here : sys.admissions[i]? = some admission) :
    ∃ admission', sys'.admissions[i]? = some admission' ∧ admission'.notify = admission.notify := by
  induction labels generalizing sys admission with
  | nil =>
      cases ran
      exact ⟨admission, here, rfl⟩
  | cons label labels ih =>
      obtain ⟨next, stepped, rest⟩ := Option.bind_eq_some_iff.mp ran
      obtain ⟨moved, here', same⟩ := step_attached stepped here
      obtain ⟨last, here'', same'⟩ := ih rest here'
      exact ⟨last, here'', same'.trans same⟩

/-- The admissions that a step added never wait for an entry, and so never receive its response. -/
def NeverJoins (sys sys' : Sys) (entry : Entry) : Prop :=
  ∀ i, sys.admissions.length ≤ i → i < sys'.admissions.length → ∀ labels sys'' admission,
    system.run sys' labels = some sys'' → sys''.admissions[i]? = some admission → admission.notify ≠ entry.notify

theorem neverJoins_refused {sys sys' : Sys} (entry : Entry) (same : sys'.admissions = sys.admissions) :
    NeverJoins sys sys' entry := by
  intro i first last
  rw [same] at last
  omega

theorem neverJoins_added {sys sys' : Sys} {added : Admission} {entry : Entry}
    (admissions : sys'.admissions = sys.admissions ++ [added]) (other : added.notify ≠ entry.notify) :
    NeverJoins sys sys' entry := by
  intro i first last labels sys'' admission ran here
  have own : i = sys.admissions.length := by
    rw [admissions, List.length_append, List.length_singleton] at last
    omega
  have at_ : sys'.admissions[i]? = some added := by
    rw [admissions]
    exact getElem?_concat_eq_some.mpr (.inr ⟨own, rfl⟩)
  obtain ⟨admission', here', same⟩ := run_attached ran at_
  cases here.symm.trans here'
  rw [same]
  exact other

theorem expired_reply_unused_iff {sys sys' : Sys} {key : CommandId} {identity : RequestIdentity} {now deadline : Nat}
    {entry : Entry} {response : CachedResponse} (reachable : system.Reachable sys)
    (found : sys.registry.get key = some entry) (done : entry.state = .complete response (.expireAt deadline))
    (late : deadline ≤ now) (stepped : sys.step (.admitRequest key identity now) = some sys') :
    NeverJoins sys sys' entry ↔ entry.waiters = 0 ∨ entry.identity ≠ identity := by
  have inv := inv_reachable reachable
  have expires : entry.expired now = true ↔ entry.waiters = 0 := by
    simp [Entry.expired, done, late]
  have pruned : (sys.registry.pruneExpired now).get key = if entry.waiters = 0 then none else some entry := by
    rw [Registry.get_pruneExpired, found]
    by_cases idle : entry.waiters = 0
    · simp [Option.filter, expires.mpr idle, idle]
    · have kept : entry.expired now = false := by
        rw [← Bool.not_eq_true, expires]
        exact idle
      simp [Option.filter, kept, idle]
  obtain ⟨owner, at_, -⟩ := (inv.entries key entry found).owner
  have older : sys.admissions.length ≠ entry.notify := (Nat.ne_of_lt (List.getElem?_eq_some_iff.mp at_).1).symm
  simp only [Sys.step, Sys.admitRequest] at stepped
  split at stepped
  case isFalse => cases stepped
  obtain ⟨held, present, other, refused⟩ | ⟨held, present, same, joined⟩ | ⟨free, left, -, full | owned⟩ :=
    Registry.admit_cases key identity now sys.admissions.length sys.registry
  · -- a conflict: the entry is still there, for another request
    rw [refused] at stepped
    cases stepped
    rw [pruned] at present
    split at present
    · cases present
    · cases present
      exact iff_of_true (neverJoins_refused entry rfl) (.inr other)
  · -- the request waits for the entry that should have expired
    rw [joined] at stepped
    cases stepped
    rw [pruned] at present
    split at present
    · cases present
    · rename_i waited
      cases present
      apply iff_of_false
      · intro never
        apply never sys.admissions.length (Nat.le_refl _) (by simp) [] _ ⟨key, identity, entry.notify, false, false, .created⟩
        · rfl
        · exact getElem?_concat_eq_some.mpr (.inr ⟨rfl, rfl⟩)
        · rfl
      · rintro (idle | other)
        · exact waited idle
        · exact other same
  · rw [full] at stepped
    cases stepped
    rw [pruned] at free
    split at free
    · rename_i idle
      exact iff_of_true (neverJoins_refused entry rfl) (.inl idle)
    · cases free
  · rw [owned] at stepped
    cases stepped
    rw [pruned] at free
    split at free
    · rename_i idle
      exact iff_of_true (neverJoins_added rfl older) (.inl idle)
    · cases free

/-- A request that comes at the deadline, while the owner has not yet taken the response, is answered with it. -/
theorem expired_reply_received : ∃ sys entry sys', system.Reachable sys ∧
    sys.registry.get 1 = some entry ∧ entry.state = .complete accepted (.expireAt 5) ∧
    sys.step (.admitRequest 1 turnRequest 5) = some sys' ∧ sys.admissions.length = 1 ∧
    (system.run sys' [.arm 1, .look 1]).bind (fun sys'' => sys''.admissions[1]?) =
      some ⟨1, turnRequest, entry.notify, false, false, .received accepted⟩ := by
  have ran : system.run ⟨{}, [], []⟩ [.admitRequest 1 turnRequest 0, .complete 0 accepted (.expireAt 5)] = some _ := rfl
  exact ⟨_, _, _, System.Reachable.run (.initial rfl) ran, rfl, rfl, rfl, rfl, by decide +kernel⟩

/-- Once the owner is gone, a request that comes at the deadline starts anew. -/
theorem expired_reply_dropped : ∃ sys entry sys', system.Reachable sys ∧
    sys.registry.get 1 = some entry ∧ sys.step (.admitRequest 1 turnRequest 5) = some sys' ∧ NeverJoins sys sys' entry := by
  have ran : (system.run ⟨{}, [], []⟩ [.admitRequest 1 turnRequest 0, .complete 0 accepted (.expireAt 5), .drop 0]).bind
      (fun sys => (sys.registry.get 1).bind fun entry =>
        (sys.step (.admitRequest 1 turnRequest 5)).map fun _ => (entry.state, entry.waiters)) =
      some (.complete accepted (.expireAt 5), 0) := by decide +kernel
  obtain ⟨sys, ran, rest⟩ := Option.bind_eq_some_iff.mp ran
  obtain ⟨entry, found, rest⟩ := Option.bind_eq_some_iff.mp rest
  obtain ⟨sys', stepped, shape⟩ := Option.map_eq_some_iff.mp rest
  obtain ⟨done, idle⟩ := Prod.mk.inj shape
  have reachable := System.Reachable.run (.initial rfl) ran
  exact ⟨sys, entry, sys', reachable, found, stepped,
    (expired_reply_unused_iff reachable found done (Nat.le_refl 5) stepped).mpr (.inl idle)⟩

end Codebox.ControlPlane.Replay
