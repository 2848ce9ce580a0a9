import Codebox.ControlPlane.Types
import Mathlib.Data.List.AList

/-! # The idempotency registry

One entry for each key: the request that owns it, in flight or with the response it completed. The
registry is behind one lock, so every function here is one step. The order of the map's entries is
that of the hash map, about which nothing is known.
-/

namespace Codebox.ControlPlane

open Codebox.Support

def maxEntries : Nat := 128

def maxStorageBytes : Nat := 8 * 1024 * 1024

/-- The identity of an allocated `Notify`. -/
abbrev NotifyId := Nat

inductive CacheDisposition where
  | retain
  | expireAt (deadline : Nat)
  | removeAfterAuthSession (sessionSeq : Nat)
  deriving Repr, DecidableEq

inductive EntryState where
  | inFlight
  | complete (response : CachedResponse) (disposition : CacheDisposition)
  deriving Repr, DecidableEq

structure Entry where
  identity : RequestIdentity
  requestBytes : Nat
  responseBytes : Nat := 0
  state : EntryState := .inFlight
  notify : NotifyId
  waiters : Nat := 1
  completedSeq : Option Nat := none
  deriving Repr, DecidableEq

namespace Entry

def expired (now : Nat) (entry : Entry) : Bool :=
  match entry.state with
  | .complete _ (.expireAt deadline) => deadline ≤ now && entry.waiters == 0
  | .complete _ .retain | .complete _ (.removeAfterAuthSession _) | .inFlight => false

def ofAuthSession (sessionSeq : Nat) (entry : Entry) : Bool :=
  match entry.state with
  | .complete _ (.removeAfterAuthSession own) => own == sessionSeq && entry.waiters == 0
  | .complete _ .retain | .complete _ (.expireAt _) | .inFlight => false

/-- The one of two entries that completed first; of two equal ones the one met first. -/
def older (first second : Σ _ : CommandId, Entry) : Σ _ : CommandId, Entry :=
  if second.2.completedSeq.getD 0 < first.2.completedSeq.getD 0 then second else first

def addWaiter (entry : Entry) : Entry := { entry with waiters := saturatingAdd entry.waiters 1 }

def dropWaiter (entry : Entry) : Entry := { entry with waiters := entry.waiters - 1 }

end Entry

structure Registry where
  entries : AList fun _ : CommandId => Entry := ∅
  totalBytes : Nat := 0
  completionSeq : Nat := 0

namespace Registry

def get (registry : Registry) (key : CommandId) : Option Entry := registry.entries.lookup key

def modify (key : CommandId) (f : Entry → Entry) (registry : Registry) : Registry :=
  match registry.get key with
  | none => registry
  | some entry => { registry with entries := registry.entries.insert key (f entry) }

def remove (key : CommandId) (registry : Registry) : Registry :=
  match registry.get key with
  | none => registry
  | some entry => { registry with
      entries := registry.entries.erase key
      totalBytes := registry.totalBytes - entry.requestBytes - entry.responseBytes }

/-- The keys of the entries that a scan selects. -/
def keysWhere (selects : Entry → Bool) (registry : Registry) : List CommandId :=
  (registry.entries.entries.filter (selects ·.2)).map Sigma.fst

def removeAll (keys : List CommandId) (registry : Registry) : Registry :=
  keys.foldl (fun registry key => registry.remove key) registry

def pruneExpired (now : Nat) (registry : Registry) : Registry :=
  registry.removeAll (registry.keysWhere (Entry.expired now))

def releaseAuthSession (sessionSeq : Nat) (registry : Registry) : Registry :=
  registry.removeAll (registry.keysWhere (Entry.ofAuthSession sessionSeq))

def oldestCompleted (spared : Option CommandId) (registry : Registry) : Option CommandId :=
  match registry.entries.entries.filter fun pair =>
    some pair.1 != spared && pair.2.completedSeq.isSome && pair.2.waiters == 0 with
  | [] => none
  | first :: rest => some (rest.foldl Entry.older first).1

/-- Remove the oldest completed entry until the registry fits or there is none. Every round
removes an entry, so that as many rounds as there are entries are enough. -/
def evictUntil (fits : Registry → Bool) (spared : Option CommandId) : Nat → Registry → Bool × Registry
  | rounds, registry =>
      if fits registry then (true, registry)
      else match registry.oldestCompleted spared, rounds with
        | none, _ | some _, 0 => (false, registry)
        | some oldest, rounds + 1 => evictUntil fits spared rounds (registry.remove oldest)

def hasCapacity (requestBytes : Nat) (registry : Registry) : Bool :=
  registry.entries.keys.length < maxEntries && saturatingAdd registry.totalBytes requestBytes ≤ maxStorageBytes

def makeCapacity (requestBytes : Nat) (registry : Registry) : Except ApiError Unit × Registry :=
  match registry.evictUntil (hasCapacity requestBytes) none registry.entries.keys.length with
  | (true, registry) => (.ok (), registry)
  | (false, registry) => (.error .idempotencyUnavailable, registry)

def evictCompletedToStorageBound (spared : Option CommandId) (registry : Registry) : Registry :=
  (registry.evictUntil (fun registry => registry.totalBytes ≤ maxStorageBytes) spared registry.entries.keys.length).2

end Registry

/-- A request that was let in, as the owner of the entry or as a waiter of another's. -/
structure IdempotencyAdmission where
  owner : Bool
  notify : NotifyId
  deriving Repr, DecidableEq

namespace Registry

/-- `fresh` is the `Notify` that a new entry allocates. -/
def admitRequest (key : CommandId) (identity : RequestIdentity) (now : Nat) (fresh : NotifyId) (registry : Registry) :
    Except ApiError IdempotencyAdmission × Registry :=
  let pruned := registry.pruneExpired now
  match pruned.get key with
  | some entry =>
      if entry.identity ≠ identity then (.error .idempotencyConflict, pruned)
      else (.ok ⟨false, entry.notify⟩, pruned.modify key Entry.addWaiter)
  | none =>
      let requestBytes := identity.storageBytes
      match pruned.makeCapacity requestBytes with
      | (.error error, registry) => (.error error, registry)
      | (.ok (), registry) => (.ok ⟨true, fresh⟩, { registry with
          totalBytes := saturatingAdd registry.totalBytes requestBytes
          entries := registry.entries.insert key
            { identity := identity, requestBytes := requestBytes, notify := fresh } })

/-- The registry after a completion, and the `Notify` whose waiters are woken. -/
def complete (key : CommandId) (response : CachedResponse) (disposition : CacheDisposition) (registry : Registry) :
    Option NotifyId × Registry :=
  let seq := saturatingAdd registry.completionSeq 1
  let counted := { registry with completionSeq := seq }
  let responseBytes := response.storageBytes
  match counted.get key with
  | some { state := .inFlight, notify := notify, .. } =>
      let completed := counted.modify key fun entry => { entry with
        responseBytes := responseBytes
        completedSeq := some seq
        state := .complete response disposition }
      (some notify, { completed with
        totalBytes := saturatingAdd completed.totalBytes responseBytes }.evictCompletedToStorageBound (some key))
  | some { state := .complete _ _, .. } | none => (none, counted.evictCompletedToStorageBound (some key))

end Registry

inductive WaitState where
  | pending
  | ready (response : CachedResponse)
  | missing
  deriving Repr, DecidableEq

namespace Registry

def takeResponse (key : CommandId) (registry : Registry) : WaitState × Registry :=
  match registry.get key with
  | none => (.missing, registry)
  | some entry => match entry.state with
      | .inFlight => (.pending, registry)
      | .complete response _ => (.ready response, registry.modify key Entry.dropWaiter)

/-- A waiter that is dropped before it has its response. -/
def dropWaiter (key : CommandId) (registry : Registry) : Registry := registry.modify key Entry.dropWaiter

end Registry

/-! ## What is removed

Entries go on four paths: they expire, their operator session ends, or they make room on the way in
or out. All four take only entries that are complete and that nobody waits for.
-/

/-- A complete entry without waiters. -/
def Entry.Spent (entry : Entry) : Prop :=
  entry.waiters = 0 ∧ (entry.state ≠ .inFlight ∨ entry.completedSeq.isSome = true)

namespace Registry

variable {registry registry' : Registry} {key other : CommandId} {entry : Entry} {selects : Entry → Bool}

theorem get_remove : (registry.remove key).get other = if other = key then none else registry.get other := by
  unfold remove
  by_cases same : other = key
  · subst same
    rw [if_pos rfl]
    cases found : registry.get other with
    | none => exact found
    | some entry => exact AList.lookup_erase other registry.entries
  · rw [if_neg same]
    cases registry.get key with
    | none => rfl
    | some entry => exact AList.lookup_erase_ne same

theorem get_modify {f : Entry → Entry} :
    (registry.modify key f).get other = if other = key then (registry.get other).map f else registry.get other := by
  unfold modify
  by_cases same : other = key
  · subst same
    rw [if_pos rfl]
    cases found : registry.get other with
    | none => exact found
    | some entry => exact AList.lookup_insert registry.entries
  · rw [if_neg same]
    cases registry.get key with
    | none => rfl
    | some entry => exact AList.lookup_insert_ne same

theorem get_removeAll {keys : List CommandId} :
    (registry.removeAll keys).get other = if other ∈ keys then none else registry.get other := by
  induction keys generalizing registry with
  | nil => rfl
  | cons key keys ih =>
      show ((registry.remove key).removeAll keys).get other = _
      rw [ih, get_remove]
      by_cases among : other ∈ keys <;> by_cases same : other = key <;> simp [among, same]

theorem mem_keysWhere :
    key ∈ registry.keysWhere selects ↔ ∃ entry, registry.get key = some entry ∧ selects entry = true := by
  simp only [keysWhere, List.mem_map, List.mem_filter]
  constructor
  · rintro ⟨⟨_, entry⟩, ⟨here, selected⟩, rfl⟩
    exact ⟨entry, AList.mem_lookup_iff.mpr here, selected⟩
  · rintro ⟨entry, found, selected⟩
    exact ⟨⟨key, entry⟩, ⟨AList.mem_lookup_iff.mp found, selected⟩, rfl⟩

theorem get_pruneExpired {now : Nat} :
    (registry.pruneExpired now).get key = (registry.get key).filter fun entry => !entry.expired now := by
  rw [pruneExpired, get_removeAll]
  simp only [mem_keysWhere]
  cases found : registry.get key with
  | none => simp
  | some entry => cases expired : entry.expired now <;> simp [Option.filter, expired]

/-- Some spent entries are gone and the others are untouched. -/
def Thins (registry registry' : Registry) : Prop :=
  ∀ key, registry'.get key = registry.get key ∨
    registry'.get key = none ∧ ∀ entry, registry.get key = some entry → entry.Spent

theorem Thins.refl (registry : Registry) : Thins registry registry := fun _ => .inl rfl

theorem Thins.trans {registry'' : Registry} (first : Thins registry registry')
    (second : Thins registry' registry'') : Thins registry registry'' := by
  intro key
  rcases second key with same | ⟨gone, spent⟩
  · rw [same]
    exact first key
  · refine .inr ⟨gone, ?_⟩
    rcases first key with same | ⟨-, spent'⟩
    · rw [← same]
      exact spent
    · exact spent'

theorem thins_remove (spent : ∀ entry, registry.get key = some entry → entry.Spent) :
    Thins registry (registry.remove key) := by
  intro other
  rw [get_remove]
  split
  · rename_i same
    subst same
    exact .inr ⟨rfl, spent⟩
  · exact .inl rfl

theorem thins_removeAll (spent : ∀ entry, selects entry = true → entry.Spent) :
    Thins registry (registry.removeAll (registry.keysWhere selects)) := by
  intro key
  rw [get_removeAll]
  split
  · rename_i among
    refine .inr ⟨rfl, ?_⟩
    intro entry found
    obtain ⟨entry', found', selected⟩ := mem_keysWhere.mp among
    cases found.symm.trans found'
    exact spent entry selected
  · exact .inl rfl

theorem thins_pruneExpired (now : Nat) (registry : Registry) : Thins registry (registry.pruneExpired now) := by
  apply thins_removeAll
  intro entry expired
  unfold Entry.expired at expired
  split at expired
  · rename_i response deadline complete
    simp only [Bool.and_eq_true, beq_iff_eq] at expired
    exact ⟨expired.2, .inl (by simp [complete])⟩
  all_goals cases expired

theorem thins_releaseAuthSession (sessionSeq : Nat) (registry : Registry) :
    Thins registry (registry.releaseAuthSession sessionSeq) := by
  apply thins_removeAll
  intro entry owned
  unfold Entry.ofAuthSession at owned
  split at owned
  · rename_i response own complete
    simp only [Bool.and_eq_true, beq_iff_eq] at owned
    exact ⟨owned.2, .inl (by simp [complete])⟩
  all_goals cases owned

theorem foldl_older_mem (pairs : List (Σ _ : CommandId, Entry)) (first : Σ _ : CommandId, Entry) :
    pairs.foldl Entry.older first ∈ first :: pairs := by
  induction pairs generalizing first with
  | nil => simp
  | cons second pairs ih =>
      rw [List.foldl_cons]
      have chosen : Entry.older first second = first ∨ Entry.older first second = second := by
        unfold Entry.older
        split
        · exact .inr rfl
        · exact .inl rfl
      have among := ih (Entry.older first second)
      rcases chosen with same | same <;> rw [same] at among ⊢ <;> simp only [List.mem_cons] at among ⊢
      · rcases among with here | later
        · exact .inl here
        · exact .inr (.inr later)
      · exact .inr among

theorem oldestCompleted_eq_some {spared : Option CommandId} (chosen : registry.oldestCompleted spared = some key) :
    ∃ entry, registry.get key = some entry ∧ entry.Spent ∧ spared ≠ some key := by
  unfold oldestCompleted at chosen
  split at chosen
  · cases chosen
  · rename_i first rest candidates
    cases chosen
    have among := candidates ▸ foldl_older_mem rest first
    generalize rest.foldl Entry.older first = oldest at among ⊢
    obtain ⟨here, fits⟩ := List.mem_filter.mp among
    simp only [Bool.and_eq_true, bne_iff_ne, ne_eq, beq_iff_eq] at fits
    obtain ⟨⟨away, done⟩, idle⟩ := fits
    exact ⟨oldest.2, AList.mem_lookup_iff.mpr here, ⟨idle, .inr done⟩, fun same => away same.symm⟩

theorem thins_evictUntil (fits : Registry → Bool) (spared : Option CommandId) (rounds : Nat) (registry : Registry) :
    Thins registry (registry.evictUntil fits spared rounds).2 := by
  induction rounds generalizing registry with
  | zero =>
      unfold evictUntil
      split
      · exact .refl registry
      · cases registry.oldestCompleted spared <;> exact .refl registry
  | succ rounds ih =>
      unfold evictUntil
      split
      · exact .refl registry
      · cases chosen : registry.oldestCompleted spared with
        | none => exact .refl registry
        | some oldest =>
            obtain ⟨entry, found, spent, -⟩ := oldestCompleted_eq_some chosen
            have removed : Thins registry (registry.remove oldest) := by
              apply thins_remove
              intro entry' found'
              cases found.symm.trans found'
              exact spent
            exact removed.trans (ih _)

/-- An admission is refused, joins the entry of its key, or takes the key if there is room. -/
theorem admit_cases (key : CommandId) (identity : RequestIdentity) (now : Nat) (fresh : NotifyId) (registry : Registry) :
    (∃ entry, (registry.pruneExpired now).get key = some entry ∧ entry.identity ≠ identity ∧
      registry.admitRequest key identity now fresh = (.error .idempotencyConflict, registry.pruneExpired now)) ∨
    (∃ entry, (registry.pruneExpired now).get key = some entry ∧ entry.identity = identity ∧
      registry.admitRequest key identity now fresh =
        (.ok ⟨false, entry.notify⟩, (registry.pruneExpired now).modify key Entry.addWaiter)) ∨
    (registry.pruneExpired now).get key = none ∧ ∃ left, (registry.pruneExpired now).Thins left ∧
      (registry.admitRequest key identity now fresh = (.error .idempotencyUnavailable, left) ∨
        registry.admitRequest key identity now fresh = (.ok ⟨true, fresh⟩, { left with
          totalBytes := saturatingAdd left.totalBytes identity.storageBytes
          entries := left.entries.insert key
            { identity := identity, requestBytes := identity.storageBytes, notify := fresh } })) := by
  unfold admitRequest
  cases found : (registry.pruneExpired now).get key with
  | some entry =>
      by_cases same : entry.identity = identity
      · exact .inr (.inl ⟨entry, rfl, same, by simp [found, same]⟩)
      · exact .inl ⟨entry, rfl, same, by simp [found, same]⟩
  | none =>
      refine .inr (.inr ⟨rfl, _, thins_evictUntil (hasCapacity identity.storageBytes) none
        (registry.pruneExpired now).entries.keys.length (registry.pruneExpired now), ?_⟩)
      simp only [found, makeCapacity]
      generalize evictUntil _ _ _ _ = evicted
      obtain ⟨fits, left⟩ := evicted
      cases fits with
      | false => exact .inl rfl
      | true => exact .inr rfl

theorem get_evictUntil_spared (fits : Registry → Bool) (key : CommandId) (rounds : Nat) (registry : Registry) :
    (registry.evictUntil fits (some key) rounds).2.get key = registry.get key := by
  induction rounds generalizing registry with
  | zero =>
      unfold evictUntil
      split
      · rfl
      · cases registry.oldestCompleted (some key) <;> rfl
  | succ rounds ih =>
      unfold evictUntil
      split
      · rfl
      · cases chosen : registry.oldestCompleted (some key) with
        | none => rfl
        | some oldest =>
            obtain ⟨-, -, -, spared⟩ := oldestCompleted_eq_some chosen
            have away : key ≠ oldest := fun same => spared (congrArg some same)
            exact (ih _).trans (get_remove.trans (if_neg away))

/-- A completion of an entry in flight settles it and then removes other spent entries at most. -/
theorem complete_inFlight (response : CachedResponse) (disposition : CacheDisposition)
    (found : registry.get key = some entry) (flight : entry.state = .inFlight) :
    ∃ settled seq, (registry.complete key response disposition).1 = some entry.notify ∧
      Thins settled (registry.complete key response disposition).2 ∧
      (registry.complete key response disposition).2.get key = settled.get key ∧
      ∀ other, settled.get other = if other = key then some { entry with
        responseBytes := response.storageBytes
        completedSeq := some seq
        state := .complete response disposition } else registry.get other := by
  obtain ⟨identity, requestBytes, responseBytes, state, notify, waiters, completedSeq⟩ := entry
  subst flight
  let counted := { registry with completionSeq := saturatingAdd registry.completionSeq 1 }
  have found' : counted.get key = some ⟨identity, requestBytes, responseBytes, .inFlight, notify, waiters,
    completedSeq⟩ := found
  let completed := counted.modify key fun entry => { entry with
    responseBytes := response.storageBytes
    completedSeq := some (saturatingAdd registry.completionSeq 1)
    state := .complete response disposition }
  refine ⟨{ completed with totalBytes := saturatingAdd completed.totalBytes response.storageBytes },
    saturatingAdd registry.completionSeq 1, ?_, ?_, ?_, ?_⟩
  · simp only [complete]
    rw [found']
  · simp only [complete]
    rw [found']
    exact thins_evictUntil _ _ _ _
  · simp only [complete]
    rw [found']
    exact get_evictUntil_spared _ _ _ _
  · intro other
    show completed.get other = _
    rw [get_modify]
    split
    · rename_i same
      rw [same, found']
      rfl
    · rfl

theorem takeResponse_inFlight (found : registry.get key = some entry) (flight : entry.state = .inFlight) :
    registry.takeResponse key = (.pending, registry) := by
  simp [takeResponse, found, flight]

theorem takeResponse_complete {response : CachedResponse} {disposition : CacheDisposition}
    (found : registry.get key = some entry) (done : entry.state = .complete response disposition) :
    registry.takeResponse key = (.ready response, registry.dropWaiter key) := by
  simp [takeResponse, dropWaiter, found, done]

theorem length_remove (found : registry.get key = some entry) :
    (registry.remove key).entries.keys.length + 1 = registry.entries.keys.length := by
  have here : key ∈ registry.entries.keys := AList.lookup_isSome.mp (by
    rw [show registry.entries.lookup key = some entry from found]
    rfl)
  have kept : (registry.remove key).entries.keys = registry.entries.keys.erase key := by
    simp [remove, found]
  rw [kept, List.length_erase_of_mem here]
  exact Nat.succ_pred_eq_of_pos (List.length_pos_of_mem here)

end Registry

end Codebox.ControlPlane
