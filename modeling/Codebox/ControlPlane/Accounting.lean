import Codebox.ControlPlane.Idempotency
import Codebox.Support.Weight

/-! # The storage of the idempotency registry

The registry counts the bytes it holds as it goes, and makes room by that count. Here the count is
shown to be the sum over the entries, and the order in which entries are removed for room to be the
order in which they completed.
-/

namespace Codebox.ControlPlane

open Codebox.Support

namespace Entry

def bytes (entry : Entry) : Nat := entry.requestBytes + entry.responseBytes

/-- The place of an entry in the order of completion. -/
def place (entry : Entry) : Nat := entry.completedSeq.getD 0

end Entry

namespace Registry

variable {registry registry' : Registry} {key other : CommandId} {entry entry' : Entry}
  {spared : Option CommandId} {f : Entry → Entry}

/-- The bytes of the retained entries. -/
def storedBytes (registry : Registry) : Nat := weight Entry.bytes registry.entries

/-! ## What may be removed for room -/

/-- A completed entry without waiters, other than the spared one. -/
structure Candidate (registry : Registry) (spared : Option CommandId) (key : CommandId)
    (entry : Entry) : Prop where
  found : registry.get key = some entry
  unspared : spared ≠ some key
  completed : entry.completedSeq.isSome = true
  idle : entry.waiters = 0

theorem place_older (first second : Σ _ : CommandId, Entry) :
    (Entry.older first second).2.place ≤ first.2.place ∧
      (Entry.older first second).2.place ≤ second.2.place := by
  unfold Entry.older Entry.place
  split <;> omega

theorem place_foldl_older (pairs : List (Σ _ : CommandId, Entry)) (first : Σ _ : CommandId, Entry) :
    ∀ pair ∈ first :: pairs, (pairs.foldl Entry.older first).2.place ≤ pair.2.place := by
  induction pairs generalizing first with
  | nil => simp
  | cons second pairs ih =>
    have least := ih (Entry.older first second)
    have here := least _ List.mem_cons_self
    have chosen := place_older first second
    intro pair among
    obtain rfl | rfl | later := by simpa using among
    · exact Nat.le_trans here chosen.1
    · exact Nat.le_trans here chosen.2
    · exact least pair (List.mem_cons_of_mem _ later)

theorem mem_candidates :
    (⟨key, entry⟩ : Σ _ : CommandId, Entry) ∈ (registry.entries.entries.filter fun pair =>
      some pair.1 != spared && pair.2.completedSeq.isSome && pair.2.waiters == 0) ↔
    registry.Candidate spared key entry := by
  rw [List.mem_filter]
  simp only [Bool.and_eq_true, bne_iff_ne, ne_eq, beq_iff_eq]
  constructor
  · rintro ⟨here, ⟨away, done⟩, idle⟩
    exact ⟨AList.mem_lookup_iff.mpr here, fun same => away same.symm, done, idle⟩
  · intro candidate
    exact ⟨AList.mem_lookup_iff.mp candidate.found,
      ⟨fun same => candidate.unspared same.symm, candidate.completed⟩, candidate.idle⟩

theorem oldestCompleted_none (none : registry.oldestCompleted spared = none) :
    ¬ registry.Candidate spared key entry := by
  intro candidate
  unfold oldestCompleted at none
  split at none
  · rename_i empty
    have among := mem_candidates.mpr candidate
    rw [empty] at among
    cases among
  · cases none

/-- The chosen entry may be removed, and none that may be completed before it. -/
theorem oldestCompleted_oldest (chosen : registry.oldestCompleted spared = some key) :
    ∃ entry, registry.Candidate spared key entry ∧ ∀ other entry',
      registry.Candidate spared other entry' → entry.place ≤ entry'.place := by
  unfold oldestCompleted at chosen
  split at chosen
  · cases chosen
  · rename_i first rest candidates
    obtain rfl := Option.some.inj chosen
    have among := candidates ▸ foldl_older_mem rest first
    have least := place_foldl_older rest first
    generalize rest.foldl Entry.older first = oldest at among least
    refine ⟨oldest.2, mem_candidates.mp among, ?_⟩
    intro other entry' candidate
    apply least ⟨other, entry'⟩
    rw [← candidates]
    exact mem_candidates.mpr candidate

/-! ## The books -/

/-- The count of bytes is exact, and the completed entries are numbered apart. -/
structure Books (registry : Registry) : Prop where
  total : registry.totalBytes = registry.storedBytes
  numbered : ∀ key entry, registry.get key = some entry →
    (entry.completedSeq.isSome = true ↔ entry.state ≠ .inFlight)
  unanswered : ∀ key entry, registry.get key = some entry → entry.state = .inFlight →
    entry.responseBytes = 0
  counted : ∀ key entry, registry.get key = some entry → entry.place ≤ registry.completionSeq
  apart : ∀ key other entry entry', registry.get key = some entry → registry.get other = some entry' →
    entry.completedSeq.isSome = true → entry.completedSeq = entry'.completedSeq → key = other

theorem books_empty : Books {} where
  total := rfl
  numbered _ _ found := by cases found
  unanswered _ _ found := by cases found
  counted _ _ found := by cases found
  apart _ _ _ _ found := by cases found

/-- The books of a registry with some of the entries of another and its number of completions. -/
theorem Books.thin (books : registry.Books) (seq : registry'.completionSeq = registry.completionSeq)
    (fewer : ∀ key entry, registry'.get key = some entry → registry.get key = some entry)
    (total : registry'.totalBytes = registry'.storedBytes) : registry'.Books where
  total := total
  numbered key entry found := books.numbered key entry (fewer key entry found)
  unanswered key entry found := books.unanswered key entry (fewer key entry found)
  counted key entry found := seq ▸ books.counted key entry (fewer key entry found)
  apart key other entry entry' found found' :=
    books.apart key other entry entry' (fewer key entry found) (fewer other entry' found')

theorem storedBytes_remove (found : registry.get key = some entry) :
    registry.storedBytes = entry.bytes + (registry.remove key).storedBytes := by
  have removed : (registry.remove key).entries = registry.entries.erase key := by
    simp [remove, found]
  rw [storedBytes, storedBytes, removed]
  exact weight_erase Entry.bytes found

theorem completionSeq_remove : (registry.remove key).completionSeq = registry.completionSeq := by
  unfold remove
  split <;> rfl

theorem get_of_get_remove (found : (registry.remove key).get other = some entry) :
    registry.get other = some entry := by
  rw [get_remove] at found
  split at found
  · cases found
  · exact found

theorem Books.remove (books : registry.Books) (key : CommandId) : (registry.remove key).Books := by
  cases here : registry.get key with
  | none =>
    have same : registry.remove key = registry := by simp [Registry.remove, here]
    rw [same]
    exact books
  | some entry =>
    apply books.thin completionSeq_remove (fun _ _ => get_of_get_remove)
    have sum := storedBytes_remove here
    have less : (registry.remove key).totalBytes
        = registry.totalBytes - entry.requestBytes - entry.responseBytes := by
      simp [Registry.remove, here]
    rw [less, books.total, sum, Entry.bytes]
    omega

theorem Books.removeAll (books : registry.Books) (keys : List CommandId) :
    (registry.removeAll keys).Books := by
  induction keys generalizing registry with
  | nil => exact books
  | cons key keys ih => exact ih (books.remove key)

theorem completionSeq_modify : (registry.modify key f).completionSeq = registry.completionSeq := by
  unfold modify
  split <;> rfl

/-- A change of an entry that leaves what the books are about. -/
theorem Books.modify (books : registry.Books) (key : CommandId)
    (requestBytes : ∀ entry, (f entry).requestBytes = entry.requestBytes)
    (responseBytes : ∀ entry, (f entry).responseBytes = entry.responseBytes)
    (state : ∀ entry, (f entry).state = entry.state) (seq : ∀ entry, (f entry).completedSeq = entry.completedSeq) :
    (registry.modify key f).Books := by
  have before : ∀ other entry', (registry.modify key f).get other = some entry' →
      ∃ entry, registry.get other = some entry ∧ entry'.state = entry.state ∧
        entry'.responseBytes = entry.responseBytes ∧ entry'.completedSeq = entry.completedSeq := by
    intro other entry' found
    rw [get_modify] at found
    split at found
    · obtain ⟨entry, there, rfl⟩ := Option.map_eq_some_iff.mp found
      exact ⟨entry, there, state entry, responseBytes entry, seq entry⟩
    · exact ⟨entry', found, rfl, rfl, rfl⟩
  constructor
  · cases here : registry.get key with
    | none =>
      simp only [Registry.modify, here]
      exact books.total
    | some entry =>
      have sum := weight_erase Entry.bytes here
      simp only [Registry.modify, here, books.total]
      rw [storedBytes, storedBytes, weight_insert, sum, Entry.bytes, Entry.bytes, requestBytes,
        responseBytes]
  · intro other entry' found
    obtain ⟨entry, found, sameState, -, sameSeq⟩ := before other entry' found
    rw [sameState, sameSeq]
    exact books.numbered other entry found
  · intro other entry' found flight
    obtain ⟨entry, found, sameState, sameBytes, -⟩ := before other entry' found
    rw [sameBytes]
    exact books.unanswered other entry found (sameState ▸ flight)
  · intro other entry' found
    obtain ⟨entry, found, -, -, sameSeq⟩ := before other entry' found
    rw [Entry.place, sameSeq, completionSeq_modify]
    exact books.counted other entry found
  · intro one two entry₁ entry₂ found₁ found₂ completed same
    obtain ⟨first, found₁, -, -, seq₁⟩ := before one entry₁ found₁
    obtain ⟨second, found₂, -, -, seq₂⟩ := before two entry₂ found₂
    rw [seq₁] at completed same
    rw [seq₂] at same
    exact books.apart one two first second found₁ found₂ completed same

theorem Books.addWaiter (books : registry.Books) (key : CommandId) :
    (registry.modify key Entry.addWaiter).Books :=
  books.modify key (fun _ => rfl) (fun _ => rfl) (fun _ => rfl) (fun _ => rfl)

theorem Books.dropWaiter (books : registry.Books) (key : CommandId) :
    (registry.dropWaiter key).Books :=
  books.modify key (fun _ => rfl) (fun _ => rfl) (fun _ => rfl) (fun _ => rfl)

theorem Books.takeResponse (books : registry.Books) (key : CommandId) :
    (registry.takeResponse key).2.Books := by
  unfold Registry.takeResponse
  split
  · exact books
  · split
    · exact books
    · exact books.dropWaiter key

/-! ## Removing for room -/

/-- The entries of `keys` are removed one after the other, each of them the first to have completed
of those that may be removed. -/
inductive Evicts (spared : Option CommandId) : Registry → List CommandId → Registry → Prop where
  | done (registry : Registry) : Evicts spared registry [] registry
  | next {registry registry' : Registry} {key : CommandId} {keys : List CommandId} {entry : Entry}
      (candidate : registry.Candidate spared key entry)
      (oldest : ∀ other entry', registry.Candidate spared other entry' → other ≠ key →
        entry.place < entry'.place)
      (rest : Evicts spared (registry.remove key) keys registry') :
      Evicts spared registry (key :: keys) registry'

variable {keys : List CommandId}
  {identity : RequestIdentity} {result : Except ApiError IdempotencyAdmission × Registry} {fresh : NotifyId}

theorem Evicts.books (evicts : Evicts spared registry keys registry') (books : registry.Books) : registry'.Books := by
  induction evicts with
  | done => exact books
  | next _ _ _ ih => exact ih (books.remove _)

theorem Evicts.get (evicts : Evicts spared registry keys registry')
    (found : registry'.get key = some entry) : registry.get key = some entry := by
  induction evicts with
  | done => exact found
  | next _ _ _ ih => exact get_of_get_remove (ih found)

theorem Evicts.completionSeq (evicts : Evicts spared registry keys registry') :
    registry'.completionSeq = registry.completionSeq := by
  induction evicts with
  | done => rfl
  | next _ _ _ ih => exact ih.trans completionSeq_remove

/-- Distinct candidates completed at distinct places. -/
theorem Books.place_lt (books : registry.Books) (candidate : registry.Candidate spared key entry)
    (candidate' : registry.Candidate spared other entry') (away : other ≠ key)
    (le : entry.place ≤ entry'.place) : entry.place < entry'.place := by
  apply Nat.lt_of_le_of_ne le
  intro same
  obtain ⟨seq, here⟩ := Option.isSome_iff_exists.mp candidate.completed
  obtain ⟨seq', there⟩ := Option.isSome_iff_exists.mp candidate'.completed
  simp only [Entry.place, here, there, Option.getD_some] at same
  apply away
  exact (books.apart key other entry entry' candidate.found candidate'.found candidate.completed
    (by rw [here, there, same])).symm

/-- The loop ends after as many rounds as there are entries at most: the registry fits, or there is
nothing left that may be removed. -/
theorem evicts_evictUntil (fits : Registry → Bool) (spared : Option CommandId) {rounds : Nat}
    (books : registry.Books) (enough : registry.entries.keys.length ≤ rounds) :
    (∃ keys, keys.length ≤ registry.entries.keys.length ∧
      Evicts spared registry keys (registry.evictUntil fits spared rounds).2) ∧
    ((registry.evictUntil fits spared rounds).1 = true ∧
        fits (registry.evictUntil fits spared rounds).2 = true ∨
      (registry.evictUntil fits spared rounds).1 = false ∧
        ∀ key entry, ¬ (registry.evictUntil fits spared rounds).2.Candidate spared key entry) := by
  induction rounds generalizing registry with
  | zero =>
    unfold evictUntil
    split
    · rename_i fit
      exact ⟨⟨[], Nat.zero_le _, .done registry⟩, .inl ⟨rfl, fit⟩⟩
    · cases chosen : registry.oldestCompleted spared with
      | none =>
        exact ⟨⟨[], Nat.zero_le _, .done registry⟩,
          .inr ⟨rfl, fun _ _ => oldestCompleted_none chosen⟩⟩
      | some oldest =>
        obtain ⟨entry, candidate, -⟩ := oldestCompleted_oldest chosen
        have shorter := length_remove candidate.found
        omega
  | succ rounds ih =>
    unfold evictUntil
    split
    · rename_i fit
      exact ⟨⟨[], Nat.zero_le _, .done registry⟩, .inl ⟨rfl, fit⟩⟩
    · cases chosen : registry.oldestCompleted spared with
      | none =>
        exact ⟨⟨[], Nat.zero_le _, .done registry⟩,
          .inr ⟨rfl, fun _ _ => oldestCompleted_none chosen⟩⟩
      | some oldest =>
        obtain ⟨entry, candidate, first⟩ := oldestCompleted_oldest chosen
        have shorter := length_remove candidate.found
        obtain ⟨⟨keys, few, rest⟩, ended⟩ := ih (books.remove oldest) (by omega)
        refine ⟨⟨oldest :: keys, ?_, .next candidate ?_ rest⟩, ended⟩
        · rw [List.length_cons]
          omega
        · intro other entry' candidate' away
          exact books.place_lt candidate candidate' away (first other entry' candidate')

/-! ## Admission -/

/-- Room is made for a request by removals in the order of completion, or there is nothing left to
remove. -/
theorem makeCapacity_cases (books : registry.Books) (requestBytes : Nat) :
    ∃ keys, keys.length ≤ registry.entries.keys.length ∧
      Evicts none registry keys (registry.makeCapacity requestBytes).2 ∧
      ((registry.makeCapacity requestBytes).1 = .ok () ∧
          (registry.makeCapacity requestBytes).2.hasCapacity requestBytes = true ∨
        (registry.makeCapacity requestBytes).1 = .error .idempotencyUnavailable ∧
          ∀ key entry, ¬ (registry.makeCapacity requestBytes).2.Candidate none key entry) := by
  obtain ⟨⟨keys, few, evicts⟩, ended⟩ :=
    evicts_evictUntil (hasCapacity requestBytes) none books (Nat.le_refl _)
  unfold makeCapacity
  generalize registry.evictUntil _ _ _ = evicted at evicts ended
  obtain ⟨fits, left⟩ := evicted
  refine ⟨keys, few, ?_⟩
  obtain ⟨rfl, fit⟩ | ⟨rfl, stuck⟩ := ended
  · exact ⟨evicts, .inl ⟨rfl, fit⟩⟩
  · exact ⟨evicts, .inr ⟨rfl, stuck⟩⟩

theorem hasCapacity_iff {requestBytes : Nat} : registry.hasCapacity requestBytes = true ↔
    registry.entries.keys.length < maxEntries ∧
      registry.totalBytes + requestBytes ≤ maxStorageBytes := by
  have word : maxStorageBytes < wordMax := by decide
  have exact (sum : Nat) : min sum wordMax ≤ maxStorageBytes ↔ sum ≤ maxStorageBytes := by omega
  rw [hasCapacity, Bool.and_eq_true, decide_eq_true_eq, decide_eq_true_eq, saturatingAdd, exact]

/-- The registry with a new entry in flight. -/
def withEntry (registry : Registry) (key : CommandId) (identity : RequestIdentity) (fresh : NotifyId) :
    Registry :=
  { registry with
    totalBytes := saturatingAdd registry.totalBytes identity.storageBytes
    entries := registry.entries.insert key
      { identity := identity, requestBytes := identity.storageBytes, notify := fresh } }

theorem get_withEntry : (registry.withEntry key identity fresh).get other =
    if other = key then some { identity := identity, requestBytes := identity.storageBytes, notify := fresh }
    else registry.get other := by
  split
  · rename_i same
    rw [same]
    exact AList.lookup_insert registry.entries
  · rename_i away
    exact AList.lookup_insert_ne away

theorem Books.withEntry (books : registry.Books) (free : registry.get key = none)
    (room : registry.hasCapacity identity.storageBytes = true) :
    (registry.withEntry key identity fresh).Books := by
  have word : maxStorageBytes < wordMax := by decide
  have bounds := hasCapacity_iff.mp room
  constructor
  · have stored := weight_insert_new Entry.bytes
      { identity := identity, requestBytes := identity.storageBytes, notify := fresh } free
    have sum : saturatingAdd registry.totalBytes identity.storageBytes
        = registry.totalBytes + identity.storageBytes := saturatingAdd_eq (by omega)
    simp only [Registry.withEntry, storedBytes, sum]
    rw [stored, books.total, storedBytes]
    simp only [Entry.bytes]
    omega
  · intro other entry found
    rw [get_withEntry] at found
    split at found
    · obtain rfl := Option.some.inj found
      simp
    · exact books.numbered other entry found
  · intro other entry found flight
    rw [get_withEntry] at found
    split at found
    · obtain rfl := Option.some.inj found
      rfl
    · exact books.unanswered other entry found flight
  · intro other entry found
    rw [get_withEntry] at found
    split at found
    · obtain rfl := Option.some.inj found
      exact Nat.zero_le _
    · exact books.counted other entry found
  · intro one two entry₁ entry₂ found₁ found₂ completed same
    rw [get_withEntry] at found₁ found₂
    split at found₁
    · obtain rfl := Option.some.inj found₁
      cases completed
    · split at found₂
      · obtain rfl := Option.some.inj found₂
        rw [same] at completed
        cases completed
      · exact books.apart one two entry₁ entry₂ found₁ found₂ completed same

/-- A new entry keeps the registry within its bounds if there was room. -/
theorem bounds_withEntry (free : registry.get key = none)
    (room : registry.hasCapacity identity.storageBytes = true) :
    (registry.withEntry key identity fresh).entries.keys.length ≤ maxEntries ∧
      (registry.withEntry key identity fresh).totalBytes ≤ maxStorageBytes := by
  have bounds := hasCapacity_iff.mp room
  have away : key ∉ registry.entries.keys := AList.lookup_eq_none.mp free
  constructor
  · simp only [Registry.withEntry, AList.keys_insert, List.erase_of_not_mem away, List.length_cons]
    omega
  · exact Nat.le_trans (Nat.min_le_left _ _) bounds.2

theorem get_of_get_removeAll
    (found : (registry.removeAll keys).get key = some entry) : registry.get key = some entry := by
  rw [get_removeAll] at found
  split at found
  · cases found
  · exact found

theorem completionSeq_removeAll (keys : List CommandId) :
    (registry.removeAll keys).completionSeq = registry.completionSeq := by
  induction keys generalizing registry with
  | nil => rfl
  | cons key keys ih => exact ih.trans completionSeq_remove

/-- What an admission does once the expired entries are gone: it is refused, joins the entry of its
key, or takes the key if room was made for it. -/
inductive Admits (key : CommandId) (identity : RequestIdentity) (fresh : NotifyId)
    (registry : Registry) : Except ApiError IdempotencyAdmission × Registry → Prop where
  | conflict : Admits key identity fresh registry (.error .idempotencyConflict, registry)
  | joined {entry : Entry} (found : registry.get key = some entry) :
      Admits key identity fresh registry
        (.ok ⟨false, entry.notify⟩, registry.modify key Entry.addWaiter)
  | refused {keys : List CommandId} {left : Registry} (evicts : Evicts none registry keys left)
      (stuck : ∀ key entry, ¬ left.Candidate none key entry) :
      Admits key identity fresh registry (.error .idempotencyUnavailable, left)
  | entered {keys : List CommandId} {left : Registry} (evicts : Evicts none registry keys left)
      (free : left.get key = none) (room : left.hasCapacity identity.storageBytes = true) :
      Admits key identity fresh registry (.ok ⟨true, fresh⟩, left.withEntry key identity fresh)

theorem admits_admitRequest {now : Nat} (books : (registry.pruneExpired now).Books) :
    Admits key identity fresh (registry.pruneExpired now)
      (registry.admitRequest key identity now fresh) := by
  cases found : (registry.pruneExpired now).get key with
  | some entry =>
    simp only [admitRequest, found]
    split
    · exact .conflict
    · exact .joined found
  | none =>
    obtain ⟨keys, -, evicts, ended⟩ := makeCapacity_cases books identity.storageBytes
    simp only [admitRequest, found]
    generalize (registry.pruneExpired now).makeCapacity identity.storageBytes = made at evicts ended
    obtain ⟨result, left⟩ := made
    obtain ⟨rfl, room⟩ | ⟨rfl, stuck⟩ := ended
    · have free : left.get key = none := by
        cases here : left.get key with
        | none => rfl
        | some entry =>
          rw [evicts.get here] at found
          cases found
      exact .entered evicts free room
    · exact .refused evicts stuck

theorem Admits.books (admits : Admits key identity fresh registry result) (books : registry.Books) :
    result.2.Books := by
  cases admits with
  | conflict => exact books
  | joined _ => exact books.addWaiter key
  | refused evicts _ => exact evicts.books books
  | entered evicts free room => exact (evicts.books books).withEntry free room

/-- An owner is let in only within the bounds. -/
theorem Admits.bounds {notify : NotifyId} (admits : Admits key identity fresh registry result)
    (owner : result.1 = .ok ⟨true, notify⟩) :
    result.2.entries.keys.length ≤ maxEntries ∧ result.2.totalBytes ≤ maxStorageBytes := by
  cases admits with
  | conflict => cases owner
  | joined _ => cases owner
  | refused _ _ => cases owner
  | entered _ free room => exact bounds_withEntry free room

theorem Admits.completionSeq (admits : Admits key identity fresh registry result) :
    result.2.completionSeq = registry.completionSeq := by
  cases admits with
  | conflict => rfl
  | joined _ => exact completionSeq_modify
  | refused evicts _ => exact evicts.completionSeq
  | entered evicts _ _ => exact evicts.completionSeq

/-! ## Completion -/

/-- The entry as its completion leaves it. -/
def answered (entry : Entry) (response : CachedResponse) (disposition : CacheDisposition)
    (seq : Nat) : Entry :=
  { entry with
    responseBytes := response.storageBytes
    completedSeq := some seq
    state := .complete response disposition }

/-- A completion before it removes anything. -/
def settle (key : CommandId) (response : CachedResponse) (disposition : CacheDisposition)
    (registry : Registry) : Registry :=
  let seq := saturatingAdd registry.completionSeq 1
  match registry.get key with
  | some { state := .inFlight, identity, requestBytes, responseBytes, notify, waiters, completedSeq } =>
      { entries := registry.entries.insert key (answered
          { state := .inFlight, identity, requestBytes, responseBytes, notify, waiters, completedSeq }
          response disposition seq)
        totalBytes := saturatingAdd registry.totalBytes response.storageBytes
        completionSeq := seq }
  | some { state := .complete _ _, .. } | none => { registry with completionSeq := seq }

section Completing

variable {response : CachedResponse} {disposition : CacheDisposition}

theorem complete_eq : (registry.complete key response disposition).2 =
    (registry.settle key response disposition).evictCompletedToStorageBound (some key) := by
  have same : ({ registry with completionSeq := saturatingAdd registry.completionSeq 1 } : Registry).get key
      = registry.get key := rfl
  simp only [complete, settle, same]
  cases found : registry.get key with
  | none => rfl
  | some entry =>
    obtain ⟨identity, requestBytes, responseBytes, state, notify, waiters, completedSeq⟩ := entry
    cases state with
    | inFlight => simp [modify, same, found, answered]
    | complete => rfl

theorem settle_inFlight (found : registry.get key = some entry) (flight : entry.state = .inFlight) :
    registry.settle key response disposition =
      { entries := registry.entries.insert key
          (answered entry response disposition (saturatingAdd registry.completionSeq 1))
        totalBytes := saturatingAdd registry.totalBytes response.storageBytes
        completionSeq := saturatingAdd registry.completionSeq 1 } := by
  obtain ⟨identity, requestBytes, responseBytes, state, notify, waiters, completedSeq⟩ := entry
  subst flight
  simp only [settle, found]

theorem settle_other (none : ∀ entry, registry.get key = some entry → entry.state ≠ .inFlight) :
    registry.settle key response disposition =
      { registry with completionSeq := saturatingAdd registry.completionSeq 1 } := by
  unfold settle
  split
  · rename_i found
    exact absurd rfl (none _ found)
  · rfl
  · rfl

/-- The number of a completion is larger than every number given before. -/
theorem Books.settle (books : registry.Books)
    (fits : registry.totalBytes + response.storageBytes ≤ wordMax)
    (counts : registry.completionSeq < wordMax) :
    (registry.settle key response disposition).Books := by
  have seq : saturatingAdd registry.completionSeq 1 = registry.completionSeq + 1 :=
    saturatingAdd_eq counts
  have fresh : ∀ other entry, registry.get other = some entry →
      entry.completedSeq ≠ some (registry.completionSeq + 1) := by
    intro other entry found same
    have le := books.counted other entry found
    rw [Entry.place, same, Option.getD_some] at le
    omega
  by_cases flight : ∃ entry, registry.get key = some entry ∧ entry.state = .inFlight
  · obtain ⟨entry, found, flight⟩ := flight
    have total : saturatingAdd registry.totalBytes response.storageBytes
        = registry.totalBytes + response.storageBytes := saturatingAdd_eq fits
    rw [settle_inFlight found flight, seq, total]
    have lookup : ∀ other, ({
        entries := registry.entries.insert key
          (answered entry response disposition (registry.completionSeq + 1))
        totalBytes := registry.totalBytes + response.storageBytes
        completionSeq := registry.completionSeq + 1 } : Registry).get other =
        if other = key then some (answered entry response disposition (registry.completionSeq + 1))
        else registry.get other := by
      intro other
      split
      · rename_i same
        rw [same]
        exact AList.lookup_insert registry.entries
      · rename_i away
        exact AList.lookup_insert_ne away
    constructor
    · have sum := weight_erase Entry.bytes found
      have none := books.unanswered key entry found flight
      show registry.totalBytes + response.storageBytes = weight Entry.bytes _
      rw [weight_insert, books.total, storedBytes, sum]
      simp only [Entry.bytes, answered, none]
      omega
    · intro other entry' found'
      rw [lookup] at found'
      split at found'
      · obtain rfl := Option.some.inj found'
        simp [answered]
      · exact books.numbered other entry' found'
    · intro other entry' found' flight'
      rw [lookup] at found'
      split at found'
      · obtain rfl := Option.some.inj found'
        cases flight'
      · exact books.unanswered other entry' found' flight'
    · intro other entry' found'
      rw [lookup] at found'
      split at found'
      · obtain rfl := Option.some.inj found'
        exact Nat.le_refl _
      · exact Nat.le_succ_of_le (books.counted other entry' found')
    · intro one two entry₁ entry₂ found₁ found₂ completed same
      rw [lookup] at found₁ found₂
      split at found₁
      · rename_i here
        obtain rfl := Option.some.inj found₁
        split at found₂
        · rename_i there
          rw [here, there]
        · exact absurd same.symm (fresh two entry₂ found₂)
      · split at found₂
        · obtain rfl := Option.some.inj found₂
          exact absurd same (fresh one entry₁ found₁)
        · exact books.apart one two entry₁ entry₂ found₁ found₂ completed same
  · rw [settle_other fun entry found same => flight ⟨entry, found, same⟩, seq]
    exact ⟨books.total, books.numbered, books.unanswered,
      fun other entry found => Nat.le_succ_of_le (books.counted other entry found), books.apart⟩

/-- A completion removes what stands above the bound in the order of completion, until the registry
is within it or nothing is left that may be removed. -/
theorem complete_books (books : registry.Books)
    (fits : registry.totalBytes + response.storageBytes ≤ wordMax)
    (counts : registry.completionSeq < wordMax) :
    (registry.complete key response disposition).2.Books ∧
    (∃ keys, Evicts (some key) (registry.settle key response disposition) keys
      (registry.complete key response disposition).2) ∧
    ((registry.complete key response disposition).2.totalBytes ≤ maxStorageBytes ∨
      ∀ other entry,
        ¬ (registry.complete key response disposition).2.Candidate (some key) other entry) := by
  have settled : (registry.settle key response disposition).Books := books.settle fits counts
  rw [complete_eq, evictCompletedToStorageBound]
  obtain ⟨⟨keys, -, evicts⟩, ended⟩ := evicts_evictUntil
    (fun registry => decide (registry.totalBytes ≤ maxStorageBytes)) (some key) settled (Nat.le_refl _)
  refine ⟨evicts.books settled, ⟨keys, evicts⟩, ?_⟩
  obtain ⟨-, fit⟩ | ⟨-, stuck⟩ := ended
  · exact .inl (of_decide_eq_true fit)
  · exact .inr stuck

end Completing

end Registry

end Codebox.ControlPlane
