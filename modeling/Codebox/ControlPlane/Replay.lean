import Codebox.ControlPlane.Idempotency
import Codebox.Support.Entrywise
import Codebox.Support.Transition

/-! # Replay of completed responses

Requests enter the registry in any order; each of them is a future that looks for its response,
waits for a notification and looks again, and that may be dropped at any time. The owner of an
entry has a task of its own that completes the key once, whether or not its future is still there.
-/

namespace Codebox.ControlPlane.Replay

open Codebox.Support

/-- Where the future of `response` stands. `woken` says that a notification came since the wait
was created; such a notification is not lost, even if the future was not yet waiting. -/
inductive Waiting where
  | created
  | armed (woken : Bool)
  | parked (woken : Bool)
  | received (response : CachedResponse)
  | missed
  | dropped
  deriving Repr, DecidableEq

namespace Waiting

def live : Waiting → Bool
  | created | armed _ | parked _ => true
  | received _ | missed | dropped => false

def notified : Waiting → Waiting
  | armed _ => armed true
  | parked _ => parked true
  | created => created
  | received response => received response
  | missed => missed
  | dropped => dropped

end Waiting

structure Admission where
  key : CommandId
  identity : RequestIdentity
  notify : NotifyId
  owner : Bool
  /-- The owner's task has not completed the key yet. -/
  owes : Bool
  waiting : Waiting
  deriving Repr, DecidableEq

namespace Admission

def live (admission : Admission) : Bool := admission.waiting.live

/-- `notify_waiters` of the notify that a completion returned. -/
def wake (woken : Option NotifyId) (admission : Admission) : Admission :=
  if woken = some admission.notify then { admission with waiting := admission.waiting.notified } else admission

end Admission

structure Sys where
  registry : Registry
  /-- In the order in which they were let in. -/
  admissions : List Admission
  /-- What the owners completed, under the notify of their entry. -/
  completions : List (NotifyId × CachedResponse)

inductive Label where
  | admitRequest (key : CommandId) (identity : RequestIdentity) (now : Nat)
  | complete (admission : Nat) (response : CachedResponse) (disposition : CacheDisposition)
  /-- Create the wait, look for the response, go on after a notification. -/
  | arm (admission : Nat)
  | look (admission : Nat)
  | resume (admission : Nat)
  | drop (admission : Nat)
  | releaseAuthSession (sessionSeq : Nat)
  /-- The map takes another order. -/
  | rehash (entries : AList fun _ : CommandId => Entry)

namespace Sys

def setWaiting (sys : Sys) (i : Nat) (admission : Admission) (waiting : Waiting) : Sys :=
  { sys with admissions := sys.admissions.set i { admission with waiting := waiting } }

def admitRequest (sys : Sys) (key : CommandId) (identity : RequestIdentity) (now : Nat) : Option Sys :=
  -- a waiter holds a handle of the registry
  if sys.admissions.countP Admission.live < handleMax then
    match sys.registry.admitRequest key identity now sys.admissions.length with
    | (.error _, registry) => some { sys with registry := registry }
    | (.ok ⟨owner, notify⟩, registry) => some { sys with
        registry := registry
        admissions := sys.admissions ++ [⟨key, identity, notify, owner, owner, .created⟩] }
  else none

def complete (sys : Sys) (i : Nat) (admission : Admission) (response : CachedResponse)
    (disposition : CacheDisposition) : Sys :=
  let completed := sys.registry.complete admission.key response disposition
  { registry := completed.2
    admissions := (sys.admissions.set i { admission with owes := false }).map (Admission.wake completed.1)
    completions := sys.completions ++ [(admission.notify, response)] }

def look (sys : Sys) (i : Nat) (admission : Admission) (woken : Bool) : Sys :=
  match sys.registry.takeResponse admission.key with
  | (.pending, _) => sys.setWaiting i admission (.parked woken)
  | (.ready response, registry) => { sys with registry := registry }.setWaiting i admission (.received response)
  | (.missing, _) => sys.setWaiting i admission .missed

def step (sys : Sys) : Label → Option Sys
  | .admitRequest key identity now => sys.admitRequest key identity now
  | .complete i response disposition => sys.admissions[i]?.bind fun admission =>
      if admission.owes then some (sys.complete i admission response disposition) else none
  | .arm i => sys.admissions[i]?.bind fun admission => match admission.waiting with
      | .created => some (sys.setWaiting i admission (.armed false))
      | _ => none
  | .look i => sys.admissions[i]?.bind fun admission => match admission.waiting with
      | .armed woken => some (sys.look i admission woken)
      | _ => none
  | .resume i => sys.admissions[i]?.bind fun admission => match admission.waiting with
      | .parked true => some (sys.setWaiting i admission .created)
      | _ => none
  | .drop i => sys.admissions[i]?.bind fun admission =>
      if admission.live then
        some ({ sys with registry := sys.registry.dropWaiter admission.key }.setWaiting i admission .dropped)
      else none
  | .releaseAuthSession sessionSeq =>
      some { sys with registry := sys.registry.releaseAuthSession sessionSeq }
  | .rehash entries =>
      if entries.entries.Perm sys.registry.entries.entries then
        some { sys with registry := { sys.registry with entries := entries } }
      else none

end Sys

def system : System Sys Label where
  initial sys := sys = ⟨{}, [], []⟩
  step := Sys.step

/-! ## The invariant -/

/-- How many live futures wait on a notify. -/
def waitersOf (admissions : List Admission) (notify : NotifyId) : Nat :=
  admissions.countP fun admission => admission.live && admission.notify == notify

section

variable {admissions : List Admission} {admission admission' : Admission} {i : Nat} {notify : NotifyId}

theorem waitersOf_pos (here : admissions[i]? = some admission) (live : admission.live = true) :
    0 < waitersOf admissions admission.notify := by
  apply List.countP_pos_iff.mpr
  exact ⟨admission, List.mem_of_getElem? here, by simp [live]⟩

theorem waitersOf_le (admissions : List Admission) (notify : NotifyId) :
    waitersOf admissions notify ≤ admissions.countP Admission.live := by
  apply List.countP_mono_left
  intro admission _ counted
  exact (Bool.and_eq_true_iff.mp counted).1

theorem waitersOf_concat : waitersOf (admissions ++ [admission]) notify =
    waitersOf admissions notify + if admission.live && admission.notify == notify then 1 else 0 := by
  simp [waitersOf, List.countP_append, List.countP_singleton]

theorem waitersOf_set (here : admissions[i]? = some admission) (same : admission'.notify = admission.notify)
    (live : admission'.live = admission.live) :
    waitersOf (admissions.set i admission') notify = waitersOf admissions notify := by
  obtain ⟨inside, here⟩ := List.getElem?_eq_some_iff.mp here
  have counted : 0 < waitersOf admissions notify ∨ (admission.live && admission.notify == notify) = false := by
    by_cases own : (admission.live && admission.notify == notify) = true
    · exact .inl (List.countP_pos_iff.mpr ⟨admission, here ▸ List.getElem_mem inside, own⟩)
    · exact .inr (by simpa using own)
  unfold waitersOf at counted ⊢
  rw [List.countP_set inside, here, same, live]
  split
  · rename_i own
    have := counted.resolve_right (by simp [own])
    omega
  · omega

/-- A future that ends is one waiter less. -/
theorem waitersOf_end (here : admissions[i]? = some admission)
    (live : admission.live = true) (ended : admission'.live = false) :
    waitersOf (admissions.set i admission') notify =
      if notify = admission.notify then waitersOf admissions notify - 1 else waitersOf admissions notify := by
  obtain ⟨inside, here⟩ := List.getElem?_eq_some_iff.mp here
  unfold waitersOf
  rw [List.countP_set inside, here, ended, live]
  by_cases own : notify = admission.notify
  · subst own
    simp
  · have other : admission.notify ≠ notify := fun same => own same.symm
    simp [own, other]

theorem waitersOf_wake (woken : Option NotifyId) :
    waitersOf (admissions.map (Admission.wake woken)) notify = waitersOf admissions notify := by
  unfold waitersOf
  rw [List.countP_map]
  congr 1
  funext admission
  simp only [Function.comp, Admission.wake, Admission.live]
  split
  · cases admission.waiting <;> rfl
  · rfl

theorem live_set_le (here : admissions[i]? = some admission)
    (live : admission'.live = true → admission.live = true) :
    (admissions.set i admission').countP Admission.live ≤ admissions.countP Admission.live := by
  obtain ⟨inside, here⟩ := List.getElem?_eq_some_iff.mp here
  have counted : admission.live = true → 0 < admissions.countP Admission.live := fun own =>
    List.countP_pos_iff.mpr ⟨admission, here ▸ List.getElem_mem inside, own⟩
  rw [List.countP_set inside, here]
  split <;> split <;> simp_all

theorem live_concat_le (room : admissions.countP Admission.live < handleMax) :
    (admissions ++ [admission]).countP Admission.live ≤ handleMax := by
  rw [List.countP_append, List.countP_singleton]
  split <;> omega

end

/-- An entry has its owner, and counts the live futures that wait for it. -/
structure EntryInv (admissions : List Admission) (completions : List (NotifyId × CachedResponse))
    (key : CommandId) (entry : Entry) : Prop where
  owner : ∃ admission, admissions[entry.notify]? = some admission ∧ admission.owner = true ∧
    admission.key = key ∧ admission.identity = entry.identity ∧ (admission.owes = true ↔ entry.state = .inFlight)
  waiters : entry.waiters = waitersOf admissions entry.notify
  completed : ∀ response disposition, entry.state = .complete response disposition →
    (entry.notify, response) ∈ completions
  numbered : entry.completedSeq.isSome = true → entry.state ≠ .inFlight

/-- A live future and a task that owes its completion have their entry. -/
structure AdmissionInv (registry : Registry) (completions : List (NotifyId × CachedResponse)) (i : Nat)
    (admission : Admission) : Prop where
  owner : admission.owner = true ↔ admission.notify = i
  owes : admission.owes = true → admission.owner = true
  attached : admission.live = true ∨ admission.owes = true →
    ∃ entry, registry.get admission.key = some entry ∧ entry.notify = admission.notify ∧
      entry.identity = admission.identity
  received : ∀ response, admission.waiting = .received response → (admission.notify, response) ∈ completions
  found : admission.waiting ≠ .missed
  parked : ∀ entry, admission.waiting = .parked false → registry.get admission.key = some entry →
    entry.state = .inFlight

structure Inv (sys : Sys) : Prop where
  entries : ∀ key entry, sys.registry.get key = some entry →
    EntryInv sys.admissions sys.completions key entry
  admissions : ∀ i admission, sys.admissions[i]? = some admission →
    AdmissionInv sys.registry sys.completions i admission
  settled : ∀ notify response, (notify, response) ∈ sys.completions → ∃ admission,
    sys.admissions[notify]? = some admission ∧ admission.owner = true ∧ admission.owes = false
  exact_ : ∀ notify response response', (notify, response) ∈ sys.completions →
    (notify, response') ∈ sys.completions → response = response'
  bounded : sys.admissions.countP Admission.live ≤ handleMax

section

variable {sys sys' : Sys} {i : Nat} {key other : CommandId} {entry entry' : Entry} {admission : Admission}
  {registry before : Registry} {waiting : Waiting} {admissions : List Admission}
  {completions : List (NotifyId × CachedResponse)} {f : Entry → Entry} {label : Label}

theorem Inv.same_key (inv : Inv sys) (found : sys.registry.get key = some entry)
    (found' : sys.registry.get other = some entry') (same : entry'.notify = entry.notify) : other = key := by
  obtain ⟨admission, here, -, own, -⟩ := (inv.entries key entry found).owner
  obtain ⟨admission', here', -, own', -⟩ := (inv.entries other entry' found').owner
  rw [same] at here'
  cases here.symm.trans here'
  exact own'.symm.trans own

/-- The entry of a live future or of a task that owes its completion is not spent. -/
theorem Inv.not_spent (inv : Inv sys) (here : sys.admissions[i]? = some admission)
    (busy : admission.live = true ∨ admission.owes = true) (found : sys.registry.get admission.key = some entry) :
    ¬entry.Spent := by
  have ready := inv.admissions i admission here
  obtain ⟨entry', found', notify, -⟩ := ready.attached busy
  cases found.symm.trans found'
  have counted := inv.entries _ _ found
  rintro ⟨idle, over_⟩
  rcases busy with live | owes
  · have := waitersOf_pos here live
    rw [counted.waiters, notify] at idle
    omega
  · obtain ⟨owner, here', -, -, -, flight⟩ := counted.owner
    rw [notify, (ready.owner.mp (ready.owes owes)), here] at here'
    cases here'
    have flight := flight.mp owes
    rcases over_ with done | numbered
    · exact done flight
    · exact counted.numbered numbered flight

theorem Inv.owes_inFlight (inv : Inv sys) (here : sys.admissions[i]? = some admission)
    (owes : admission.owes = true) : ∃ entry, sys.registry.get admission.key = some entry ∧
      entry.notify = i ∧ admission.notify = i ∧ entry.state = .inFlight := by
  have ready := inv.admissions i admission here
  have own := ready.owner.mp (ready.owes owes)
  obtain ⟨entry, found, notify, -⟩ := ready.attached (.inr owes)
  rw [own] at notify
  obtain ⟨owner, here', -, -, -, flight⟩ := (inv.entries _ _ found).owner
  rw [notify, here] at here'
  cases here'
  exact ⟨entry, found, notify, own, flight.mp owes⟩

/-- An admission only needs its own entry, and that only while it is busy. -/
theorem AdmissionInv.kept {completions' : List (NotifyId × CachedResponse)} {registry' : Registry}
    (inv : AdmissionInv registry completions i admission)
    (more : ∀ completion ∈ completions, completion ∈ completions')
    (kept : admission.live = true ∨ admission.owes = true → ∀ entry, registry.get admission.key = some entry →
      entry.notify = admission.notify → ∃ entry', registry'.get admission.key = some entry' ∧
        entry'.notify = entry.notify ∧ entry'.identity = entry.identity ∧
        (admission.waiting = .parked false → entry'.state = entry.state)) :
    AdmissionInv registry' completions' i admission := by
  refine ⟨inv.owner, inv.owes, ?_, fun response got => more _ (inv.received response got), inv.found, ?_⟩
  · intro busy
    obtain ⟨entry, found, notify, identity⟩ := inv.attached busy
    obtain ⟨entry', found', notify', identity', -⟩ := kept busy entry found notify
    exact ⟨entry', found', notify'.trans notify, identity'.trans identity⟩
  · intro entry' parked found'
    have live : admission.live = true := by rw [Admission.live, parked]; rfl
    obtain ⟨entry, found, notify, -⟩ := inv.attached (.inl live)
    obtain ⟨entry'', found'', -, -, state⟩ := kept (.inl live) entry found notify
    cases found'.symm.trans found''
    exact (state parked).trans (inv.parked entry parked found)

/-- An update that only counts waiters. -/
def Keeps (f : Entry → Entry) : Prop :=
  ∀ entry, (f entry).notify = entry.notify ∧ (f entry).identity = entry.identity ∧ (f entry).state = entry.state

theorem kept_modify (other : CommandId) (keeps : Keeps f) (found : registry.get key = some entry) :
    ∃ entry', (registry.modify other f).get key = some entry' ∧ entry'.notify = entry.notify ∧
      entry'.identity = entry.identity ∧ entry'.state = entry.state := by
  rw [Registry.get_modify, found]
  split
  · exact ⟨_, rfl, keeps entry⟩
  · exact ⟨_, rfl, rfl, rfl, rfl⟩

/-- Entries that nobody needs may go. -/
theorem Inv.thin (inv : Inv sys) (thins : sys.registry.Thins registry) : Inv { sys with registry := registry } := by
  refine ⟨?_, ?_, inv.settled, inv.exact_, inv.bounded⟩
  · intro key entry found
    apply inv.entries key entry
    rcases thins key with same | ⟨gone, -⟩
    · exact same ▸ found
    · simp [gone] at found
  · intro i admission here
    apply (inv.admissions i admission here).kept (fun _ => id)
    intro busy entry found _
    rcases thins admission.key with unchanged | ⟨-, spent⟩
    · exact ⟨entry, unchanged.trans found, rfl, rfl, fun _ => rfl⟩
    · exact (inv.not_spent here busy found (spent entry found)).elim

/-- The admission with number `n` is still there; only its future may have moved. -/
def Carries (admissions admissions' : List Admission) (n : Nat) : Prop :=
  ∀ admission, admissions[n]? = some admission → ∃ admission', admissions'[n]? = some admission' ∧
    admission'.owner = admission.owner ∧ admission'.key = admission.key ∧
    admission'.identity = admission.identity ∧ admission'.owes = admission.owes

theorem carries_set (here : admissions[i]? = some admission) (n : Nat) :
    Carries admissions (admissions.set i { admission with waiting := waiting }) n := by
  intro owner at_
  rw [getElem?_set_here here]
  split
  · rename_i same
    rw [same, here] at at_
    cases at_
    exact ⟨_, rfl, rfl, rfl, rfl, rfl⟩
  · exact ⟨owner, at_, rfl, rfl, rfl, rfl⟩

theorem carries_concat (admissions : List Admission) (n : Nat) : Carries admissions (admissions ++ [admission]) n := by
  intro owner at_
  obtain ⟨inside, -⟩ := List.getElem?_eq_some_iff.mp at_
  rw [List.getElem?_append_left inside]
  exact ⟨owner, at_, rfl, rfl, rfl, rfl⟩

theorem EntryInv.carried {admissions' : List Admission} {completions' : List (NotifyId × CachedResponse)}
    (inv : EntryInv admissions completions key entry) (carries : Carries admissions admissions' entry.notify)
    (more : ∀ completion ∈ completions, completion ∈ completions')
    (same : entry' = { entry with waiters := waitersOf admissions' entry.notify }) :
    EntryInv admissions' completions' key entry' := by
  subst same
  obtain ⟨owner, at_, own, key_, identity, flight⟩ := inv.owner
  obtain ⟨owner', at_', own', key_', identity', owes'⟩ := carries owner at_
  refine ⟨⟨owner', at_', own'.trans own, key_'.trans key_, identity'.trans identity, ?_⟩, rfl, ?_, inv.numbered⟩
  · rw [owes']
    exact flight
  · intro response disposition done
    exact more _ (inv.completed response disposition done)

theorem Inv.settled_carried (inv : Inv sys) (carries : ∀ n, Carries sys.admissions admissions n) :
    ∀ notify response, (notify, response) ∈ sys.completions → ∃ admission,
      admissions[notify]? = some admission ∧ admission.owner = true ∧ admission.owes = false := by
  intro notify response completed
  obtain ⟨owner, at_, own, owes⟩ := inv.settled notify response completed
  obtain ⟨owner', at_', own', -, -, owes'⟩ := carries notify owner at_
  exact ⟨owner', at_', own'.trans own, owes'.trans owes⟩

/-- A future goes on waiting. -/
theorem Inv.stay (inv : Inv sys) (here : sys.admissions[i]? = some admission) (live : admission.live = true)
    (stays : waiting.live = true)
    (parked : waiting = .parked false → ∀ entry, sys.registry.get admission.key = some entry → entry.state = .inFlight) :
    Inv (sys.setWaiting i admission waiting) := by
  have same : ({ admission with waiting := waiting } : Admission).live = admission.live := stays.trans live.symm
  refine ⟨?_, ?_, inv.settled_carried (carries_set here), inv.exact_, ?_⟩
  · intro key entry found
    have before := inv.entries key entry found
    have count : waitersOf (sys.admissions.set i { admission with waiting := waiting }) entry.notify =
        waitersOf sys.admissions entry.notify := waitersOf_set here rfl same
    apply before.carried (carries_set here _) (fun _ => id)
    rw [count, ← before.waiters]
  · intro j admission' here'
    rw [Sys.setWaiting, getElem?_set_here here] at here'
    split at here'
    · rename_i own
      cases here'
      subst own
      obtain ⟨owner, owes, attached, -, -, -⟩ := inv.admissions j admission here
      refine ⟨owner, owes, fun _ => attached (.inl live), ?_, ?_, fun entry waits => parked waits entry⟩
      · rintro response rfl
        cases stays
      · rintro rfl
        cases stays
    · exact inv.admissions j admission' here'
  · exact Nat.le_trans (live_set_le here fun _ => live) inv.bounded

/-- A future that is over gives its place back. -/
theorem Inv.leave (inv : Inv sys) (here : sys.admissions[i]? = some admission) (live : admission.live = true)
    (ended : waiting.live = false)
    (received : ∀ response, waiting = .received response → (admission.notify, response) ∈ sys.completions)
    (found : waiting ≠ .missed) :
    Inv ({ sys with registry := sys.registry.dropWaiter admission.key }.setWaiting i admission waiting) := by
  obtain ⟨held, atKey, own, identity⟩ := (inv.admissions i admission here).attached (.inl live)
  have get_ : ∀ key, (sys.registry.dropWaiter admission.key).get key =
      if key = admission.key then (sys.registry.get key).map Entry.dropWaiter else sys.registry.get key :=
    fun _ => Registry.get_modify
  have fewer : Keeps Entry.dropWaiter := fun _ => ⟨rfl, rfl, rfl⟩
  have count : ∀ notify, waitersOf (sys.admissions.set i { admission with waiting := waiting }) notify =
      if notify = admission.notify then waitersOf sys.admissions notify - 1 else waitersOf sys.admissions notify :=
    fun _ => waitersOf_end here live ended
  refine ⟨?_, ?_, inv.settled_carried (carries_set here), inv.exact_, ?_⟩
  · intro key entry found
    rw [Sys.setWaiting, get_] at found
    split at found
    · rename_i same
      subst same
      rw [atKey] at found
      cases found
      have before := inv.entries _ held atKey
      apply before.carried (carries_set here _) (fun _ => id)
      rw [count, if_pos own, ← before.waiters]
      rfl
    · rename_i away
      have before := inv.entries key entry found
      apply before.carried (carries_set here _) (fun _ => id)
      rw [count, if_neg, ← before.waiters]
      intro same
      exact away (inv.same_key atKey found (same.trans own.symm))
  · intro j admission' here'
    rw [Sys.setWaiting, getElem?_set_here here] at here'
    split at here'
    · rename_i same
      cases here'
      subst same
      have before := inv.admissions j admission here
      refine ⟨before.owner, before.owes, ?_, received, found, ?_⟩
      · intro _
        obtain ⟨entry', found', notify, identity', -⟩ := kept_modify admission.key fewer atKey
        exact ⟨entry', found', notify.trans own, identity'.trans identity⟩
      · rintro entry rfl
        cases ended
    · apply (inv.admissions j admission' here').kept (fun _ => id)
      intro _ entry found _
      obtain ⟨entry', found', notify, identity', state⟩ := kept_modify admission.key fewer found
      exact ⟨entry', found', notify, identity', fun _ => state⟩
  · exact Nat.le_trans (live_set_le here fun _ => live) inv.bounded

/-- What a notification does to a future. -/
structure Woken (woken : Option NotifyId) (admission admission' : Admission) : Prop where
  moved : admission' = { admission with waiting := admission'.waiting }
  live : admission'.live = admission.live
  received : ∀ response, admission'.waiting = .received response → admission.waiting = .received response
  missed : admission'.waiting = .missed → admission.waiting = .missed
  parked : admission'.waiting = .parked false → admission.waiting = .parked false ∧ woken ≠ some admission.notify

theorem woken_wake (woken : Option NotifyId) (admission : Admission) :
    Woken woken admission (admission.wake woken) := by
  unfold Admission.wake
  split
  · refine ⟨rfl, ?_, ?_, ?_, ?_⟩
    · simp only [Admission.live]
      cases admission.waiting <;> rfl
    · intro response
      cases admission.waiting <;> simp [Waiting.notified]
    · cases admission.waiting <;> simp [Waiting.notified]
    · cases admission.waiting <;> simp [Waiting.notified]
  · rename_i other
    exact ⟨rfl, rfl, fun _ => id, id, fun waits => ⟨waits, other⟩⟩

theorem AdmissionInv.woken {woken : Option NotifyId} {admission' : Admission}
    (inv : AdmissionInv registry completions i admission) (moved : Woken woken admission admission') :
    AdmissionInv registry completions i admission' := by
  obtain ⟨same, live, received, missed, parked⟩ := moved
  obtain ⟨key, identity, notify, owner, owes, waiting⟩ := admission'
  cases same
  refine ⟨inv.owner, inv.owes, ?_, fun response got => inv.received response (received response got),
    fun lost => inv.found (missed lost), fun entry waits => inv.parked entry (parked waits).1⟩
  rw [live]
  exact inv.attached

theorem Inv.wake (woken : Option NotifyId) (inv : Inv sys) :
    Inv { sys with admissions := sys.admissions.map (Admission.wake woken) } := by
  have carries : ∀ n, Carries sys.admissions (sys.admissions.map (Admission.wake woken)) n := by
    intro n owner at_
    have moved := (woken_wake woken owner).moved
    rw [List.getElem?_map, at_]
    exact ⟨_, rfl, by rw [moved], by rw [moved], by rw [moved], by rw [moved]⟩
  refine ⟨?_, ?_, inv.settled_carried carries, inv.exact_, ?_⟩
  · intro key entry found
    have before := inv.entries key entry found
    apply before.carried (carries _) (fun _ => id)
    rw [waitersOf_wake, ← before.waiters]
  · intro j admission' here'
    rw [List.getElem?_map] at here'
    obtain ⟨admission, here, rfl⟩ := Option.map_eq_some_iff.mp here'
    exact (inv.admissions j admission here).woken (woken_wake woken admission)
  · show (sys.admissions.map (Admission.wake woken)).countP Admission.live ≤ handleMax
    rw [List.countP_map]
    have same : Admission.live ∘ Admission.wake woken = Admission.live :=
      funext fun admission => (woken_wake woken admission).live
    rw [same]
    exact inv.bounded

/-- The owner's task completes its entry while no future sleeps on it. -/
theorem Inv.settle {response : CachedResponse} {disposition : CacheDisposition} {held : Entry} {seq bytes : Nat}
    (inv : Inv sys) (here : sys.admissions[i]? = some admission) (owes : admission.owes = true)
    (atKey : sys.registry.get admission.key = some held)
    (awake : ∀ (j : Nat) (other : Admission), sys.admissions[j]? = some other → other.notify = i →
      other.waiting ≠ .parked false)
    (get_ : ∀ key, registry.get key = if key = admission.key then some { held with
      responseBytes := bytes
      completedSeq := some seq
      state := .complete response disposition } else sys.registry.get key) :
    Inv ⟨registry, sys.admissions.set i { admission with owes := false },
      sys.completions ++ [(admission.notify, response)]⟩ := by
  obtain ⟨held', atKey', notify, own, -⟩ := inv.owes_inFlight here owes
  cases atKey.symm.trans atKey'
  have more : ∀ completion ∈ sys.completions, completion ∈ sys.completions ++ [(admission.notify, response)] :=
    fun _ => List.mem_append_left _
  have count : ∀ n, waitersOf (sys.admissions.set i { admission with owes := false }) n =
      waitersOf sys.admissions n := fun n => waitersOf_set here rfl rfl
  have unsettled : ∀ other, (i, other) ∉ sys.completions := by
    intro other earlier
    obtain ⟨owner, at_, -, owes'⟩ := inv.settled i other earlier
    cases here.symm.trans at_
    simp [owes] at owes'
  have carries : ∀ n, n ≠ i → Carries sys.admissions (sys.admissions.set i { admission with owes := false }) n := by
    intro n away owner at_
    rw [getElem?_set_here here, if_neg away]
    exact ⟨owner, at_, rfl, rfl, rfl, rfl⟩
  have own_ : ∀ n, n = i → (sys.admissions.set i { admission with owes := false })[n]? =
      some { admission with owes := false } := by
    intro n same
    rw [getElem?_set_here here, if_pos same]
  refine ⟨?_, ?_, ?_, ?_, ?_⟩
  · intro key entry found
    rw [get_] at found
    split at found
    · rename_i same
      cases found
      have before := inv.entries _ held atKey
      obtain ⟨owner, at_, owns, -, identity, -⟩ := before.owner
      rw [notify] at at_
      cases here.symm.trans at_
      refine ⟨⟨_, own_ _ notify, owns, same.symm, identity, by simp⟩, before.waiters.trans (count _).symm, ?_, by simp⟩
      intro _ _ done
      cases done
      exact List.mem_append_right _ (by simp [notify, own])
    · rename_i away
      have before := inv.entries key entry found
      have other : entry.notify ≠ i := fun same => away (inv.same_key atKey found (same.trans notify.symm))
      apply before.carried (carries _ other) more
      rw [count, ← before.waiters]
  · intro j other here'
    have kept : ∀ entry, sys.registry.get other.key = some entry → entry.notify = other.notify →
        ∃ entry', registry.get other.key = some entry' ∧ entry'.notify = entry.notify ∧
          entry'.identity = entry.identity ∧ (other.notify ≠ i → entry'.state = entry.state) := by
      intro entry found own'
      rw [get_]
      split
      · rename_i same
        rw [same] at found
        cases atKey.symm.trans found
        exact ⟨_, rfl, rfl, rfl, fun away => absurd (own'.symm.trans notify) away⟩
      · exact ⟨entry, found, rfl, rfl, fun _ => rfl⟩
    rw [getElem?_set_here here] at here'
    split at here'
    · rename_i same
      cases here'
      subst same
      have before := inv.admissions j admission here
      refine ⟨before.owner, by simp, ?_, fun r got => more _ (before.received r got), before.found, ?_⟩
      · intro _
        obtain ⟨entry, found, same, identity⟩ := before.attached (.inr owes)
        obtain ⟨entry', found', notify', identity', -⟩ := kept entry found same
        exact ⟨entry', found', notify'.trans same, identity'.trans identity⟩
      · intro entry parked
        exact (awake j admission here own parked).elim
    · apply (inv.admissions j other here').kept more
      intro _ entry found own'
      obtain ⟨entry', found', notify', identity', state⟩ := kept entry found own'
      exact ⟨entry', found', notify', identity', fun parked => state fun same => awake j other here' same parked⟩
  · intro n other completed
    rcases List.mem_append.mp completed with earlier | last
    · obtain ⟨owner, at_, owns, owes'⟩ := inv.settled n other earlier
      have away : n ≠ i := by
        rintro rfl
        exact unsettled other earlier
      obtain ⟨owner', at_', owns', -, -, owes''⟩ := carries n away owner at_
      exact ⟨owner', at_', owns'.trans owns, owes''.trans owes'⟩
    · cases List.mem_singleton.mp last
      exact ⟨_, own_ _ own, (inv.admissions i admission here).owes owes, rfl⟩
  · intro n first second among among'
    rw [own] at among among'
    simp only [List.mem_append, List.mem_singleton, Prod.mk.injEq] at among among'
    rcases among with earlier | ⟨rfl, rfl⟩ <;> rcases among' with earlier' | ⟨same, rfl⟩
    · exact inv.exact_ n first second earlier earlier'
    · exact (unsettled first (same ▸ earlier)).elim
    · exact (unsettled second earlier').elim
    · rfl
  · exact Nat.le_trans (live_set_le here id) inv.bounded

theorem Inv.complete (response : CachedResponse) (disposition : CacheDisposition) (inv : Inv sys)
    (here : sys.admissions[i]? = some admission) (owes : admission.owes = true) :
    Inv (sys.complete i admission response disposition) := by
  obtain ⟨held, atKey, notify, own, flight⟩ := inv.owes_inFlight here owes
  obtain ⟨settled, seq, woken, thins, -, get_⟩ := Registry.complete_inFlight response disposition atKey flight
  rw [notify] at woken
  have moved := (woken_wake (some i) admission).moved
  have here' : (sys.admissions.map (Admission.wake (some i)))[i]? = some (admission.wake (some i)) := by
    rw [List.getElem?_map, here]
    rfl
  have awake : ∀ (j : Nat) (other : Admission), (sys.admissions.map (Admission.wake (some i)))[j]? = some other →
      other.notify = i → other.waiting ≠ .parked false := by
    intro j other at_ same parked
    rw [List.getElem?_map] at at_
    obtain ⟨before, -, rfl⟩ := Option.map_eq_some_iff.mp at_
    rw [(woken_wake (some i) before).moved] at same
    exact ((woken_wake (some i) before).parked parked).2 (congrArg some same.symm)
  have settledInv := (inv.wake (some i)).settle here' (by rw [moved]; exact owes)
    (by rw [moved]; exact atKey) awake (by rw [moved]; exact get_)
  have same : (admission.wake (some i)).notify = admission.notify := by rw [moved]
  have rest : ({ admission with owes := false } : Admission).wake (some i) =
      { admission.wake (some i) with owes := false } := by
    simp only [Admission.wake]
    split <;> rfl
  have thinned := settledInv.thin thins
  simp only [Sys.complete, woken, List.map_set, rest]
  rw [← same]
  exact thinned

/-- A request joins the entry of its key. -/
theorem Inv.join (inv : Inv sys) (found : sys.registry.get key = some entry)
    (room : sys.admissions.countP Admission.live < handleMax) :
    Inv { sys with
      registry := sys.registry.modify key Entry.addWaiter
      admissions := sys.admissions ++ [⟨key, entry.identity, entry.notify, false, false, .created⟩] } := by
  have get_ : ∀ other, (sys.registry.modify key Entry.addWaiter).get other =
      if other = key then (sys.registry.get other).map Entry.addWaiter else sys.registry.get other :=
    fun _ => Registry.get_modify
  have counted := inv.entries key entry found
  obtain ⟨owner, at_, owns, -⟩ := counted.owner
  obtain ⟨inside, -⟩ := List.getElem?_eq_some_iff.mp at_
  have below : entry.waiters < handleMax := by
    rw [counted.waiters]
    exact Nat.lt_of_le_of_lt (waitersOf_le _ _) room
  refine ⟨?_, ?_, inv.settled_carried (carries_concat _), inv.exact_, ?_⟩
  · intro other entry' found'
    rw [get_] at found'
    split at found'
    · rename_i same
      rw [same, found] at found'
      cases found'
      rw [same]
      apply counted.carried (carries_concat _ _) (fun _ => id)
      rw [waitersOf_concat, ← counted.waiters]
      simp [Admission.live, Waiting.live, Entry.addWaiter, saturatingAdd_one below]
    · rename_i away
      have before := inv.entries other entry' found'
      apply before.carried (carries_concat _ _) (fun _ => id)
      have apart : ¬entry.notify = entry'.notify := fun same => away (inv.same_key found found' same.symm)
      rw [waitersOf_concat, ← before.waiters]
      simp [apart]
  · intro j admission here
    have more : Keeps Entry.addWaiter := fun _ => ⟨rfl, rfl, rfl⟩
    rcases getElem?_concat_eq_some.mp here with here | ⟨rfl, rfl⟩
    · apply (inv.admissions j admission here).kept (fun _ => id)
      intro _ entry' found' _
      obtain ⟨entry'', found'', notify, identity, state⟩ := kept_modify key more found'
      exact ⟨entry'', found'', notify, identity, fun _ => state⟩
    · obtain ⟨entry'', found'', notify, identity, -⟩ := kept_modify key more found
      have older : ¬entry.notify = sys.admissions.length := Nat.ne_of_lt inside
      exact ⟨by simp [older], by simp, fun _ => ⟨entry'', found'', notify, identity⟩, by simp, by simp, by simp⟩
  · exact live_concat_le room

/-- A request takes a key that is free. -/
theorem Inv.own (inv : Inv sys) (identity : RequestIdentity) (bytes total : Nat)
    (free : sys.registry.get key = none) (room : sys.admissions.countP Admission.live < handleMax) :
    Inv { sys with
      registry := { sys.registry with
        totalBytes := total
        entries := sys.registry.entries.insert key
          { identity := identity, requestBytes := bytes, notify := sys.admissions.length } }
      admissions := sys.admissions ++ [⟨key, identity, sys.admissions.length, true, true, .created⟩] } := by
  let fresh : Entry := { identity := identity, requestBytes := bytes, notify := sys.admissions.length }
  have here_ : (sys.registry.entries.insert key fresh).lookup key = some fresh :=
    AList.lookup_insert sys.registry.entries
  have away_ : ∀ other, other ≠ key →
      (sys.registry.entries.insert key fresh).lookup other = sys.registry.get other :=
    fun other away => AList.lookup_insert_ne away
  have older : ∀ other entry, sys.registry.get other = some entry → entry.notify ≠ sys.admissions.length := by
    intro other entry found
    obtain ⟨owner, at_, -⟩ := (inv.entries other entry found).owner
    exact Nat.ne_of_lt (List.getElem?_eq_some_iff.mp at_).1
  have unused : waitersOf sys.admissions sys.admissions.length = 0 := by
    apply List.countP_eq_zero.mpr
    intro admission member counted
    obtain ⟨j, here⟩ := List.mem_iff_getElem?.mp member
    simp only [Bool.and_eq_true, beq_iff_eq] at counted
    obtain ⟨entry, found, notify, -⟩ := (inv.admissions j admission here).attached (.inl counted.1)
    exact older _ _ found (notify.trans counted.2)
  refine ⟨?_, ?_, inv.settled_carried (carries_concat _), inv.exact_, live_concat_le room⟩
  · intro other entry found
    by_cases same : other = key
    · subst same
      cases here_.symm.trans found
      refine ⟨⟨_, getElem?_concat_eq_some.mpr (.inr ⟨rfl, rfl⟩), rfl, rfl, rfl, by simp [fresh]⟩, ?_, by simp [fresh],
        by simp [fresh]⟩
      show 1 = waitersOf _ sys.admissions.length
      rw [waitersOf_concat, unused]
      simp [Admission.live, Waiting.live]
    · have found : sys.registry.get other = some entry := (away_ other same).symm.trans found
      have before := inv.entries other entry found
      have apart : ¬sys.admissions.length = entry.notify := fun back => older other entry found back.symm
      apply before.carried (carries_concat _ _) (fun _ => id)
      rw [waitersOf_concat, ← before.waiters]
      simp [apart]
  · intro j admission here
    rcases getElem?_concat_eq_some.mp here with here | ⟨rfl, rfl⟩
    · apply (inv.admissions j admission here).kept (fun _ => id)
      intro _ entry found _
      have apart : admission.key ≠ key := by
        rintro same
        rw [same, free] at found
        cases found
      exact ⟨entry, (away_ _ apart).trans found, rfl, rfl, fun _ => rfl⟩
    · exact ⟨by simp, by simp, fun _ => ⟨fresh, here_, rfl, rfl⟩, by simp, by simp, by simp⟩

theorem Inv.admitRequest {identity : RequestIdentity} {now : Nat} (inv : Inv sys)
    (stepped : sys.admitRequest key identity now = some sys') : Inv sys' := by
  unfold Sys.admitRequest at stepped
  split at stepped
  · rename_i room
    have pruned := inv.thin (Registry.thins_pruneExpired now sys.registry)
    obtain ⟨entry, -, -, refused⟩ | ⟨entry, found, rfl, joined⟩ | ⟨free, left, thins, full | owned⟩ :=
      Registry.admit_cases key identity now sys.admissions.length sys.registry
    · rw [refused] at stepped
      cases stepped
      exact pruned
    · rw [joined] at stepped
      cases stepped
      exact pruned.join found room
    · rw [full] at stepped
      cases stepped
      exact pruned.thin thins
    · rw [owned] at stepped
      cases stepped
      have free : left.get key = none := by
        rcases thins key with same | ⟨gone, -⟩
        · exact same.trans free
        · exact gone
      exact (pruned.thin thins).own identity _ _ free room
  · cases stepped

theorem Inv.look {woken : Bool} (inv : Inv sys) (here : sys.admissions[i]? = some admission)
    (armed : admission.waiting = .armed woken) : Inv (sys.look i admission woken) := by
  have live : admission.live = true := by rw [Admission.live, armed]; rfl
  obtain ⟨entry, found, notify, -⟩ := (inv.admissions i admission here).attached (.inl live)
  unfold Sys.look
  cases state : entry.state with
  | inFlight =>
      rw [Registry.takeResponse_inFlight found state]
      apply inv.stay here live rfl
      intro _ entry' found'
      cases found.symm.trans found'
      exact state
  | complete response disposition =>
      rw [Registry.takeResponse_complete found state]
      apply inv.leave here live rfl
      · intro _ same
        cases same
        rw [← notify]
        exact (inv.entries _ _ found).completed response disposition state
      · simp

theorem Inv.step (inv : Inv sys) (stepped : sys.step label = some sys') : Inv sys' := by
  cases label with
  | admitRequest key identity now => exact inv.admitRequest stepped
  | complete i response disposition =>
      obtain ⟨admission, here, stepped⟩ := Option.bind_eq_some_iff.mp stepped
      split at stepped
      · rename_i owes
        cases stepped
        exact inv.complete response disposition here owes
      · cases stepped
  | arm i =>
      obtain ⟨admission, here, stepped⟩ := Option.bind_eq_some_iff.mp stepped
      split at stepped
      · rename_i created
        cases stepped
        exact inv.stay here (by rw [Admission.live, created]; rfl) rfl (by simp)
      · cases stepped
  | look i =>
      obtain ⟨admission, here, stepped⟩ := Option.bind_eq_some_iff.mp stepped
      split at stepped
      · rename_i woken armed
        cases stepped
        exact inv.look here armed
      · cases stepped
  | resume i =>
      obtain ⟨admission, here, stepped⟩ := Option.bind_eq_some_iff.mp stepped
      split at stepped
      · rename_i parked
        cases stepped
        exact inv.stay here (by rw [Admission.live, parked]; rfl) rfl (by simp)
      · cases stepped
  | drop i =>
      obtain ⟨admission, here, stepped⟩ := Option.bind_eq_some_iff.mp stepped
      split at stepped
      · rename_i live
        cases stepped
        exact inv.leave here live rfl (by simp) (by simp)
      · cases stepped
  | releaseAuthSession sessionSeq =>
      cases Option.some.inj stepped
      exact inv.thin (Registry.thins_releaseAuthSession sessionSeq sys.registry)
  | rehash entries =>
      simp only [Sys.step] at stepped
      split at stepped
      · rename_i perm
        cases stepped
        exact inv.thin fun key => .inl (AList.perm_lookup perm)
      · cases stepped

theorem inv_reachable (reachable : system.Reachable sys) : Inv sys := by
  apply System.Reach.invariant reachable
  · intro start begins
    cases begins
    refine ⟨?_, by simp, by simp, by simp, by simp⟩
    intro key entry found
    simp [Registry.get, AList.lookup_empty] at found
  · intro before label after _ inv _ stepped
    exact inv.step stepped

/-! ## Entries that are needed stay -/

/-- The entry of a key is still that of the same owner. -/
def Retains (registry : Registry) (key : CommandId) (entry : Entry) : Prop :=
  ∃ entry', registry.get key = some entry' ∧ entry'.notify = entry.notify

theorem retains_thins (thins : before.Thins registry) (found : before.get key = some entry) (needed : ¬entry.Spent) :
    registry.get key = some entry := by
  rcases thins key with same | ⟨-, spent⟩
  · exact same.trans found
  · exact (needed (spent entry found)).elim

theorem retains_modify (keeps : Keeps f) (found : before.get key = some entry) :
    Retains (before.modify other f) key entry := by
  obtain ⟨entry', found', notify, -⟩ := kept_modify other keeps found
  exact ⟨entry', found', notify⟩

theorem retains_takeResponse (other : CommandId) (found : registry.get key = some entry) :
    Retains (registry.takeResponse other).2 key entry := by
  unfold Registry.takeResponse
  split
  · exact ⟨entry, found, rfl⟩
  · split
    · exact ⟨entry, found, rfl⟩
    · exact retains_modify (fun _ => ⟨rfl, rfl, rfl⟩) found

theorem retains_admitRequest (other : CommandId) (identity : RequestIdentity) (now : Nat) (fresh : NotifyId)
    (found : registry.get key = some entry) (needed : ¬entry.Spent) :
    Retains (registry.admitRequest other identity now fresh).2 key entry := by
  have pruned := retains_thins (Registry.thins_pruneExpired now registry) found needed
  obtain ⟨held, -, -, refused⟩ | ⟨held, -, -, joined⟩ | ⟨free, left, thins, full | owned⟩ :=
    Registry.admit_cases other identity now fresh registry
  · rw [refused]
    exact ⟨entry, pruned, rfl⟩
  · rw [joined]
    exact retains_modify (fun _ => ⟨rfl, rfl, rfl⟩) pruned
  · rw [full]
    exact ⟨entry, retains_thins thins pruned needed, rfl⟩
  · rw [owned]
    have away : key ≠ other := by
      rintro rfl
      simp [pruned] at free
    exact ⟨entry, (AList.lookup_insert_ne away).trans (retains_thins thins pruned needed), rfl⟩

theorem Inv.retains (inv : Inv sys) (stepped : sys.step label = some sys') (found : sys.registry.get key = some entry)
    (needed : ¬entry.Spent) : Retains sys'.registry key entry := by
  have same : Retains sys.registry key entry := ⟨entry, found, rfl⟩
  cases label with
  | admitRequest other identity now =>
      simp only [Sys.step, Sys.admitRequest] at stepped
      split at stepped
      · have retained := retains_admitRequest other identity now sys.admissions.length found needed
        split at stepped
        · rename_i answer
          cases stepped
          rw [answer] at retained
          exact retained
        · rename_i answer
          cases stepped
          rw [answer] at retained
          exact retained
      · cases stepped
  | complete i response disposition =>
      obtain ⟨admission, here, stepped⟩ := Option.bind_eq_some_iff.mp stepped
      split at stepped
      · rename_i owes
        cases stepped
        obtain ⟨held, atKey, -, -, flight⟩ := inv.owes_inFlight here owes
        obtain ⟨settled, seq, -, thins, spared, get_⟩ := Registry.complete_inFlight response disposition atKey flight
        by_cases own : key = admission.key
        · subst own
          cases atKey.symm.trans found
          exact ⟨_, spared.trans ((get_ _).trans (if_pos rfl)), rfl⟩
        · have kept : settled.get key = some entry := (get_ key).trans ((if_neg own).trans found)
          exact ⟨entry, retains_thins thins kept needed, rfl⟩
      · cases stepped
  | arm i | resume i =>
      obtain ⟨admission, here, stepped⟩ := Option.bind_eq_some_iff.mp stepped
      split at stepped <;> cases stepped
      exact same
  | look i =>
      obtain ⟨admission, here, stepped⟩ := Option.bind_eq_some_iff.mp stepped
      split at stepped <;> cases stepped
      have retained := retains_takeResponse admission.key found
      unfold Sys.look
      generalize sys.registry.takeResponse admission.key = taken at retained ⊢
      obtain ⟨state, registry⟩ := taken
      cases state with
      | pending | missing => exact same
      | ready response => exact retained
  | drop i =>
      obtain ⟨admission, here, stepped⟩ := Option.bind_eq_some_iff.mp stepped
      split at stepped <;> cases stepped
      exact retains_modify (fun _ => ⟨rfl, rfl, rfl⟩) found
  | releaseAuthSession sessionSeq =>
      cases Option.some.inj stepped
      exact ⟨entry, retains_thins (Registry.thins_releaseAuthSession sessionSeq sys.registry) found needed, rfl⟩
  | rehash entries =>
      simp only [Sys.step] at stepped
      split at stepped
      · rename_i perm
        cases stepped
        exact ⟨entry, (AList.perm_lookup perm).trans found, rfl⟩
      · cases stepped

end

/-! ## Exact replay -/

structure ExactReplay (sys : Sys) : Prop where
  owner : ∀ key entry, sys.registry.get key = some entry → ∃! i : Nat, ∃ admission : Admission,
    sys.admissions[i]? = some admission ∧ admission.owner = true ∧ admission.notify = entry.notify
  conflict : ∀ key entry identity now fresh, (sys.registry.pruneExpired now).get key = some entry →
    identity ≠ entry.identity → (sys.registry.admitRequest key identity now fresh).1 = .error .idempotencyConflict
  joins : ∀ key entry now fresh, (sys.registry.pruneExpired now).get key = some entry →
    (sys.registry.admitRequest key entry.identity now fresh).1 = .ok ⟨false, entry.notify⟩
  /-- What a future received is the one response that the owner of its entry completed. -/
  received : ∀ (i : Nat) admission response, sys.admissions[i]? = some admission →
    admission.waiting = .received response → ∀ response',
      (admission.notify, response') ∈ sys.completions ↔ response' = response
  /-- Once the owner has completed, a future does not sleep, and finds that response. -/
  served : ∀ (i : Nat) admission response, sys.admissions[i]? = some admission → admission.live = true →
    (admission.notify, response) ∈ sys.completions →
      admission.waiting ≠ .parked false ∧ (sys.registry.takeResponse admission.key).1 = .ready response
  found : ∀ (i : Nat) admission, sys.admissions[i]? = some admission → admission.waiting ≠ .missed
  retained : ∀ label sys' key entry, sys.step label = some sys' → sys.registry.get key = some entry →
    (entry.state = .inFlight ∨ ∃ (i : Nat) (admission : Admission), sys.admissions[i]? = some admission ∧
      admission.live = true ∧ admission.notify = entry.notify) → Retains sys'.registry key entry

theorem replay_exact {sys : Sys} (reachable : system.Reachable sys) : ExactReplay sys := by
  have inv := inv_reachable reachable
  constructor
  · intro key entry found
    obtain ⟨admission, here, owns, -⟩ := (inv.entries key entry found).owner
    refine ⟨entry.notify, ⟨admission, here, owns, (inv.admissions _ _ here).owner.mp owns⟩, ?_⟩
    rintro j ⟨other, here', owns', same⟩
    exact ((inv.admissions j other here').owner.mp owns').symm.trans same
  · intro key entry identity now fresh found other
    have other : entry.identity ≠ identity := fun same => other same.symm
    simp [Registry.admitRequest, found, other]
  · intro key entry now fresh found
    simp [Registry.admitRequest, found]
  · intro i admission response here received response'
    have own := (inv.admissions i admission here).received response received
    constructor
    · intro completed
      exact inv.exact_ _ _ _ completed own
    · rintro rfl
      exact own
  · intro i admission response here live completed
    have ready := inv.admissions i admission here
    obtain ⟨entry, found, notify, -⟩ := ready.attached (.inl live)
    have counted := inv.entries _ entry found
    have done : entry.state ≠ .inFlight := by
      intro flight
      obtain ⟨owner, at_, -, -, -, owes⟩ := counted.owner
      obtain ⟨owner', at_', -, paid⟩ := inv.settled _ _ completed
      rw [notify] at at_
      cases at_.symm.trans at_'
      simp [owes.mpr flight] at paid
    refine ⟨fun parked => done (ready.parked entry parked found), ?_⟩
    cases state : entry.state with
    | inFlight => exact (done state).elim
    | complete response' disposition =>
        have own := counted.completed response' disposition state
        rw [notify] at own
        rw [Registry.takeResponse_complete found state, inv.exact_ _ _ _ own completed]
  · intro i admission here
    exact (inv.admissions i admission here).found
  · intro label sys' key entry stepped found needed
    have counted := inv.entries key entry found
    apply inv.retains stepped found
    rintro ⟨idle, over_⟩
    rcases needed with flight | ⟨i, admission, here, live, same⟩
    · rcases over_ with done | numbered
      · exact done flight
      · exact counted.numbered numbered flight
    · have := waitersOf_pos here live
      rw [counted.waiters, ← same] at idle
      omega

def turnRequest : RequestIdentity := ⟨[80, 79, 83, 84], [47], [], 7, none⟩

def accepted : CachedResponse := ⟨202, [], [123, 125]⟩

/-- Two requests with one key: the second one sleeps until the owner completes. -/
theorem second_request_receives_first_response : ∃ sys, system.Reachable sys ∧ ExactReplay sys ∧
    (sys.admissions[1]?).map Admission.waiting = some (.received accepted) := by
  have ran : (system.run ⟨{}, [], []⟩ [.admitRequest 1 turnRequest 0, .admitRequest 1 turnRequest 0, .arm 1, .look 1,
      .complete 0 accepted .retain, .resume 1, .arm 1, .look 1]).bind (fun sys => sys.admissions[1]?.map Admission.waiting) =
      some (.received accepted) := by decide +kernel
  obtain ⟨sys, ran, received⟩ := Option.bind_eq_some_iff.mp ran
  have reachable := System.Reachable.run (.initial rfl) ran
  exact ⟨sys, reachable, replay_exact reachable, received⟩

end Codebox.ControlPlane.Replay
