import Codebox.ControlPlane.Accounting
import Codebox.Support.Transition

/-! # The storage of the registry in every run

The operations of the registry come in any order, `clear` among them. A waiter may outlive the entry
it waits for, and then gives up a place in a later entry of the same key: an entry never counts more
waiters than it has, but it may count fewer.
-/

namespace Codebox.ControlPlane.Accounting

open Codebox.Support

structure Waiter where
  key : CommandId
  notify : NotifyId
  deriving Repr, DecidableEq

structure Sys where
  registry : Registry := {}
  /-- The waiters that are still there. -/
  waiters : List Waiter := []
  /-- How many `Notify` were allocated. -/
  allocated : NotifyId := 0
  /-- How often `complete` was called. -/
  completions : Nat := 0

inductive Label where
  | admitRequest (key : CommandId) (identity : RequestIdentity) (now : Nat)
  | complete (key : CommandId) (response : CachedResponse) (disposition : CacheDisposition)
  /-- A waiter looks for its response. -/
  | look (waiter : Nat)
  | drop (waiter : Nat)
  | releaseAuthSession (sessionSeq : Nat)
  | clear
  /-- The map takes another order. -/
  | rehash (entries : AList fun _ : CommandId => Entry)

namespace Sys

def admitRequest (sys : Sys) (key : CommandId) (identity : RequestIdentity) (now : Nat) : Sys :=
  match sys.registry.admitRequest key identity now sys.allocated with
  | (.error _, registry) => { sys with registry := registry }
  | (.ok ⟨_, notify⟩, registry) => { sys with
      registry := registry
      waiters := sys.waiters ++ [⟨key, notify⟩]
      allocated := sys.allocated + 1 }

def look (sys : Sys) (i : Nat) (waiter : Waiter) : Sys :=
  match sys.registry.takeResponse waiter.key with
  | (.pending, _) => sys
  | (.ready _, registry) => { sys with registry := registry, waiters := sys.waiters.eraseIdx i }
  | (.missing, registry) => { sys with registry := registry, waiters := sys.waiters.eraseIdx i }

def step (sys : Sys) : Label → Option Sys
  | .admitRequest key identity now => some (sys.admitRequest key identity now)
  | .complete key response disposition => some { sys with
      registry := (sys.registry.complete key response disposition).2
      completions := sys.completions + 1 }
  | .look i => sys.waiters[i]?.map fun waiter => sys.look i waiter
  | .drop i => sys.waiters[i]?.map fun waiter => { sys with
      registry := sys.registry.dropWaiter waiter.key
      waiters := sys.waiters.eraseIdx i }
  | .releaseAuthSession sessionSeq =>
      some { sys with registry := sys.registry.releaseAuthSession sessionSeq }
  | .clear => some { sys with registry := {} }
  | .rehash entries =>
      if entries.entries.Perm sys.registry.entries.entries then
        some { sys with registry := { sys.registry with entries := entries } }
      else none

/-- The bytes with a response stay below the largest word, and the completions below its number of
values. -/
def Fits (sys : Sys) : Label → Prop
  | .complete _ response _ =>
      sys.registry.storedBytes + response.storageBytes ≤ wordMax ∧ sys.completions < wordMax
  | _ => True

instance (sys : Sys) : DecidablePred sys.Fits
  | .complete _ _ _ => inferInstanceAs (Decidable (_ ∧ _))
  | .admitRequest _ _ _ | .look _ | .drop _ | .releaseAuthSession _ | .clear | .rehash _ => .isTrue trivial

end Sys

def system : System Sys Label where
  initial sys := sys = {}
  step := Sys.step

/-! ## The waiters of an entry -/

/-- No entry counts more waiters than it has. -/
def Attended (waiters : List Waiter) (registry : Registry) : Prop :=
  ∀ key entry, registry.get key = some entry → entry.waiters ≤ waiters.count ⟨key, entry.notify⟩

variable {disposition : CacheDisposition} {response : CachedResponse}

section

variable {waiters : List Waiter} {waiter : Waiter} {registry registry' : Registry} {i : Nat}
  {key : CommandId} {entry : Entry}

theorem count_eraseIdx (here : waiters[i]? = some waiter) (other : Waiter) :
    waiters.count other = (waiters.eraseIdx i).count other + if waiter = other then 1 else 0 := by
  obtain ⟨inside, rfl⟩ := List.getElem?_eq_some_iff.mp here
  rw [← (List.getElem_cons_eraseIdx_perm inside).count_eq, List.count_cons]
  simp

section

variable (attended : Attended waiters registry)

include attended

theorem Attended.thin (fewer : ∀ key entry, registry'.get key = some entry → registry.get key = some entry) :
    Attended waiters registry' :=
  fun key entry found => attended key entry (fewer key entry found)

theorem Attended.join (found : registry.get key = some entry) :
    Attended (waiters ++ [⟨key, entry.notify⟩]) (registry.modify key Entry.addWaiter) := by
  intro other entry' found'
  rw [Registry.get_modify] at found'
  rw [List.count_append]
  split at found'
  · rename_i same
    subst same
    rw [found] at found'
    obtain rfl := Option.some.inj found'
    have before := attended other entry found
    have added : (Entry.addWaiter entry).waiters ≤ entry.waiters + 1 := Nat.min_le_left _ _
    simp only [Entry.addWaiter, List.count_singleton_self] at added ⊢
    omega
  · exact Nat.le_trans (attended other entry' found') (Nat.le_add_right _ _)

theorem Attended.enter {identity : RequestIdentity} {fresh : NotifyId} :
    Attended (waiters ++ [⟨key, fresh⟩]) (registry.withEntry key identity fresh) := by
  intro other entry' found'
  rw [Registry.get_withEntry] at found'
  rw [List.count_append]
  split at found'
  · rename_i same
    subst same
    obtain rfl := Option.some.inj found'
    simp
  · exact Nat.le_trans (attended other entry' found') (Nat.le_add_right _ _)

/-- A waiter that leaves gives up its place in the entry that has its key now. -/
theorem Attended.leave (here : waiters[i]? = some waiter) :
    Attended (waiters.eraseIdx i) (registry.dropWaiter waiter.key) := by
  intro other entry' found'
  rw [Registry.dropWaiter, Registry.get_modify] at found'
  split at found'
  · rename_i same
    subst same
    obtain ⟨entry, found, rfl⟩ := Option.map_eq_some_iff.mp found'
    have before := attended _ entry found
    have counted := count_eraseIdx here ⟨waiter.key, entry.notify⟩
    simp only [Entry.dropWaiter]
    split at counted <;> omega
  · rename_i away
    have counted := count_eraseIdx here ⟨other, entry'.notify⟩
    rw [if_neg (fun same => away (congrArg Waiter.key same).symm)] at counted
    have before := attended other entry' found'
    omega

/-- A waiter whose entry is gone leaves without a trace. -/
theorem Attended.miss (here : waiters[i]? = some waiter) (gone : registry.get waiter.key = none) :
    Attended (waiters.eraseIdx i) registry := by
  intro other entry' found'
  have away : waiter ≠ ⟨other, entry'.notify⟩ := by
    rintro rfl
    rw [gone] at found'
    cases found'
  have counted := count_eraseIdx here ⟨other, entry'.notify⟩
  rw [if_neg away] at counted
  have before := attended other entry' found'
  omega

theorem Attended.settle : Attended waiters (registry.settle key response disposition) := by
  by_cases flight : ∃ entry, registry.get key = some entry ∧ entry.state = .inFlight
  · obtain ⟨entry, found, flight⟩ := flight
    rw [Registry.settle_inFlight found flight]
    intro other entry' found'
    by_cases same : other = key
    · subst same
      obtain rfl := Option.some.inj ((AList.lookup_insert registry.entries).symm.trans found')
      exact attended other entry found
    · exact attended other entry' ((AList.lookup_insert_ne same).symm.trans found')
  · rw [Registry.settle_other fun entry found same => flight ⟨entry, found, same⟩]
    exact attended

end

end

/-! ## Runs -/

structure Inv (sys : Sys) : Prop where
  books : sys.registry.Books
  counted : sys.registry.completionSeq ≤ sys.completions
  attended : Attended sys.waiters sys.registry

variable {sys sys' : Sys}

theorem Inv.admitRequest (inv : Inv sys) (key : CommandId) (identity : RequestIdentity) (now : Nat) :
    Inv (sys.admitRequest key identity now) := by
  have pruned : (sys.registry.pruneExpired now).Books := inv.books.removeAll _
  have attended : Attended sys.waiters (sys.registry.pruneExpired now) :=
    inv.attended.thin fun _ _ => Registry.get_of_get_removeAll
  have admits := @Registry.admits_admitRequest sys.registry key identity sys.allocated now pruned
  have books := admits.books pruned
  have counted : (sys.registry.admitRequest key identity now sys.allocated).2.completionSeq
      ≤ sys.completions := by
    rw [admits.completionSeq, Registry.pruneExpired, Registry.completionSeq_removeAll]
    exact inv.counted
  unfold Sys.admitRequest
  generalize sys.registry.admitRequest key identity now sys.allocated = result at admits books counted
  cases admits with
  | conflict => exact ⟨books, counted, attended⟩
  | joined found => exact ⟨books, counted, attended.join found⟩
  | refused evicts _ => exact ⟨books, counted, attended.thin fun _ _ => evicts.get⟩
  | entered evicts _ _ =>
    exact ⟨books, counted, (attended.thin fun _ _ => evicts.get).enter⟩

theorem Inv.complete (inv : Inv sys) {key : CommandId} (fits : sys.Fits (.complete key response disposition)) :
    Inv { sys with
      registry := (sys.registry.complete key response disposition).2
      completions := sys.completions + 1 } := by
  obtain ⟨room, few⟩ := fits
  rw [← inv.books.total] at room
  have counts : sys.registry.completionSeq < wordMax := Nat.lt_of_le_of_lt inv.counted few
  obtain ⟨books, ⟨keys, evicts⟩, -⟩ := @Registry.complete_books sys.registry key response disposition
    inv.books room counts
  refine ⟨books, ?_, inv.attended.settle.thin fun _ _ => evicts.get⟩
  have seq : (sys.registry.settle key response disposition).completionSeq
      = saturatingAdd sys.registry.completionSeq 1 := by
    unfold Registry.settle
    split <;> rfl
  have counted := inv.counted
  show (sys.registry.complete key response disposition).2.completionSeq ≤ sys.completions + 1
  rw [evicts.completionSeq, seq, saturatingAdd_eq counts]
  omega

theorem Inv.look (inv : Inv sys) {i : Nat} {waiter : Waiter} (here : sys.waiters[i]? = some waiter) :
    Inv (sys.look i waiter) := by
  have books := inv.books.takeResponse waiter.key
  have seq : (sys.registry.takeResponse waiter.key).2.completionSeq = sys.registry.completionSeq := by
    unfold Registry.takeResponse
    split
    · rfl
    · split
      · rfl
      · exact Registry.completionSeq_modify
  have counted := inv.counted
  rw [← seq] at counted
  unfold Sys.look
  cases found : sys.registry.get waiter.key with
  | none =>
    have missing : sys.registry.takeResponse waiter.key = (.missing, sys.registry) := by
      simp [Registry.takeResponse, found]
    rw [missing]
    exact ⟨inv.books, inv.counted, inv.attended.miss here found⟩
  | some entry =>
    cases state : entry.state with
    | inFlight =>
      rw [Registry.takeResponse_inFlight found state]
      exact inv
    | complete response disposition =>
      rw [Registry.takeResponse_complete found state] at books counted ⊢
      exact ⟨books, counted, inv.attended.leave here⟩

theorem inv_step {label : Label} (inv : Inv sys) (fits : sys.Fits label)
    (stepped : sys.step label = some sys') : Inv sys' := by
  cases label with
  | admitRequest key identity now =>
    obtain rfl := Option.some.inj stepped
    exact inv.admitRequest key identity now
  | complete key response disposition =>
    obtain rfl := Option.some.inj stepped
    exact inv.complete fits
  | look i =>
    obtain ⟨waiter, here, rfl⟩ := Option.map_eq_some_iff.mp stepped
    exact inv.look here
  | drop i =>
    obtain ⟨waiter, here, rfl⟩ := Option.map_eq_some_iff.mp stepped
    refine ⟨inv.books.dropWaiter _, ?_, inv.attended.leave here⟩
    rw [Registry.dropWaiter, Registry.completionSeq_modify]
    exact inv.counted
  | releaseAuthSession sessionSeq =>
    obtain rfl := Option.some.inj stepped
    exact ⟨inv.books.removeAll _, (Registry.completionSeq_removeAll _).symm ▸ inv.counted,
      inv.attended.thin fun _ _ => Registry.get_of_get_removeAll⟩
  | clear =>
    obtain rfl := Option.some.inj stepped
    exact ⟨Registry.books_empty, Nat.zero_le _, fun _ _ found => by cases found⟩
  | rehash entries =>
    simp only [Sys.step, Option.ite_none_right_eq_some, Option.some.injEq] at stepped
    obtain ⟨same, rfl⟩ := stepped
    have lookup : ∀ key, entries.lookup key = sys.registry.entries.lookup key :=
      fun key => AList.perm_lookup same
    refine ⟨inv.books.thin rfl (fun key entry found => (lookup key).symm.trans found) ?_,
      inv.counted, inv.attended.thin fun key entry found => (lookup key).symm.trans found⟩
    exact inv.books.total.trans (weight_perm Entry.bytes same).symm

theorem inv_reach (reach : system.Reach Sys.Fits sys) : Inv sys := by
  apply reach.invariant
  · rintro _ rfl
    exact ⟨Registry.books_empty, Nat.zero_le _, fun _ _ found => by cases found⟩
  · intro before label after _ inv fits stepped
    exact inv_step inv fits stepped

/-- What the registry keeps to, and what its next operation does. -/
structure Accounted (sys : Sys) : Prop where
  /-- The count of bytes is the sum over the retained entries. -/
  total : sys.registry.totalBytes = sys.registry.storedBytes
  /-- After an owner is let in the registry is within its bounds. -/
  admitted : ∀ key identity now notify,
    (sys.registry.admitRequest key identity now sys.allocated).1 = .ok ⟨true, notify⟩ →
    (sys.registry.admitRequest key identity now sys.allocated).2.entries.keys.length ≤ maxEntries ∧
    (sys.registry.admitRequest key identity now sys.allocated).2.totalBytes ≤ maxStorageBytes
  /-- After a completion it is within the bound of bytes, or every other completed entry has a waiter
  that is still there. -/
  completed : ∀ key response disposition, sys.Fits (.complete key response disposition) →
    (sys.registry.complete key response disposition).2.totalBytes ≤ maxStorageBytes ∨
    ∀ other entry, other ≠ key →
      (sys.registry.complete key response disposition).2.get other = some entry →
      entry.state ≠ .inFlight → ⟨other, entry.notify⟩ ∈ sys.waiters
  /-- A completion removes in the order of completion. -/
  evicts : ∀ key response disposition, sys.Fits (.complete key response disposition) →
    ∃ keys, Registry.Evicts (some key) (sys.registry.settle key response disposition) keys
      (sys.registry.complete key response disposition).2
  /-- Making room ends after as many removals as there are entries at most, removes in the order of
  completion, and fails only when no completed entry without waiters is left. -/
  makesRoom : ∀ now requestBytes, ∃ keys,
    keys.length ≤ (sys.registry.pruneExpired now).entries.keys.length ∧
    Registry.Evicts none (sys.registry.pruneExpired now) keys
      ((sys.registry.pruneExpired now).makeCapacity requestBytes).2 ∧
    ∀ error, ((sys.registry.pruneExpired now).makeCapacity requestBytes).1 = .error error →
      ∀ key entry, ((sys.registry.pruneExpired now).makeCapacity requestBytes).2.get key = some entry →
        entry.state ≠ .inFlight → entry.waiters ≠ 0

/-- The registry keeps its books in every run of its operations. -/
theorem accounted_reach (reach : system.Reach Sys.Fits sys) : Accounted sys := by
  have inv := inv_reach reach
  constructor
  · exact inv.books.total
  · intro key identity now notify owner
    have pruned : (sys.registry.pruneExpired now).Books := inv.books.removeAll _
    exact (Registry.admits_admitRequest pruned).bounds owner
  · intro key response disposition fits
    have after := inv.complete fits
    obtain ⟨room, few⟩ := fits
    rw [← inv.books.total] at room
    obtain ⟨-, -, within | stuck⟩ := @Registry.complete_books sys.registry key response disposition
      inv.books room (Nat.lt_of_le_of_lt inv.counted few)
    · exact .inl within
    · right
      intro other entry away found done
      have some := (after.books.numbered other entry found).mpr done
      have busy : entry.waiters ≠ 0 := fun idle =>
        stuck other entry ⟨found, fun same => away (Option.some.inj same).symm, some, idle⟩
      have counted : entry.waiters ≤ sys.waiters.count ⟨other, entry.notify⟩ :=
        after.attended other entry found
      apply List.count_pos_iff.mp
      omega
  · intro key response disposition fits
    obtain ⟨room, few⟩ := fits
    rw [← inv.books.total] at room
    exact (Registry.complete_books inv.books room (Nat.lt_of_le_of_lt inv.counted few)).2.1
  · intro now requestBytes
    have pruned : (sys.registry.pruneExpired now).Books := inv.books.removeAll _
    obtain ⟨keys, few, evicts, ended⟩ := Registry.makeCapacity_cases pruned requestBytes
    refine ⟨keys, few, evicts, ?_⟩
    intro error failed key entry found done idle
    obtain ⟨made, -⟩ | ⟨-, stuck⟩ := ended
    · rw [made] at failed
      cases failed
    · have some := ((evicts.books pruned).numbered key entry found).mpr done
      exact stuck key entry ⟨found, by simp, some, idle⟩

def sampleRequest : RequestIdentity where
  method := []
  route := []
  body := []
  instanceId := 1
  logoutSessionSeq := none

/-- A request is answered, and then as many are let in as the registry holds. -/
def overfilling : List Label :=
  [.admitRequest 0 sampleRequest 0, .complete 0 ⟨200, [], []⟩ .retain, .look 0] ++
    (List.range maxEntries).map fun i => .admitRequest (i + 1) sampleRequest 0

/-- The last of them takes the place of the one that was answered. -/
theorem accounted_evicting :
    ∃ sys, system.Reach Sys.Fits sys ∧ sys.completions = 1 ∧ sys.registry.entries.keys.length = maxEntries ∧
      sys.registry.get 0 = none ∧ sys.registry.totalBytes = 64 * maxEntries ∧ Accounted sys := by
  have found : (system.runIf (fun sys label => decide (sys.Fits label)) {} overfilling).map (fun sys =>
      (sys.completions, sys.registry.entries.keys.length, sys.registry.get 0, sys.registry.totalBytes)) =
      some (1, maxEntries, none, 64 * maxEntries) := by decide +kernel
  obtain ⟨sys, ran, seen⟩ := Option.map_eq_some_iff.mp found
  simp only [Prod.mk.injEq] at seen
  obtain ⟨completions, full, gone, total⟩ := seen
  have reach : system.Reach Sys.Fits sys := .runIf (.initial rfl) (fun _ _ => of_decide_eq_true) ran
  exact ⟨sys, reach, completions, full, gone, total, accounted_reach reach⟩

end Codebox.ControlPlane.Accounting
