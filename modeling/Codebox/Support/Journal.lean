import Mathlib.Data.List.Pairwise
import Mathlib.Order.Defs.Unbundled

/-! # A file that is replaced as a whole

Every replacement of the file is a record that belongs to some key. `Forward` says that the records
written so far, oldest first, only ever grow among those of one key, and that the record in the
file is not behind any of its own key. It is enough to look at the file to write the next record
of the key in it; a record of another key needs a key that was never written.
-/

namespace Codebox.Support

variable {ρ κ : Type} {key : ρ → κ} {le : ρ → ρ → Prop} {written : List ρ} {file : Option ρ}
  {current next : ρ}

structure Forward (key : ρ → κ) (le : ρ → ρ → Prop) (written : List ρ) (file : Option ρ) : Prop where
  ordered : written.Pairwise fun earlier later => key earlier = key later → le earlier later
  reached : ∀ earlier ∈ written, ∀ held, file = some held → key earlier = key held → le earlier held

namespace Forward

theorem empty : Forward key le [] none :=
  ⟨.nil, by simp⟩

/-- The next record is ahead of every one of its key, so it may be written. -/
theorem concat [Std.Refl le] (forward : Forward key le written file)
    (ahead : ∀ earlier ∈ written, key earlier = key next → le earlier next) :
    Forward key le (written ++ [next]) (some next) where
  ordered := by
    apply List.pairwise_append.mpr
    refine ⟨forward.ordered, List.pairwise_singleton _ _, ?_⟩
    intro earlier inside later last
    rw [List.mem_singleton.mp last]
    exact ahead earlier inside
  reached := by
    intro earlier inside held same
    cases same
    rcases List.mem_append.mp inside with before | last
    · exact ahead earlier before
    · intro _
      rw [List.mem_singleton.mp last]
      exact Std.Refl.refl next

/-- A record of the key that is in the file. -/
theorem replace [Std.Refl le] [IsTrans ρ le] (forward : Forward key le written file)
    (found : file = some current) (same : key next = key current) (grown : le current next) :
    Forward key le (written ++ [next]) (some next) := by
  apply forward.concat
  intro earlier inside own
  exact IsTrans.trans _ _ _ (forward.reached earlier inside current found (own.trans same)) grown

/-- A record of a key that has none. -/
theorem begin [Std.Refl le] (forward : Forward key le written file)
    (unused : ∀ earlier ∈ written, key earlier ≠ key next) :
    Forward key le (written ++ [next]) (some next) := by
  apply forward.concat
  intro earlier inside own
  exact absurd own (unused earlier inside)

end Forward

end Codebox.Support
