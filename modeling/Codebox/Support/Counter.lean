import Mathlib.Logic.Basic

/-! # Counters of shared handles

A counter of the machine stops at the largest word instead of wrapping around. A handle that
is cloned is counted too, and the process aborts long before that count fills a word, so that
a counter of live handles never gets as far as stopping.
-/

namespace Codebox.Support

def wordMax : Nat := 18446744073709551615

def saturatingAdd (a b : Nat) : Nat := min (a + b) wordMax

/-- How many clones of one handle may exist before the next clone aborts the process. -/
def handleMax : Nat := 9223372036854775807

theorem saturatingAdd_eq {a b : Nat} (fits : a + b ≤ wordMax) : saturatingAdd a b = a + b :=
  Nat.min_eq_left fits

theorem saturatingAdd_one {count : Nat} (live : count < handleMax) : saturatingAdd count 1 = count + 1 := by
  apply saturatingAdd_eq
  have : handleMax ≤ wordMax := by decide
  omega

end Codebox.Support
