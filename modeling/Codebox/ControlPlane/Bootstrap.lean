import Mathlib.Data.Nat.Bitwise
import Codebox.ControlPlane.Cookie
import Codebox.Support.Utf8

/-! # The bootstrap secret

The administrator sets one secret that the operator exchanges for a session. It is kept in a buffer
of one size, zeros behind it, and every candidate is brought to that size before it is compared: cut
off if it is longer, filled up with zeros if it is shorter. The lengths are compared apart from the
bytes, so that neither the cut nor the zeros make two secrets the same.
-/

namespace Codebox.ControlPlane

open Codebox.Support

def minBootstrapBytes : Nat := 32

def maxBootstrapBytes : Nat := 128

inductive P0HttpConfigField where
  | publicOrigin | bootstrapToken | sessionLifetime
  deriving Repr, DecidableEq

structure P0HttpConfigError where
  field : P0HttpConfigField
  deriving Repr, DecidableEq

/-- The front of some bytes in a buffer of zeros. -/
def padded (value : Bytes) : Bytes :=
  let copied := min value.length maxBootstrapBytes
  value.take copied ++ List.replicate (maxBootstrapBytes - copied) 0

theorem length_padded (value : Bytes) : (padded value).length = maxBootstrapBytes := by
  simp only [padded, List.length_append, List.length_take, List.length_replicate]
  omega

theorem padded_inj {left right : Bytes} (same : left.length = right.length)
    (short : left.length ≤ maxBootstrapBytes) : padded left = padded right ↔ left = right := by
  constructor
  · intro equal
    simp only [padded, ← same, Nat.min_eq_left short] at equal
    obtain ⟨front, -⟩ := List.append_inj equal (by simp [same])
    rwa [List.take_length, same, List.take_length] at front
  · intro equal
    rw [equal]

structure OperatorBootstrapToken where
  bytes : Bytes
  len : Nat
  length_bytes : bytes.length = maxBootstrapBytes
  deriving Repr, DecidableEq

namespace OperatorBootstrapToken

def tryNew (value : Bytes) : Except P0HttpConfigError OperatorBootstrapToken :=
  if ¬ (minBootstrapBytes ≤ value.length ∧ value.length ≤ maxBootstrapBytes) ∨ value.any Utf8.isAsciiControl then
    .error ⟨.bootstrapToken⟩
  else .ok ⟨padded value, value.length, length_padded value⟩

/-- Whether the candidate is the secret, and how many bytes were compared. The accumulator is wider
than a byte and takes the difference of the lengths whole. -/
def compare (token : OperatorBootstrapToken) (candidate : Option Bytes) : Bool × Nat :=
  let candidate := candidate.getD []
  let (difference, compared) := (token.bytes.zip (padded candidate)).foldl
    (fun (difference, compared) (expected, actual) => (difference ||| (expected ^^^ actual).toNat, compared + 1))
    (candidate.length ^^^ token.len, 0)
  (difference == 0, compared)

def «matches» (token : OperatorBootstrapToken) (candidate : Option Bytes) : Bool := (token.compare candidate).1

theorem wideDifference_eq_zero (difference : Nat) (expected actual : UInt8) :
    difference ||| (expected ^^^ actual).toNat = 0 ↔ difference = 0 ∧ expected = actual := by
  rw [Nat.or_eq_zero_iff, ← UInt8.xor_eq_zero_iff, ← UInt8.toNat_inj, UInt8.toNat_zero]

variable {token : OperatorBootstrapToken} {value : Bytes}

theorem tryNew_eq_ok (made : tryNew value = .ok token) :
    minBootstrapBytes ≤ value.length ∧ value.length ≤ maxBootstrapBytes ∧ token.len = value.length ∧
      token.bytes = padded value := by
  unfold tryNew at made
  split at made
  · cases made
  · rename_i valid
    cases made
    obtain ⟨bounds, -⟩ := not_or.mp valid
    exact ⟨(not_not.mp bounds).1, (not_not.mp bounds).2, rfl, rfl⟩

theorem compare_work (token : OperatorBootstrapToken) (candidate : Option Bytes) :
    (token.compare candidate).2 = maxBootstrapBytes := by
  have same := token.length_bytes.trans (length_padded (candidate.getD [])).symm
  unfold compare
  simp only []
  rw [compared_foldl_zip (fun difference expected actual => difference ||| (expected ^^^ actual).toNat) same,
    Nat.zero_add, token.length_bytes]

theorem matches_iff (made : tryNew value = .ok token) (candidate : Option Bytes) :
    token.matches candidate = true ↔ candidate = some value := by
  obtain ⟨long, short, len, bytes⟩ := tryNew_eq_ok made
  have same := token.length_bytes.trans (length_padded (candidate.getD [])).symm
  unfold «matches» compare
  simp only [beq_iff_eq]
  rw [clear_foldl_zip (· = 0) wideDifference_eq_zero same, Nat.xor_eq_zero_iff, len, bytes]
  constructor
  · rintro ⟨lengths, front⟩
    have equal := (padded_inj lengths.symm short).mp front
    cases candidate with
    | none =>
        -- no candidate is compared as an empty one, and the secret is not empty
        subst equal
        cases long
    | some bytes => exact congrArg some equal.symm
  · intro equal
    subst equal
    exact ⟨rfl, rfl⟩

end OperatorBootstrapToken

/-- Both comparisons of secrets decide equality, and both compare the same number of bytes whatever
they are given. -/
theorem secret_comparison_constant_work :
    (∀ (value : Bytes) (token : OperatorBootstrapToken), OperatorBootstrapToken.tryNew value = .ok token →
      ∀ candidate : Option Bytes, (token.matches candidate = true ↔ candidate = some value) ∧
        (token.compare candidate).2 = maxBootstrapBytes) ∧
    ∀ left right : Token, (Token.fixedTokenEq left right = true ↔ left.bytes = right.bytes) ∧
      (Token.fixedTokenCompare left right).2 = cookieTokenBytes := by
  constructor
  · intro value token made candidate
    exact ⟨OperatorBootstrapToken.matches_iff made candidate, token.compare_work candidate⟩
  · intro left right
    have same := left.length_bytes.trans right.length_bytes.symm
    constructor
    · rw [Token.fixedTokenEq_iff, Token.mk.injEq]
    · unfold Token.fixedTokenCompare
      simp only []
      rw [compared_foldl_zip (fun difference left right => difference ||| (left ^^^ right)) same, Nat.zero_add,
        left.length_bytes]

/-- A secret of the least length is accepted, matches itself and does not match itself with a zero
behind it. -/
theorem least_secret_matches :
    ∃ token, OperatorBootstrapToken.tryNew (List.replicate 32 97) = .ok token ∧
      token.matches (some (List.replicate 32 97)) = true ∧
      ¬ token.matches (some (List.replicate 32 97 ++ [0])) = true := by
  obtain ⟨token, made⟩ : ∃ token, OperatorBootstrapToken.tryNew (List.replicate 32 97) = .ok token := ⟨_, rfl⟩
  have compares := secret_comparison_constant_work.1 _ token made
  refine ⟨token, made, (compares _).1.mpr rfl, ?_⟩
  intro accepted
  have same := (compares _).1.mp accepted
  simp at same

end Codebox.ControlPlane
