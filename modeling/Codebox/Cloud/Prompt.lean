import Codebox.Cloud.Capture

/-! # Prompts

A prompt is one argument of the provider's command. It is neither normalised nor trimmed: what is
accepted is passed on as it is.
-/

namespace Codebox.Cloud

open Codebox.Support

def maxPromptBytes : Nat := 65536

/-- The characters that Unicode lists as white space. -/
def isWhitespace (c : Char) : Bool :=
  let n := c.toNat
  n == 0x20 || (0x09 ≤ n && n ≤ 0x0D) || n == 0x85 || n == 0xA0 || n == 0x1680 || (0x2000 ≤ n && n ≤ 0x200A) ||
    n == 0x2028 || n == 0x2029 || n == 0x202F || n == 0x205F || n == 0x3000

/-- A control byte other than a line feed or a tab. -/
def refusedByte (byte : UInt8) : Bool := Utf8.isAsciiControl byte && byte != 10 && byte != 9

def CloudPrompt.tryNew (value : List Char) : Except CloudAdapterError CloudPrompt :=
  if value.isEmpty || value.all isWhitespace then .error ⟨.prompt, .empty⟩
  else if maxPromptBytes < (Utf8.encode value).length then .error ⟨.prompt, .tooLong⟩
  else if value = ['-'] then .error ⟨.prompt, .reservedValue⟩
  else if (Utf8.encode value).any refusedByte then .error ⟨.prompt, .controlCharacter⟩
  else .ok ⟨value⟩

/-- What a prompt must be. -/
structure PromptText (value : List Char) : Prop where
  visible : ∃ c ∈ value, isWhitespace c = false
  bounded : (Utf8.encode value).length ≤ maxPromptBytes
  free : value ≠ ['-']
  plain : ∀ byte ∈ Utf8.encode value, refusedByte byte = false

variable {value : List Char}

theorem tryNew_eq_ok_iff {prompt : CloudPrompt} :
    CloudPrompt.tryNew value = .ok prompt ↔ PromptText value ∧ prompt = ⟨value⟩ := by
  unfold CloudPrompt.tryNew
  constructor
  · intro accepted
    split_ifs at accepted with blank long reserved control
    cases accepted
    refine ⟨⟨?_, Nat.not_lt.mp long, reserved, ?_⟩, rfl⟩
    · simp only [Bool.or_eq_true, not_or, List.all_eq_true, not_forall, exists_prop, Bool.not_eq_true] at blank
      exact blank.2
    · simpa only [List.any_eq_true, not_exists, not_and, Bool.not_eq_true] using control
  · rintro ⟨⟨⟨c, mem, visible⟩, bounded, free, plain⟩, rfl⟩
    have shown : ¬ (value.isEmpty || value.all isWhitespace) = true := by
      simp only [Bool.or_eq_true, List.isEmpty_iff, List.all_eq_true, not_or]
      constructor
      · rintro rfl
        cases mem
      · intro blank
        rw [blank c mem] at visible
        cases visible
    have clean : ¬ (Utf8.encode value).any refusedByte = true := by
      simpa only [List.any_eq_true, not_exists, not_and, Bool.not_eq_true] using plain
    rw [if_neg shown, if_neg (Nat.not_lt.mpr bounded), if_neg free, if_neg clean]

/-- The control bytes of a text are its control characters. -/
theorem refusedByte_encode (plain : ∀ c ∈ value, 0x20 ≤ c.toNat ∧ c.toNat ≠ 0x7F ∨ c.toNat = 9 ∨ c.toNat = 10) :
    ∀ byte ∈ Utf8.encode value, refusedByte byte = false := by
  intro byte mem
  obtain ⟨c, inside, here⟩ := List.mem_flatMap.mp mem
  by_cases ascii : c.toNat < 128
  · rw [Utf8.utf8EncodeChar_ascii ascii, List.mem_singleton] at here
    subst here
    have same := Utf8.toNat_asciiByte ascii
    have kept := plain c inside
    have ten : Utf8.asciiByte c = 10 ↔ c.toNat = 10 := by
      rw [← same, ← UInt8.toNat_inj]
      rfl
    have nine : Utf8.asciiByte c = 9 ↔ c.toNat = 9 := by
      rw [← same, ← UInt8.toNat_inj]
      rfl
    simp only [refusedByte, Bool.and_eq_false_iff, Utf8.isAsciiControl_eq_false, same, bne_eq_false_iff_eq, ten, nine]
    omega
  · have wide := Utf8.le_of_mem_utf8EncodeChar (Nat.le_of_not_lt ascii) here
    have visible : Utf8.isAsciiControl byte = false := Utf8.isAsciiControl_eq_false.mpr (by omega)
    simp [refusedByte, visible]

end Codebox.Cloud
