import Codebox.Cloud.Identity
import Codebox.Support.Utf8

/-! # What a command of the provider printed

The bytes a finished command left on its two streams and the code it exited with, and the checks
that come before any decoding of them. An error names the field at which the contract failed and how
it failed, and never the value.
-/

namespace Codebox.Cloud

open Codebox.Support

inductive CloudField where
  | environment | branch | prompt | taskId | taskUrl | cursor | status | title | updatedAt
  | environmentId | environmentLabel | filesChanged | linesAdded | linesRemoved | attempts | list
  | diff | stdout | stderr | exitStatus | version
  deriving Repr, DecidableEq

inductive CloudErrorCategory where
  | empty | tooLong | controlCharacter | leadingHyphen | reservedValue | invalidFormat | invalidUtf8
  | overflow | missing | unexpected | duplicate | limitExceeded | providerDrift
  deriving Repr, DecidableEq

structure CloudAdapterError where
  field : CloudField
  category : CloudErrorCategory
  deriving Repr, DecidableEq

def providerDrift (field : CloudField) : CloudAdapterError := ⟨field, .providerDrift⟩

structure CloudCapture where
  stdout : List UInt8 := []
  stderr : List UInt8 := []
  stdoutOverflow : Bool := false
  stderrOverflow : Bool := false
  exitCode : Option Int := none
  deriving Repr, DecidableEq

def maxStandardCaptureBytes : Nat := 64 * 1024

def validateCapture (capture : CloudCapture) (maxStdoutBytes : Nat) :
    Except CloudAdapterError Unit :=
  if capture.stdoutOverflow then .error ⟨.stdout, .overflow⟩
  else if capture.stderrOverflow then .error ⟨.stderr, .overflow⟩
  else if maxStdoutBytes < capture.stdout.length then .error ⟨.stdout, .tooLong⟩
  else if maxStandardCaptureBytes < capture.stderr.length then .error ⟨.stderr, .tooLong⟩
  else if capture.exitCode.isNone then .error ⟨.exitStatus, .missing⟩
  else if !capture.stderr.isEmpty then .error ⟨.stderr, .unexpected⟩
  else .ok ()

def validateStandardCapture (capture : CloudCapture) : Except CloudAdapterError Unit :=
  validateCapture capture maxStandardCaptureBytes

def captureStdout (capture : CloudCapture) : Except CloudAdapterError (List Char) :=
  match Utf8.decode capture.stdout with
  | some text => .ok text
  | none => .error ⟨.stdout, .invalidUtf8⟩

/-- The capture of a command that ran to its end within the bounds and printed no error. -/
structure CloudCapture.Clean (capture : CloudCapture) (maxStdoutBytes : Nat) (exitCode : Int) :
    Prop where
  stdoutWhole : capture.stdoutOverflow = false
  stderrWhole : capture.stderrOverflow = false
  bounded : capture.stdout.length ≤ maxStdoutBytes
  silent : capture.stderr = []
  exited : capture.exitCode = some exitCode

variable {capture : CloudCapture}

theorem validateCapture_ok_iff {maxStdoutBytes : Nat} :
    validateCapture capture maxStdoutBytes = .ok () ↔
      ∃ exitCode, capture.Clean maxStdoutBytes exitCode := by
  constructor
  · intro valid
    simp only [validateCapture] at valid
    split_ifs at valid with stdoutOverflow stderrOverflow long _ missing loud
    have exits : capture.exitCode ≠ none := by
      intro none
      exact missing (by rw [none]; rfl)
    obtain ⟨exitCode, exited⟩ := Option.ne_none_iff_exists'.mp exits
    exact ⟨exitCode, by simpa using stdoutOverflow, by simpa using stderrOverflow,
      Nat.le_of_not_lt long, by simpa using loud, exited⟩
  · rintro ⟨exitCode, clean⟩
    simp [validateCapture, clean.stdoutWhole, clean.stderrWhole, Nat.not_lt_of_le clean.bounded,
      clean.silent, clean.exited]

theorem captureStdout_ok_iff {text : List Char} :
    captureStdout capture = .ok text ↔ Utf8.encode text = capture.stdout := by
  rw [← Utf8.decode_eq_some_iff, captureStdout]
  cases Utf8.decode capture.stdout with
  | none => simp
  | some found => simp

end Codebox.Cloud
