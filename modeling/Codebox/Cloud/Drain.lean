import Codebox.Cloud.Capture

/-! # Draining a stream of a command

A thread reads each stream of a command to its end and pushes what every read gives into a bounded
buffer. The buffer keeps the front of the stream and a mark that there was more, so that a capture
that passes the checks is all the command printed, however the pipe cut it into reads.
-/

namespace Codebox.Cloud

structure BoundedCapture where
  bytes : List UInt8
  overflow : Bool
  limit : Nat
  deriving Repr, DecidableEq

namespace BoundedCapture

def withLimit (limit : Nat) : BoundedCapture where
  bytes := []
  overflow := false
  limit := limit

def push (capture : BoundedCapture) (bytes : List UInt8) : BoundedCapture :=
  let remaining := capture.limit - capture.bytes.length
  { capture with
    bytes := capture.bytes ++ bytes.take (min bytes.length remaining)
    overflow := if remaining < bytes.length then true else capture.overflow }

/-- The buffer after a stream was pushed into it. -/
structure Holds (limit : Nat) (stream : List UInt8) (capture : BoundedCapture) : Prop where
  limited : capture.limit = limit
  kept : capture.bytes = stream.take limit
  marked : capture.overflow = true ↔ limit < stream.length

variable {limit : Nat} {stream : List UInt8} {capture : BoundedCapture}

theorem holds_withLimit (limit : Nat) : (withLimit limit).Holds limit [] where
  limited := rfl
  kept := List.take_nil.symm
  marked := by simp [withLimit]

theorem Holds.push (holds : capture.Holds limit stream) (chunk : List UInt8) :
    (capture.push chunk).Holds limit (stream ++ chunk) := by
  have length : capture.bytes.length = min limit stream.length := by
    rw [holds.kept, List.length_take]
  constructor
  case limited => exact holds.limited
  case kept =>
    simp only [BoundedCapture.push, holds.limited, length]
    rw [holds.kept, List.take_append]
    congr 1
    apply List.take_eq_take_iff.mpr
    omega
  case marked =>
    simp only [BoundedCapture.push, holds.limited, length, List.length_append]
    split
    · simp only [true_iff]
      omega
    · -- the chunk fits: a mark can only come from the stream before it
      rw [holds.marked]
      omega

theorem Holds.pushes (holds : capture.Holds limit stream) (chunks : List (List UInt8)) :
    (chunks.foldl BoundedCapture.push capture).Holds limit (stream ++ chunks.flatten) := by
  induction chunks generalizing capture stream with
  | nil => simpa using holds
  | cons chunk chunks ih =>
      rw [List.foldl_cons, List.flatten_cons, ← List.append_assoc]
      exact ih (holds.push chunk)

theorem Holds.whole (holds : capture.Holds limit stream) (unmarked : capture.overflow = false) :
    capture.bytes = stream := by
  have short : ¬ limit < stream.length := by
    intro long
    exact Bool.false_ne_true (unmarked.symm.trans (holds.marked.mpr long))
  rw [holds.kept, List.take_of_length_le (Nat.le_of_not_lt short)]

/-- The front of the stream and the mark do not depend on where the stream was cut. -/
theorem capture_chunk_invariant (limit : Nat) (chunks : List (List UInt8)) :
    (chunks.foldl BoundedCapture.push (withLimit limit)).bytes =
        chunks.flatten.take (min limit chunks.flatten.length) ∧
      ((chunks.foldl BoundedCapture.push (withLimit limit)).overflow = true ↔
        limit < chunks.flatten.length) := by
  have holds := (holds_withLimit limit).pushes chunks
  rw [List.nil_append] at holds
  constructor
  · rw [holds.kept]
    apply List.take_eq_take_iff.mpr
    omega
  · exact holds.marked

example : [[1, 2], [], [3, 4], [5]].foldl push (withLimit 3) = ⟨[1, 2, 3], true, 3⟩ := by decide

end BoundedCapture

/-! ## The two threads of a command -/

section

variable {ε : Type}

/-- What the reads of a stream answer in turn; past the last one, the stream is at its end. -/
abbrev Reads (ε : Type) := List (Except ε (List UInt8))

def drainStream : Reads ε → BoundedCapture → Except ε Unit × BoundedCapture
  | [], capture => (.ok (), capture)
  | .error failure :: _, capture => (.error failure, capture)
  | .ok read :: stream, capture =>
      if read.length = 0 then (.ok (), capture) else drainStream stream (capture.push read)

/-- All the stream gives up to its end. -/
def drained : Reads ε → List UInt8
  | [] | .error _ :: _ => []
  | .ok read :: stream => if read.length = 0 then [] else read ++ drained stream

def finishCapture (status : Except ε (Option Int)) (stdout stderr : Except ε Unit × BoundedCapture) :
    Except ε CloudCapture := do
  let exitCode ← status
  stdout.1
  stderr.1
  pure {
    stdout := stdout.2.bytes
    stderr := stderr.2.bytes
    stdoutOverflow := stdout.2.overflow
    stderrOverflow := stderr.2.overflow
    exitCode }

theorem drainStream_holds {limit : Nat} {before : List UInt8} {capture : BoundedCapture}
    (stream : Reads ε) (holds : capture.Holds limit before) :
    (drainStream stream capture).2.Holds limit (before ++ drained stream) := by
  fun_induction drainStream stream capture generalizing before with
  | case1 capture => simpa [drained] using holds
  | case2 failure stream capture => simpa [drained] using holds
  | case3 read stream capture ended => simpa [drained, ended] using holds
  | case4 read stream capture more ih =>
      rw [drained, if_neg more, ← List.append_assoc]
      exact ih (holds.push read)

/-- A capture that passes the checks is the whole output of its command. -/
theorem whole_of_validateCapture {status : Except ε (Option Int)} {stdout stderr : Reads ε}
    {stdoutLimit stderrLimit maxStdoutBytes : Nat} {capture : CloudCapture}
    (finished : finishCapture status (drainStream stdout (.withLimit stdoutLimit))
      (drainStream stderr (.withLimit stderrLimit)) = .ok capture)
    (valid : validateCapture capture maxStdoutBytes = .ok ()) :
    capture.stdout = drained stdout ∧ drained stderr = [] := by
  obtain ⟨exitCode, clean⟩ := validateCapture_ok_iff.mp valid
  have out := drainStream_holds stdout (BoundedCapture.holds_withLimit stdoutLimit)
  have err := drainStream_holds stderr (BoundedCapture.holds_withLimit stderrLimit)
  rw [List.nil_append] at out err
  unfold finishCapture at finished
  cases status with
  | error => cases finished
  | ok exited =>
      cases outcome : (drainStream stdout (.withLimit stdoutLimit)).1 with
      | error => rw [outcome] at finished; cases finished
      | ok =>
          cases outcome' : (drainStream stderr (.withLimit stderrLimit)).1 with
          | error => rw [outcome, outcome'] at finished; cases finished
          | ok =>
              rw [outcome, outcome'] at finished
              cases finished
              exact ⟨out.whole clean.stdoutWhole, (err.whole clean.stderrWhole).symm.trans clean.silent⟩

theorem two_reads_whole : [1, 2] = drained (ε := Unit) [.ok [1], .ok [2]] ∧ drained (ε := Unit) [] = [] := by
  have finished : finishCapture (ε := Unit) (.ok (some 0)) (drainStream [.ok [1], .ok [2]] (.withLimit 2))
      (drainStream [] (.withLimit 2)) = .ok ⟨[1, 2], [], false, false, some 0⟩ := rfl
  exact whole_of_validateCapture finished (show validateCapture _ 2 = .ok () by decide)

end

end Codebox.Cloud
