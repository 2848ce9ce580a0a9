import Codebox.Support.Proc
import Mathlib.Logic.Function.Basic

/-! # Replacing a file through a temporary one

A directory maps names to contents. A file is replaced by creating a temporary file that must not
exist yet, writing and syncing it, and renaming it over the final name. Any step may report an
error or be the last of the process; a write may have come part of the way.
-/

namespace Codebox.Support

variable {ν β : Type} [DecidableEq ν]

abbrev Directory (ν β : Type) := ν → Option (List β)

inductive FileStep where
  | create | chmod | metadata | ownership | write | sync | rename | syncDirectory | remove
  deriving Repr, DecidableEq

/-- What goes wrong at a step. An error leaves a step undone, but for the bytes of a write that
were written; a crash comes before the step (`crash 0`), or after it; within a write, after some
bytes. -/
inductive Fault where
  | none
  | error (written : Nat)
  | crash (progress : Nat)
  deriving Repr, DecidableEq

abbrev Faults := FileStep → Fault

def noFaults : Faults := fun _ => .none

inductive FileError where
  | unavailable
  | invalid
  deriving Repr, DecidableEq

/-- The step took place. -/
def Fault.done : Fault → Bool
  | none => true
  | error _ => false
  | crash progress => decide (0 < progress)

/-- The call came back from the step with an error. -/
def Fault.reported : Fault → Bool
  | error _ => true
  | none | crash _ => false

/-- Only a file that is not fit for its use is called invalid. -/
def FileStep.failure : FileStep → FileError
  | ownership => .invalid
  | create | chmod | metadata | write | sync | rename | syncDirectory | remove => .unavailable

namespace Directory

variable (faults : Faults)

def atStep (step : FileStep) (effect : Directory ν β → Directory ν β) :
    Proc (Directory ν β) FileError Unit :=
  fun files =>
    match faults step with
    | .none => (.ok (), effect files)
    | .error _ => (.error step.failure, files)
    | .crash 0 => (.crashed, files)
    | .crash (_ + 1) => (.crashed, effect files)

def put (name : ν) (content : Option (List β)) (files : Directory ν β) : Directory ν β :=
  Function.update files name content

def createNew (name : ν) : Proc (Directory ν β) FileError Unit := do
  if ((← Proc.get) name).isSome then Proc.fail .unavailable
  else atStep faults .create (put name (some []))

def writeAll (name : ν) (bytes : List β) : Proc (Directory ν β) FileError Unit := fun files =>
  match faults .write with
  | .none => (.ok (), put name (some bytes) files)
  | .error written => (.error .unavailable, put name (some (bytes.take written)) files)
  | .crash written => (.crashed, put name (some (bytes.take written)) files)

def rename (source target : ν) : Proc (Directory ν β) FileError Unit :=
  atStep faults .rename fun files => put source none (put target (files source) files)

def removeFile (name : ν) : Proc (Directory ν β) FileError Unit := do
  if ((← Proc.get) name).isSome then atStep faults .remove (put name none)
  else Proc.fail .unavailable

def replace (temporary final : ν) (bytes : List β) : Proc (Directory ν β) FileError Unit := do
  createNew faults temporary
  atStep faults .chmod id
  atStep faults .metadata id
  atStep faults .ownership id
  writeAll faults temporary bytes
  atStep faults .sync id
  rename faults temporary final
  atStep faults .syncDirectory id

/-- A replacement that removes its temporary file when it reports an error. -/
def replaceOrClean (temporary final : ν) (bytes : List β) : Proc (Directory ν β) FileError Unit := do
  match ← (replace faults temporary final bytes).attempt with
  | .ok () => return ()
  | .error error => do
      let _ ← ((removeFile faults temporary).attempt :
        Proc (Directory ν β) FileError (Except FileError Unit))
      Proc.fail error

end Directory

/-! ## Where a replacement ends -/

/-- The steps up to the rename, in order. -/
def FileStep.untilRename : List FileStep := [create, chmod, metadata, ownership, write, sync, rename]

/-- The first of them at which something goes wrong. -/
def Faults.first (faults : Faults) : Option FileStep :=
  FileStep.untilRename.find? fun step => faults step ≠ .none

/-- The temporary file was created and not yet renamed when the first fault struck. -/
def Faults.strands (faults : Faults) : Bool :=
  match faults.first with
  | none => false
  | some .create => (faults .create).done
  | some .rename => !(faults .rename).done
  | some _ => true

/-- The first fault was reported, and the temporary file removed. -/
def Faults.cleans (faults : Faults) : Bool :=
  faults.first.any (fun step => (faults step).reported) && (faults .remove).done

/-- The process does not survive the step. -/
def Fault.fatal : Fault → Bool
  | crash _ => true
  | none | error _ => false

/-- How a replacement ends: in the new content, the directory synced or not; in an error, with the old
content; or with the process, after the rename or before it. -/
inductive Ending where
  | stored
  | unsynced
  | failed (error : FileError)
  | died (renamed : Bool)
  deriving Repr, DecidableEq

def Ending.outcome : Ending → Outcome FileError Unit
  | stored => .ok ()
  | unsynced => .error .unavailable
  | failed error => .error error
  | died _ => .crashed

def Ending.renamed : Ending → Bool
  | stored | unsynced => true
  | failed _ => false
  | died renamed => renamed

/-- The ending that the faults decide, where the temporary file can be created. -/
def Faults.ending (faults : Faults) : Ending :=
  match faults.first with
  | some step =>
      if (faults step).reported then .failed step.failure
      else .died (decide (step = .rename) && (faults step).done)
  | none =>
      match faults .syncDirectory with
      | .none => .stored
      | .error _ => .unsynced
      | .crash _ => .died true

/-- What the first fault leaves of the temporary file. -/
def Faults.residue {β : Type} (faults : Faults) (bytes : List β) : Option (List β) :=
  if faults.strands then
    match faults.first, faults .write with
    | some .write, .error written | some .write, .crash written => some (bytes.take written)
    | some .sync, _ | some .rename, _ => some bytes
    | _, _ => some []
  else none

@[simp] theorem Faults.residue_isSome {β : Type} (faults : Faults) (bytes : List β) :
    (faults.residue bytes).isSome = faults.strands := by
  unfold residue
  cases faults.strands with
  | false => rfl
  | true => rw [if_pos rfl]; split <;> rfl

namespace Directory

variable {faults : Faults} {temporary final : ν} {bytes part : List β} {files : Directory ν β}

/-- The ending of a replacement in a directory. -/
def ending (faults : Faults) (temporary : ν) (files : Directory ν β) : Ending :=
  if (files temporary).isSome then .failed .unavailable else faults.ending

/-- The process may also die while it cleans up. -/
def endingOrClean (faults : Faults) (temporary : ν) (files : Directory ν β) : Ending :=
  match ending faults temporary files with
  | .failed error =>
      if ((files temporary).isSome || faults.strands) && (faults .remove).fatal then .died false else .failed error
  | ended => ended

@[simp] theorem put_same (name : ν) (content : Option (List β)) : put name content files name = content :=
  Function.update_self ..

theorem put_other {name other : ν} (content : Option (List β)) (apart : other ≠ name) :
    put name content files other = files other :=
  Function.update_of_ne apart ..

theorem put_put (first second : Option (List β)) :
    put temporary second (put temporary first files) = put temporary second files :=
  Function.update_idem ..

theorem put_comm {name other : ν} {content content' : Option (List β)} (apart : name ≠ other) :
    put name content (put other content' files) = put other content' (put name content files) :=
  Function.update_comm apart.symm ..

/-- The rename takes the temporary file away with whatever was in it before. -/
theorem put_renamed (apart : temporary ≠ final) :
    put temporary none (put final (some bytes) (put temporary (some bytes) files)) =
      put temporary none (put final (some bytes) files) := by
  rw [put_comm apart, put_put, put_comm apart]

theorem put_absent (absent : files temporary = none) : put temporary none files = files :=
  absent ▸ Function.update_eq_self ..

/-- Where the faults lead: what is returned, the temporary file and the final one. -/
def result (faults : Faults) (temporary final : ν) (bytes : List β) (files : Directory ν β) :
    Outcome FileError Unit × Directory ν β :=
  (faults.ending.outcome, put temporary (faults.residue bytes)
    (if faults.ending.renamed then put final (some bytes) files else files))

/-- Cut before the rename. -/
theorem result_cut {step : FileStep} (first : faults.first = some step) (early : step ≠ .rename) :
    result faults temporary final bytes files =
      (if (faults step).reported then .error step.failure else .crashed,
        put temporary (faults.residue bytes) files) := by
  have ended : faults.ending = if (faults step).reported then .failed step.failure else .died false := by
    simp only [Faults.ending, first, early, decide_false, Bool.false_and]
  rw [result, ended]
  split <;> rfl

/-- A step between the creation and the write, or the sync: it is the first that goes wrong, or the
replacement goes on. -/
theorem between_eq (step : FileStep) {rest : Unit → Proc (Directory ν β) FileError Unit}
    (clear : faults step ≠ .none → faults.first = some step) (early : step ≠ .rename)
    (left : faults.first = some step → faults.residue bytes = some part)
    (through : faults step = .none →
      rest () (put temporary (some part) files) = result faults temporary final bytes files) :
    (atStep faults step id >>= rest) (put temporary (some part) files) =
      result faults temporary final bytes files := by
  cases struck : faults step with
  | none => simpa [Bind.bind, Proc.bind, atStep, struck] using through struck
  | error written =>
      have first := clear (by simp [struck])
      simp [Bind.bind, Proc.bind, atStep, struck, result_cut first early, left first, Fault.reported]
  | crash progress =>
      have first := clear (by simp [struck])
      cases progress <;>
        simp [Bind.bind, Proc.bind, atStep, struck, result_cut first early, left first, Fault.reported]

/-- The rename and the sync of the directory, once the temporary file holds all bytes. -/
theorem finish_eq (clear : faults .rename ≠ .none → faults.first = some .rename)
    (fine : faults .rename = .none → faults.first = none) (apart : temporary ≠ final) :
    (do rename faults temporary final; atStep faults .syncDirectory id) (put temporary (some bytes) files) =
      result faults temporary final bytes files := by
  cases struck : faults .rename with
  | none =>
      have first := fine struck
      cases synced : faults .syncDirectory with
      | crash progress =>
          cases progress <;> simp [Bind.bind, Proc.bind, rename, atStep, struck, synced, result, Faults.ending,
            Faults.residue, Faults.strands, first, put_renamed apart, Ending.outcome, Ending.renamed]
      | none | error written =>
          simp [Bind.bind, Proc.bind, rename, atStep, struck, synced, result, Faults.ending, Faults.residue,
            Faults.strands, first, put_renamed apart, FileStep.failure, Ending.outcome, Ending.renamed]
  | error written =>
      have first := clear (by simp [struck])
      simp [Bind.bind, Proc.bind, rename, atStep, struck, result, Faults.ending, Faults.residue, Faults.strands,
        first, Fault.reported, Fault.done, Ending.outcome, Ending.renamed]
  | crash progress =>
      have first := clear (by simp [struck])
      cases progress <;> simp [Bind.bind, Proc.bind, rename, atStep, struck, result, Faults.ending, Faults.residue,
        Faults.strands, first, Fault.reported, Fault.done, Ending.outcome, Ending.renamed, put_renamed apart]

/-- The write and all that follows it, the temporary file being new and empty. -/
theorem write_eq (fine : ∀ step ∈ [FileStep.create, .chmod, .metadata, .ownership], faults step = .none)
    (apart : temporary ≠ final) :
    (do
      writeAll faults temporary bytes
      atStep faults .sync id
      rename faults temporary final
      atStep faults .syncDirectory id) (put temporary (some []) files) =
      result faults temporary final bytes files := by
  simp only [List.forall_mem_cons] at fine
  obtain ⟨created, chmod, metadata, ownership, -⟩ := fine
  cases struck : faults .write with
  | none =>
      have first : faults.first = [FileStep.sync, .rename].find? fun step => faults step ≠ .none := by
        simp [Faults.first, FileStep.untilRename, created, chmod, metadata, ownership, struck]
      have written : writeAll faults temporary bytes (put temporary (some []) files) =
          (.ok (), put temporary (some bytes) files) := by simp [writeAll, struck, put_put]
      simp only [Bind.bind, Proc.bind, written]
      apply between_eq .sync (by simp +contextual [first]) (by decide)
        (fun first => by simp [Faults.residue, Faults.strands, first])
      intro synced
      exact finish_eq (by simp +contextual [first, synced]) (by simp +contextual [first, synced]) apart
  | error written | crash written =>
      have first : faults.first = some .write := by
        simp [Faults.first, FileStep.untilRename, created, chmod, metadata, ownership, struck]
      simp [Bind.bind, Proc.bind, writeAll, struck, result_cut first, Faults.residue, Faults.strands, first,
        FileStep.failure, Fault.reported, put_put]

/-- A replacement whose temporary file is not there. -/
theorem replace_eq (absent : files temporary = none) (apart : temporary ≠ final) :
    replace faults temporary final bytes files = result faults temporary final bytes files := by
  cases struck : faults .create with
  | none =>
      have created : createNew faults temporary files = (.ok (), put temporary (some []) files) := by
        simp [createNew, Bind.bind, Proc.bind, Proc.get, absent, atStep, struck]
      have empty : ∀ step ∈ [FileStep.chmod, .metadata, .ownership], faults.first = some step →
          faults.residue bytes = some [] := by
        simp +contextual [Faults.residue, Faults.strands]
      have begun : replace faults temporary final bytes files = (do
          atStep faults .chmod id
          atStep faults .metadata id
          atStep faults .ownership id
          writeAll faults temporary bytes
          atStep faults .sync id
          rename faults temporary final
          atStep faults .syncDirectory id) (put temporary (some []) files) := by
        simp only [replace, Bind.bind, Proc.bind, created]
      rw [begun]
      refine between_eq .chmod (fun step => ?_) (by decide) (empty _ (by simp)) fun chmod => ?_
      · simp [Faults.first, FileStep.untilRename, struck, step]
      refine between_eq .metadata (fun step => ?_) (by decide) (empty _ (by simp)) fun metadata => ?_
      · simp [Faults.first, FileStep.untilRename, struck, chmod, step]
      refine between_eq .ownership (fun step => ?_) (by decide) (empty _ (by simp)) fun ownership => ?_
      · simp [Faults.first, FileStep.untilRename, struck, chmod, metadata, step]
      exact write_eq (by simp [struck, chmod, metadata, ownership]) apart
  | error written =>
      have first : faults.first = some .create := by simp [Faults.first, FileStep.untilRename, struck]
      simp [replace, createNew, Bind.bind, Proc.bind, Proc.get, absent, atStep, struck, result_cut first,
        Faults.residue, Faults.strands, first, Fault.reported, Fault.done, put_absent absent]
  | crash progress =>
      have first : faults.first = some .create := by simp [Faults.first, FileStep.untilRename, struck]
      cases progress <;> simp [replace, createNew, Bind.bind, Proc.bind, Proc.get, absent, atStep, struck,
        result_cut first, Faults.residue, Faults.strands, first, Fault.reported, Fault.done, put_absent absent]

/-- What a replacement leaves: the final file has its old content or all of the new one, as it ended,
and no other file is touched. -/
structure Replaced (ended : Ending) (temporary final : ν) (bytes : List β) (before after : Directory ν β) :
    Prop where
  others : ∀ name, name ≠ temporary → name ≠ final → after name = before name
  final : after final = if ended.renamed then some bytes else before final

/-- Whatever is done to the temporary file. -/
theorem replaced_put (ended : Ending) (content : Option (List β)) (apart : temporary ≠ final) :
    Replaced ended temporary final bytes files
      (put temporary content (if ended.renamed then put final (some bytes) files else files)) := by
  refine ⟨fun name other other' => ?_, ?_⟩
  · rw [put_other _ other]
    split
    · exact put_other _ other'
    · rfl
  · rw [put_other _ apart.symm]
    split
    · exact put_same ..
    · rfl

/-- A temporary file that is still there blocks a replacement, whatever else works. -/
theorem replace_blocked (blocked : (files temporary).isSome = true) :
    replace faults temporary final bytes files = (.error .unavailable, files) := by
  simp [replace, createNew, Bind.bind, Proc.bind, Proc.get, blocked, Proc.fail]

theorem replace_spec (faults : Faults) (bytes : List β) (files : Directory ν β) (apart : temporary ≠ final) :
    (replace faults temporary final bytes files).1 = (ending faults temporary files).outcome ∧
      Replaced (ending faults temporary files) temporary final bytes files
        (replace faults temporary final bytes files).2 := by
  unfold ending
  split
  · rename_i blocked
    rw [replace_blocked blocked]
    exact ⟨rfl, fun _ _ _ => rfl, rfl⟩
  · rename_i free
    rw [replace_eq (Option.not_isSome_iff_eq_none.mp free) apart]
    exact ⟨rfl, replaced_put _ _ apart⟩

/-- Afterwards there is a temporary file exactly if there was one, or the faults strand it. -/
theorem replace_leaves (faults : Faults) (bytes : List β) (files : Directory ν β) (apart : temporary ≠ final) :
    ((replace faults temporary final bytes files).2 temporary).isSome =
      ((files temporary).isSome || faults.strands) := by
  cases blocked : (files temporary).isSome with
  | true => rw [replace_blocked blocked, blocked, Bool.true_or]
  | false =>
      rw [replace_eq (by simpa using blocked) apart]
      simp [result]

omit [DecidableEq ν] in
/-- A directory that is not synced has no temporary file. -/
theorem unsynced_leaves (ended : ending faults temporary files = .unsynced) :
    ((files temporary).isSome || faults.strands) = false := by
  unfold ending at ended
  split at ended
  · cases ended
  · rename_i free
    have first : faults.first = none := by
      unfold Faults.ending at ended
      split at ended
      · split at ended <;> cases ended
      · assumption
    simp [free, Faults.strands, first]

/-- Only an error is followed by the removal. Where there is no temporary file, nothing is removed. -/
theorem replaceOrClean_eq : replaceOrClean faults temporary final bytes files =
    match replace faults temporary final bytes files with
    | (.error error, after) =>
        (if (after temporary).isSome && (faults .remove).fatal then .crashed else .error error,
          if (faults .remove).done then put temporary none after else after)
    | ended => ended := by
  rcases ran : replace faults temporary final bytes files with ⟨_ | error | _, after⟩
  · simp [replaceOrClean, Bind.bind, Proc.bind, Proc.attempt, ran, Pure.pure, Proc.pure]
  · cases left : after temporary with
    | none =>
        simp [replaceOrClean, Bind.bind, Proc.bind, Proc.attempt, ran, removeFile, Proc.get, left, Proc.fail,
          put_absent left]
    | some content =>
        cases struck : faults .remove with
        | crash progress =>
            cases progress <;> simp [replaceOrClean, Bind.bind, Proc.bind, Proc.attempt, ran, removeFile, Proc.get,
              left, atStep, struck, Fault.fatal, Fault.done]
        | none | error written =>
            simp [replaceOrClean, Bind.bind, Proc.bind, Proc.attempt, ran, removeFile, Proc.get, left, atStep,
              struck, Proc.fail, Fault.fatal, Fault.done]
  · simp [replaceOrClean, Bind.bind, Proc.bind, Proc.attempt, ran]

theorem Replaced.remove {ended : Ending} {after : Directory ν β} (apart : temporary ≠ final)
    (replaced : Replaced ended temporary final bytes files after) (content : Option (List β)) :
    Replaced ended temporary final bytes files (put temporary content after) :=
  ⟨fun name other other' => (put_other _ other).trans (replaced.others name other other'),
    (put_other _ apart.symm).trans replaced.final⟩

theorem replaceOrClean_spec (faults : Faults) (bytes : List β) (files : Directory ν β) (apart : temporary ≠ final) :
    (replaceOrClean faults temporary final bytes files).1 = (endingOrClean faults temporary files).outcome ∧
      Replaced (endingOrClean faults temporary files) temporary final bytes files
        (replaceOrClean faults temporary final bytes files).2 := by
  obtain ⟨outcome, replaced⟩ := replace_spec faults bytes files apart
  have left := replace_leaves faults bytes files apart
  rw [replaceOrClean_eq, endingOrClean]
  generalize replace faults temporary final bytes files = ran at outcome replaced left ⊢
  obtain ⟨returned, after⟩ := ran
  have removed (ended : Ending) (same : ended.renamed = (ending faults temporary files).renamed) :
      Replaced ended temporary final bytes files
        (if (faults .remove).done then put temporary none after else after) := by
    have kept : Replaced ended temporary final bytes files after :=
      ⟨replaced.others, by rw [same]; exact replaced.final⟩
    split
    · exact kept.remove apart none
    · exact kept
  cases ended : ending faults temporary files with
  | stored | died =>
      rw [ended] at outcome replaced
      subst outcome
      exact ⟨rfl, replaced⟩
  | unsynced =>
      rw [unsynced_leaves ended] at left
      rw [ended] at outcome removed
      subst outcome
      exact ⟨by simp [left, Ending.outcome], removed _ rfl⟩
  | failed error =>
      rw [ended] at outcome removed
      subst outcome
      simp only [Ending.outcome, left]
      split
      · exact ⟨rfl, removed _ rfl⟩
      · exact ⟨rfl, removed _ rfl⟩

/-- Cleaning up leaves the temporary file of a crash, and of an error if its removal fails. -/
theorem replaceOrClean_leaves (faults : Faults) (bytes : List β) (absent : files temporary = none)
    (apart : temporary ≠ final) :
    ((replaceOrClean faults temporary final bytes files).2 temporary).isSome =
      (faults.strands && !faults.cleans) := by
  obtain ⟨outcome, -⟩ := replace_spec faults bytes files apart
  have left := replace_leaves faults bytes files apart
  rw [absent] at left
  have free : ending faults temporary files = faults.ending := by simp [ending, absent]
  rw [replaceOrClean_eq]
  generalize replace faults temporary final bytes files = ran at outcome left ⊢
  obtain ⟨returned, after⟩ := ran
  cases first : faults.first with
  | none =>
      have unstranded : faults.strands = false := by simp [Faults.strands, first]
      have gone : after temporary = none := by simpa [unstranded] using left
      cases returned with
      | ok | crashed => simp [gone, unstranded]
      | error error => cases (faults .remove).done <;> simp [gone, unstranded]
  | some step =>
      cases told : (faults step).reported with
      | false =>
          have died : returned = .crashed := by
            simpa [free, Faults.ending, first, told, Ending.outcome] using outcome
          simpa [died, Faults.cleans, first, told] using left
      | true =>
          have failed : returned = .error step.failure := by
            simpa [free, Faults.ending, first, told, Ending.outcome] using outcome
          cases removed : (faults .remove).done with
          | true => simp [failed, Faults.cleans, first, told, removed]
          | false => simpa [failed, Faults.cleans, first, told, removed] using left

end Directory

end Codebox.Support
