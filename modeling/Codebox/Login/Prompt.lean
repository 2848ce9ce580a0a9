import Codebox.Login.Parser

/-! # Reading the prompt while it arrives

The supervisor parses what the login command has printed so far, again after every chunk. A stream
that is accepted in the end is read well at every cut, except inside a CRLF: the part that ends in
the CR is refused for good. And the prompt is sliced at the offsets of the code in the pinned text,
which an arbitrary text of the same length may have inside a character.
-/

namespace Codebox.Login

open Codebox.Support.Utf8 (isAsciiControl)

/-! ## Colour sequences -/

variable {text rest value normalized : List UInt8} {mode : AnsiMode} {code : VerificationCode}

theorem stripAnsi_map {byte : UInt8} (stripped : (stripAnsi .text rest).map (byte :: ·) = .ok text) :
    ∃ text', stripAnsi .text rest = .ok text' ∧ text = byte :: text' := by
  cases kept : stripAnsi .text rest with
  | error error =>
      rw [kept] at stripped
      cases stripped
  | ok text' =>
      rw [kept] at stripped
      cases stripped
      exact ⟨text', rfl, rfl⟩

/-- A stream that is stripped as a whole is stripped up to any cut, and from there on in the mode that
the cut is in. -/
theorem stripAnsi_cut {part : List UInt8} (stripped : stripAnsi mode (part ++ rest) = .ok text) :
    ∃ before mode' after, stripAnsi mode' rest = .ok after ∧ text = before ++ after ∧
      ∀ rest', stripAnsi mode (part ++ rest') = (stripAnsi mode' rest').map (before ++ ·) := by
  induction part generalizing mode text with
  | nil =>
      refine ⟨[], mode, text, stripped, rfl, fun rest' => ?_⟩
      cases kept : stripAnsi mode rest' <;> simp [kept, Except.map]
  | cons byte part ih =>
      cases mode with
      | text =>
          simp only [List.cons_append, stripAnsi] at stripped ⊢
          split at stripped
          · next escape => simpa only [if_pos escape] using ih stripped
          · next plain =>
              obtain ⟨text', kept, rfl⟩ := stripAnsi_map stripped
              obtain ⟨before, mode', after, tail, rfl, same⟩ := ih kept
              refine ⟨byte :: before, mode', after, tail, rfl, fun rest' => ?_⟩
              rw [if_neg plain, same]
              cases stripAnsi mode' rest' <;> rfl
      | escape =>
          simp only [List.cons_append, stripAnsi] at stripped ⊢
          split at stripped
          · next bracket => simpa only [if_pos bracket] using ih stripped
          · cases stripped
      | parameters =>
          simp only [List.cons_append, stripAnsi] at stripped ⊢
          split at stripped
          · next parameter => simpa only [if_pos parameter] using ih stripped
          · next other =>
              simp only [if_neg other]
              split at stripped
              · next final => simpa only [if_pos final] using ih stripped
              · cases stripped

/-- The cut is in the text, or inside a sequence. -/
theorem stripAnsi_append {part : List UInt8} (stripped : stripAnsi mode (part ++ rest) = .ok text) :
    (∃ before after, stripAnsi mode part = .ok before ∧ text = before ++ after) ∨
      stripAnsi mode part = .error .incomplete := by
  obtain ⟨before, mode', after, -, rfl, same⟩ := stripAnsi_cut stripped
  specialize same []
  rw [List.append_nil] at same
  cases mode' with
  | text => exact .inl ⟨before, after, by simpa [stripAnsi, Except.map] using same, rfl⟩
  | escape | parameters => exact .inr same

/-- A CR is never part of a sequence, so a cut right after one is in the text. -/
theorem stripAnsi_cr {part : List UInt8} (stripped : stripAnsi mode (part ++ 0x0D :: rest) = .ok text) :
    ∃ before, stripAnsi mode (part ++ [0x0D]) = .ok (before ++ [0x0D]) := by
  obtain ⟨before, mode', after, tail, rfl, same⟩ := stripAnsi_cut stripped
  cases mode' with
  | text => exact ⟨before, same [0x0D]⟩
  | escape | parameters => cases tail

/-- What is left of a stream was in it. -/
theorem stripAnsi_subset {stream : List UInt8} (stripped : stripAnsi mode stream = .ok text) : text ⊆ stream := by
  induction stream generalizing mode text with
  | nil =>
      cases mode <;> cases stripped
      exact List.Subset.refl []
  | cons byte rest ih =>
      cases mode with
      | text =>
          simp only [stripAnsi] at stripped
          split at stripped
          · exact List.subset_cons_of_subset byte (ih stripped)
          · obtain ⟨text', kept, rfl⟩ := stripAnsi_map stripped
            exact List.cons_subset_cons byte (ih kept)
      | escape =>
          simp only [stripAnsi] at stripped
          split at stripped
          · exact List.subset_cons_of_subset byte (ih stripped)
          · cases stripped
      | parameters =>
          simp only [stripAnsi] at stripped
          split at stripped
          · exact List.subset_cons_of_subset byte (ih stripped)
          · split at stripped
            · exact List.subset_cons_of_subset byte (ih stripped)
            · cases stripped

/-! ## Line ends and characters -/

/-- Without a CR there is nothing to replace. -/
theorem replaceCrLf_eq_self (none : 0x0D ∉ value) : replaceCrLf value = value := by
  induction value using replaceCrLf.induct with
  | case1 rest ih => exact absurd (List.mem_cons_self ..) none
  | case2 byte rest other ih =>
      rw [replaceCrLf.eq_2 _ _ other, ih (fun inside => none (List.mem_cons_of_mem _ inside))]
  | case3 => rfl

/-- A CR at the very end has no LF to go with. -/
theorem mem_replaceCrLf_concat (value : List UInt8) : 0x0D ∈ replaceCrLf (value ++ [0x0D]) := by
  induction value using replaceCrLf.induct with
  | case1 rest ih => exact List.mem_cons_of_mem 0x0A ih
  | case2 byte rest other ih =>
      have apart : ∀ tail, byte = 0x0D → rest ++ [0x0D] = 0x0A :: tail → False := by
        intro tail cr lf
        cases rest with
        | nil => cases lf
        | cons next rest =>
            cases lf
            exact other rest cr rfl
      rw [List.cons_append, replaceCrLf.eq_2 _ _ apart]
      exact List.mem_cons_of_mem byte ih
  | case3 => decide

def Ascii (text : List UInt8) : Prop := ∀ byte ∈ text, byte ≤ 0x7F

theorem Ascii.validUtf8 (ascii : Ascii text) : validUtf8 text = true := by
  induction text with
  | nil => rfl
  | cons byte rest ih =>
      unfold Login.validUtf8
      rw [if_pos (ascii byte (List.mem_cons_self ..))]
      exact ih (fun next inside => ascii next (List.mem_cons_of_mem byte inside))

theorem normalizeLineEndings_eq_some (clean : normalizeLineEndings value = some normalized) :
    replaceCrLf value = normalized ∧ ∀ byte ∈ normalized, isAsciiControl byte → byte = 0x0A := by
  simp only [normalizeLineEndings] at clean
  split at clean
  · cases clean
  · rename_i controls
    cases clean
    refine ⟨rfl, fun byte inside control => ?_⟩
    by_contra other
    apply controls
    rw [Bool.or_eq_true, List.any_eq_true]
    exact .inr ⟨byte, inside, by simp [control, other]⟩

theorem normalizeLineEndings_self (clean : ∀ byte ∈ value, isAsciiControl byte → byte = 0x0A) :
    normalizeLineEndings value = some value := by
  have none : 0x0D ∉ value := fun inside => absurd (clean _ inside (by decide)) (by decide)
  simp only [normalizeLineEndings, replaceCrLf_eq_self none]
  rw [if_neg]
  simp only [Bool.or_eq_true, List.contains_iff_mem, none, false_or, List.any_eq_true, not_exists]
  intro byte
  by_cases control : isAsciiControl byte
  · simp only [control, Bool.true_and, bne_iff_ne, not_and, not_not]
    exact fun inside => clean byte inside control
  · simp [control]

/-! ## An accepted prompt -/

theorem ascii_of_validDeviceCode {code : List UInt8} (valid : validDeviceCode code) : Ascii code := by
  simp only [validDeviceCode, Bool.and_eq_true, beq_iff_eq, List.all_eq_true] at valid
  obtain ⟨⟨-, dash⟩, letters⟩ := valid
  intro byte inside
  obtain ⟨index, within, rfl⟩ := List.getElem_of_mem inside
  have letter := letters (code[index], index) (by simp [List.mem_zipIdx_iff_getElem?])
  simp only [Bool.or_eq_true, beq_iff_eq] at letter
  rcases letter with (fourth | upper) | digit
  · subst fourth
    rw [List.getElem?_eq_getElem within, Option.some.injEq] at dash
    rw [dash]
    decide
  · simp only [isAsciiUppercase, Bool.and_eq_true, decide_eq_true_eq] at upper
    exact UInt8.le_trans upper.2 (by decide)
  · simp only [isAsciiDigit, Bool.and_eq_true, decide_eq_true_eq] at digit
    exact UInt8.le_trans digit.2 (by decide)

theorem ascii_devicePromptFixture : Ascii devicePromptFixture := by
  have small : devicePromptFixture.all (· ≤ 0x7F) = true := by decide +kernel
  intro byte inside
  exact of_decide_eq_true (List.all_eq_true.mp small byte inside)

theorem slice_eq_some {part : List UInt8} {first last : Nat} (cut : slice text first last = some part) :
    part = (text.take last).drop first := by
  simp only [slice] at cut
  split at cut
  · cases cut
    rfl
  · cases cut

/-- An accepted prompt is the fixture with a device code in the place of the placeholder. -/
theorem parseNormalizedPrompt_eq_ok (accepted : parseNormalizedPrompt normalized = some (.ok code)) :
    ∃ start finish, normalized.take start = devicePromptFixture.take start ∧
      normalized.drop finish = devicePromptFixture.drop finish ∧
      validDeviceCode ((normalized.take finish).drop start) := by
  unfold parseNormalizedPrompt at accepted
  generalize devicePromptFixture = fixture at accepted ⊢
  generalize deviceCodePlaceholder = placeholder at accepted
  split at accepted
  · cases accepted
  · rename_i start found
    simp only [Option.bind_eq_bind, Option.bind_eq_some_iff] at accepted
    obtain ⟨before, cutBefore, accepted⟩ := accepted
    split at accepted
    · cases accepted
    · rename_i sameBefore
      simp only [Option.bind_eq_some_iff] at accepted
      obtain ⟨after, cutAfter, accepted⟩ := accepted
      split at accepted
      · cases accepted
      · rename_i sameAfter
        simp only [Option.bind_eq_some_iff] at accepted
        obtain ⟨middle, cutMiddle, accepted⟩ := accepted
        split at accepted
        · rename_i valid
          rw [slice_eq_some cutMiddle] at valid
          refine ⟨start, _, ?_, ?_, valid⟩
          · rw [← not_not.mp sameBefore, slice_eq_some cutBefore, List.drop_zero]
          · rw [← not_not.mp sameAfter, slice_eq_some cutAfter, List.take_length]
        · cases accepted

theorem ascii_of_accepted (accepted : parseNormalizedPrompt normalized = some (.ok code)) : Ascii normalized := by
  obtain ⟨start, finish, before, after, valid⟩ := parseNormalizedPrompt_eq_ok accepted
  intro byte inside
  rw [← List.take_append_drop finish normalized, List.mem_append] at inside
  rcases inside with inside | inside
  · rw [← List.take_append_drop start (normalized.take finish), List.mem_append] at inside
    rcases inside with inside | inside
    · apply ascii_devicePromptFixture
      rw [List.take_take] at inside
      have inside := (List.take_subset_take_left normalized (Nat.min_le_left ..)) inside
      rw [before] at inside
      exact List.mem_of_mem_take inside
    · exact ascii_of_validDeviceCode valid byte inside
  · apply ascii_devicePromptFixture
    rw [after] at inside
    exact List.mem_of_mem_drop inside

/-- What `parseDevicePrompt` accepted, seen from the stream. -/
structure Accepted (stdout stripped normalized : List UInt8) (code : VerificationCode) : Prop where
  kept : stripAnsi .text stdout = .ok stripped
  lines : normalizeLineEndings stripped = some normalized
  length : normalized.length = devicePromptFixture.length
  parsed : parseNormalizedPrompt normalized = some (.ok code)

variable {stdout stripped : List UInt8}

theorem normalizeAnsiStream_eq_ok (clean : normalizeAnsiStream stdout = .ok normalized) :
    ∃ stripped, stripAnsi .text stdout = .ok stripped ∧ normalizeLineEndings stripped = some normalized := by
  simp only [normalizeAnsiStream, bind, Except.bind] at clean
  split at clean
  · cases clean
  · rename_i stripped kept
    split at clean
    · cases lines : normalizeLineEndings stripped with
      | none =>
          rw [lines] at clean
          cases clean
      | some found =>
          rw [lines] at clean
          cases clean
          exact ⟨stripped, kept, lines⟩
    · cases clean

theorem accepted_of_parseDevicePrompt (accepted : parseDevicePrompt stdout false = some (.ok code)) :
    ∃ stripped normalized, Accepted stdout stripped normalized code := by
  simp only [parseDevicePrompt, Bool.false_eq_true, if_false] at accepted
  split at accepted
  · cases accepted
  · rename_i normalized clean
    obtain ⟨stripped, kept, lines⟩ := normalizeAnsiStream_eq_ok clean
    split at accepted
    · cases accepted
    · split at accepted
      · cases accepted
      · rename_i length
        exact ⟨stripped, normalized, kept, lines, not_not.mp length, accepted⟩

/-- The same bytes are left of the stream and of its text, so without a CR both are as clean. -/
theorem Accepted.clean (accepted : Accepted stdout stripped normalized code) (none : 0x0D ∉ stdout) :
    normalized = stripped ∧ Ascii stripped ∧ ∀ byte ∈ stripped, isAsciiControl byte → byte = 0x0A := by
  have noneKept : 0x0D ∉ stripped := fun inside => none (stripAnsi_subset accepted.kept inside)
  obtain ⟨replaced, controls⟩ := normalizeLineEndings_eq_some accepted.lines
  rw [replaceCrLf_eq_self noneKept] at replaced
  subst replaced
  exact ⟨rfl, ascii_of_accepted accepted.parsed, controls⟩

/-- A cut in a stream without a CR leaves a part of the same text. -/
theorem Accepted.part {part : List UInt8} (accepted : Accepted stdout stripped normalized code) (none : 0x0D ∉ stdout)
    (cut : part <+: stdout) :
    normalizeAnsiStream part = .error .incomplete ∨
      ∃ text, text <+: normalized ∧ normalizeAnsiStream part = .ok text := by
  obtain ⟨rest, rfl⟩ := cut
  obtain ⟨rfl, ascii, controls⟩ := accepted.clean none
  rcases stripAnsi_append accepted.kept with ⟨text, tail, kept, whole⟩ | incomplete
  · apply Or.inr
    have first : text <+: normalized := ⟨tail, whole.symm⟩
    have asciiPart : Ascii text := fun byte inside => ascii byte (first.subset inside)
    have clean := normalizeLineEndings_self (fun byte inside => controls byte (first.subset inside))
    refine ⟨text, first, ?_⟩
    simp [normalizeAnsiStream, bind, Except.bind, kept, asciiPart.validUtf8, clean]
  · apply Or.inl
    simp [normalizeAnsiStream, bind, Except.bind, incomplete]

/-- Cut right after a CR, the stream is refused for good. -/
theorem parseDevicePrompt_cr {part : List UInt8} (kept : stripAnsi .text stdout = .ok stripped)
    (cut : stdout = part ++ 0x0D :: rest) : parseDevicePrompt (part ++ [0x0D]) false = some invalidPrompt := by
  subst cut
  obtain ⟨before, first⟩ := stripAnsi_cr kept
  have refused : normalizeLineEndings (before ++ [0x0D]) = none := by
    simp only [normalizeLineEndings]
    rw [if_pos]
    simp [mem_replaceCrLf_concat]
  have invalid : normalizeAnsiStream (part ++ [0x0D]) = .error (.terminal .providerOutputInvalid) := by
    simp [normalizeAnsiStream, bind, Except.bind, first, refused]
  simp only [parseDevicePrompt, invalid, Bool.false_eq_true, if_false]
  rfl

/-- The prompt of an accepted stream is recognised however the stream is cut exactly when no
line of it ends in CRLF: a part that ends between the CR and the LF is refused for good. -/
theorem parseDevicePrompt_prefixes {stdout : List UInt8} {code : VerificationCode}
    (accepted : parseDevicePrompt stdout false = some (.ok code)) :
    (∀ part, part <+: stdout →
      parseDevicePrompt part false = some (.error .incomplete) ∨
        parseDevicePrompt part false = some (.ok code)) ↔ 0x0D ∉ stdout := by
  obtain ⟨stripped, normalized, parsed⟩ := accepted_of_parseDevicePrompt accepted
  constructor
  · intro recognised inside
    obtain ⟨part, rest, cut⟩ := List.append_of_mem inside
    have refused := parseDevicePrompt_cr parsed.kept cut
    rcases recognised (part ++ [0x0D]) ⟨rest, by simp [cut]⟩ with incomplete | ok
    · rw [refused] at incomplete
      cases incomplete
    · rw [refused] at ok
      cases ok
  · intro none part cut
    rcases parsed.part none cut with incomplete | ⟨text, first, clean⟩
    · apply Or.inl
      simp only [parseDevicePrompt, incomplete, Bool.false_eq_true, if_false]
    · simp only [parseDevicePrompt, clean, Bool.false_eq_true, if_false]
      by_cases short : text.length < devicePromptFixture.length
      · exact .inl (if_pos short)
      · -- A part of the text as long as the text is the text.
        have whole : text = normalized :=
          first.eq_of_length_le (Nat.le_trans (Nat.le_of_eq parsed.length) (Nat.le_of_not_lt short))
        subst whole
        rw [if_neg short, if_neg (not_not.mpr parsed.length)]
        exact .inr parsed.parsed

theorem devicePromptFixture_prefixes :
    0x0D ∉ devicePromptFixture ∧ ∀ part, part <+: devicePromptFixture →
      parseDevicePrompt part false = some (.error .incomplete) ∨
        parseDevicePrompt part false = some (.ok ⟨deviceCodePlaceholder⟩) := by
  have none : 0x0D ∉ devicePromptFixture := by decide +kernel
  exact ⟨none, (parseDevicePrompt_prefixes (by decide +kernel)).mpr none⟩

theorem parseDevicePrompt_between_cr_lf :
    parseDevicePrompt (0x0D :: devicePromptFixture) false = some (.ok ⟨deviceCodePlaceholder⟩) ∧
      [0x0D] <+: 0x0D :: devicePromptFixture ∧
      parseDevicePrompt [0x0D] false = some (.error (.terminal .providerOutputInvalid)) :=
  ⟨by decide +kernel, ⟨devicePromptFixture, rfl⟩, by decide +kernel⟩

/-! ## Slicing at the offsets of the code -/

def placeholderStart : Nat := 300

def placeholderEnd : Nat := 310

theorem find_deviceCodePlaceholder :
    find deviceCodePlaceholder devicePromptFixture = some placeholderStart := by decide +kernel

/-- A text of the fixture's length with a character across one of the offsets of the code. The end
of the code is only looked at behind a text that agrees with the fixture up to its start. -/
def SplitsCharacter (text : List UInt8) : Prop :=
  text.length = devicePromptFixture.length ∧
    (isCharBoundary text placeholderStart = false ∨
      text.take placeholderStart = devicePromptFixture.take placeholderStart ∧
        isCharBoundary text placeholderEnd = false)

/-- No text starts inside a character. -/
theorem isContinuation_head {first : UInt8} (valid : validUtf8 (first :: rest)) : isContinuation first = false := by
  by_contra continuation
  simp only [isContinuation, Bool.not_eq_false, Bool.and_eq_true, decide_eq_true_eq] at continuation
  obtain ⟨low, high⟩ := continuation
  -- A continuation byte is below every byte that can lead a longer character.
  have notPlain : ¬ first ≤ 0x7F := UInt8.not_le.mpr (UInt8.lt_of_lt_of_le (by decide) low)
  have notAbove : ∀ bound : UInt8, 0xBF < bound → decide (bound ≤ first) = false := by
    intro bound above
    exact decide_eq_false (UInt8.not_le.mpr (UInt8.lt_of_le_of_lt high above))
  have apart : ∀ bound : UInt8, 0xBF < bound → (first == bound) = false := by
    intro bound above
    exact beq_false_of_ne (UInt8.ne_of_lt (UInt8.lt_of_le_of_lt high above))
  unfold validUtf8 at valid
  rcases rest with _ | ⟨second, _ | ⟨third, _ | ⟨fourth, rest⟩⟩⟩ <;>
    simp [notPlain, notAbove, apart] at valid

theorem isCharBoundary_zero (valid : validUtf8 text) : isCharBoundary (replaceCrLf text) 0 = true := by
  induction text using replaceCrLf.induct with
  | case1 rest ih => rfl
  | case2 first rest other ih =>
      rw [replaceCrLf.eq_2 _ _ other]
      simp only [isCharBoundary, List.getElem?_cons_zero, isContinuation_head valid, Bool.not_false]
  | case3 => rfl

theorem isCharBoundary_length (text : List UInt8) : isCharBoundary text text.length = true := by
  simp [isCharBoundary]

theorem slice_eq {first last : Nat} (ordered : first ≤ last) (boundary : isCharBoundary text first) :
    slice text first last = if isCharBoundary text last then some ((text.take last).drop first) else none := by
  simp [slice, ordered, boundary]

theorem devicePromptFixture_length : devicePromptFixture.length = 422 := by decide +kernel

/-- The slices of a text of the right length are taken exactly when they split no character. -/
theorem parseNormalizedPrompt_isSome (zero : isCharBoundary text 0)
    (length : text.length = devicePromptFixture.length) :
    (parseNormalizedPrompt text).isSome ↔ ¬ SplitsCharacter text := by
  have within : placeholderEnd ≤ text.length := by
    rw [length, devicePromptFixture_length]
    decide
  have placed : placeholderStart + deviceCodePlaceholder.length = placeholderEnd := by decide +kernel
  unfold parseNormalizedPrompt SplitsCharacter
  rw [find_deviceCodePlaceholder]
  simp only [placed, slice_eq (Nat.zero_le placeholderStart) zero, List.drop_zero, length, true_and, not_or, not_and]
  by_cases start : isCharBoundary text placeholderStart
  · simp only [start, if_true, Option.bind_eq_bind, Option.bind_some, Bool.true_eq_false, not_false_eq_true, true_and]
    by_cases before : text.take placeholderStart = devicePromptFixture.take placeholderStart
    · simp only [before, ne_eq, not_true_eq_false, if_false, forall_true_left, Bool.not_eq_false]
      by_cases finish : isCharBoundary text placeholderEnd
      · have after := slice_eq within finish
        have middle := slice_eq (show placeholderStart ≤ placeholderEnd by decide) start
        rw [isCharBoundary_length, if_pos rfl] at after
        rw [finish, if_pos rfl] at middle
        rw [← length, after, middle]
        simp only [Option.bind_some, finish, iff_true]
        split <;> rfl
      · have after : slice text placeholderEnd devicePromptFixture.length = none := by
          simp [slice, finish]
        simp [after, finish]
    · simp [before]
  · simp [start]

/-- The text of a stream is not one whose characters lie across the offsets of the code. -/
def Unsplit (stdout : List UInt8) : Prop :=
  ∀ text, normalizeAnsiStream stdout = .ok text → ¬ SplitsCharacter text

theorem normalizeAnsiStream_zero (clean : normalizeAnsiStream stdout = .ok text) : isCharBoundary text 0 = true := by
  obtain ⟨stripped, kept, lines⟩ := normalizeAnsiStream_eq_ok clean
  have valid : validUtf8 stripped = true := by
    by_contra invalid
    simp [normalizeAnsiStream, bind, Except.bind, kept, invalid] at clean
  obtain ⟨rfl, -⟩ := normalizeLineEndings_eq_some lines
  exact isCharBoundary_zero valid

theorem parseDevicePrompt_isSome (stdout : List UInt8) :
    (parseDevicePrompt stdout false).isSome ↔ Unsplit stdout := by
  simp only [parseDevicePrompt, Bool.false_eq_true, if_false, Unsplit]
  cases clean : normalizeAnsiStream stdout with
  | error error => simp
  | ok text =>
      simp only [Except.ok.injEq, forall_eq']
      by_cases length : text.length = devicePromptFixture.length
      · rw [if_neg (Nat.not_lt.mpr (Nat.le_of_eq length.symm)), if_neg (not_not.mpr length)]
        exact parseNormalizedPrompt_isSome (normalizeAnsiStream_zero clean) length
      · have unsplit : ¬ SplitsCharacter text := fun splits => length splits.1
        simp only [unsplit, not_false_eq_true, iff_true]
        split <;> rfl

/-- The parsers of a login's output return on every input but one whose text, of the pinned
prompt's length, has a character across an offset of the code. -/
theorem login_output_parsed (stdout : List UInt8) (overflow : Bool) (output : CapturedOutput) :
    ((parseDevicePrompt stdout overflow).isSome ↔ overflow ∨ Unsplit stdout) ∧
      ((parseLoginCompletion output).isSome ↔
        (output.stdoutOverflow ∨ output.stderrOverflow) ∨ Unsplit output.stdout) := by
  constructor
  · cases overflow with
    | true => simp [parseDevicePrompt]
    | false => simp [parseDevicePrompt_isSome]
  · rw [parseLoginCompletion, rejectOverflow]
    by_cases overflow : output.stdoutOverflow || output.stderrOverflow
    · rw [if_pos overflow]
      rw [Bool.or_eq_true] at overflow
      simp only [Option.isSome_some, overflow, true_or]
    · rw [if_neg overflow, ← parseDevicePrompt_isSome output.stdout]
      simp only [Bool.or_eq_true] at overflow
      simp only [overflow, false_or]
      cases parseDevicePrompt output.stdout false with
      | none => rfl
      | some parsed => cases parsed <;> rfl

/-- 422 bytes of text, an accented letter across the start of the code. -/
def accentedPrompt : List UInt8 :=
  List.replicate 299 0x61 ++ [0xC3, 0xA9] ++ List.replicate 121 0x61

theorem accentedPrompt_unparsed :
    parseDevicePrompt accentedPrompt false = none ∧
      parseLoginCompletion { stdout := accentedPrompt, exitCode := some 0 } = none := by
  decide +kernel

end Codebox.Login
