import Codebox.Cloud.Capture
import Codebox.Support.Fold
import Codebox.Support.Splitting

/-! # The status of a task

The status command prints three lines: a label and a title, an environment and an age joined by a
bullet, and a last line for display. The decoder splits the second line where the bullet first
occurs. Two occurrences of the bullet with its blanks can overlap, so that a line may have the form
of two fields joined by it without being split into them.
-/

namespace Codebox.Cloud

open Codebox.Support

/-! ## The decoder -/

def maxTitleBytes : Nat := 4096

def maxEnvironmentBytes : Nat := 256

def statusSeparator : List Char := [' ', ' ', '•', ' ', ' ']

def isControl (c : Char) : Bool := c.toNat ≤ 0x1F || (0x7F ≤ c.toNat && c.toNat ≤ 0x9F)

/-- The text with every CRLF replaced by LF, from the left. -/
def replaceCrLf : List Char → List Char
  | [] => []
  | '\r' :: '\n' :: rest => '\n' :: replaceCrLf rest
  | c :: rest => c :: replaceCrLf rest

def normalizeStatusOutput (value : List Char) : Except CloudAdapterError (List Char) :=
  let normalized := replaceCrLf value
  if normalized.contains '\r' || normalized.any (fun c => isControl c && c != '\n') then
    .error ⟨.status, .controlCharacter⟩
  else .ok normalized

def stripFinalLf (text : List Char) : Option (List Char) :=
  if text.getLast? = some '\n' then some text.dropLast else none

def statusPrefixes : List (List Char × CloudTaskStatus) :=
  [("[PENDING] ".toList, .pending), ("[READY] ".toList, .ready), ("[APPLIED] ".toList, .applied),
    ("[ERROR] ".toList, .error)]

def parseStatusLabel (line : List Char) : Except CloudAdapterError (CloudTaskStatus × List Char) :=
  match statusPrefixes.findSome? fun entry => (entry.1.isPrefixOf? line).map fun display =>
      (entry.2, display) with
  | some found => .ok found
  | none => .error (providerDrift .status)

def validateDisplayField (value : List Char) (field : CloudField) (maxBytes : Nat) :
    Except CloudAdapterError Unit :=
  if value.isEmpty || maxBytes < (Utf8.encode value).length then .error (providerDrift field)
  else .ok ()

def expectedExit (status : CloudTaskStatus) : Int := if status = .ready then 0 else 1

/-- The decoding of the three lines. -/
def decodeStatusLines (exitCode : Int) (first second third : List Char) :
    Except CloudAdapterError CloudTaskStatus := do
  let (status, title) ← parseStatusLabel first
  validateDisplayField title .title maxTitleBytes
  let some (environment, age) := splitOnce statusSeparator second
    | throw (providerDrift .status)
  if occursIn statusSeparator age then throw (providerDrift .status)
  validateDisplayField environment .environmentLabel maxEnvironmentBytes
  validateDisplayField age .status maxEnvironmentBytes
  validateDisplayField third .status maxEnvironmentBytes
  if exitCode ≠ expectedExit status then throw (providerDrift .exitStatus)
  return status

def decodeCloudStatus (capture : CloudCapture) : Except CloudAdapterError CloudTaskStatus := do
  validateStandardCapture capture
  let some exitCode := capture.exitCode | throw ⟨.exitStatus, .missing⟩
  let stdout ← normalizeStatusOutput (← captureStdout capture)
  let some withoutFinalLf := stripFinalLf stdout | throw (providerDrift .status)
  match withoutFinalLf.splitOn '\n' with
  | [first, second, third] =>
      if first.isEmpty || second.isEmpty || third.isEmpty then throw (providerDrift .status)
      else decodeStatusLines exitCode first second third
  | _ => throw (providerDrift .status)

/-! ## The grammar -/

def statusLabel : CloudTaskStatus → List Char
  | .pending => "[PENDING]".toList
  | .ready => "[READY]".toList
  | .applied => "[APPLIED]".toList
  | .error => "[ERROR]".toList

/-- A field that is displayed: one byte at least, and `limit` at most. -/
structure Displayable (limit : Nat) (text : List Char) : Prop where
  nonempty : text ≠ []
  bounded : (Utf8.encode text).length ≤ limit

/-- The line is two fields joined by the separator, neither of which contains it. -/
structure JoinedFields (line environment age : List Char) : Prop where
  joined : line = environment ++ (statusSeparator ++ age)
  environmentClear : ¬ statusSeparator <:+: environment
  ageClear : ¬ statusSeparator <:+: age

/-- The line is two fields around the first occurrence of the separator, which has no second one
behind it. -/
structure SplitFields (line environment age : List Char) : Prop where
  split : FirstSplit statusSeparator line environment age
  ageClear : ¬ statusSeparator <:+: age

/-- Three lines for `status`, where `fields` says how the second consists of two fields. -/
inductive StatusText (fields : List Char → List Char → List Char → Prop)
    (status : CloudTaskStatus) : List Char → Prop where
  | lines {title second environment age third : List Char}
      (titled : Displayable maxTitleBytes title) (titleLine : '\n' ∉ title)
      (separated : fields second environment age) (secondLine : '\n' ∉ second)
      (environmentShown : Displayable maxEnvironmentBytes environment)
      (ageShown : Displayable maxEnvironmentBytes age)
      (thirdShown : Displayable maxEnvironmentBytes third) (thirdLine : '\n' ∉ third) :
      StatusText fields status
        (statusLabel status ++ ' ' :: title ++ '\n' :: (second ++ '\n' :: (third ++ ['\n'])))

/-- The captures of a status, where `fields` says how the second line consists of two fields. -/
structure StatusCapture (fields : List Char → List Char → List Char → Prop)
    (status : CloudTaskStatus) (capture : CloudCapture) (text : List Char) : Prop where
  clean : capture.Clean maxStandardCaptureBytes (expectedExit status)
  utf8 : Utf8.encode text = capture.stdout
  plain : ∀ c ∈ replaceCrLf text, isControl c → c = '\n'
  lines : StatusText fields status (replaceCrLf text)

/-! ## The steps of the decoder -/

theorem normalizeStatusOutput_ok_iff {value normalized : List Char} :
    normalizeStatusOutput value = .ok normalized ↔
      replaceCrLf value = normalized ∧ ∀ c ∈ normalized, isControl c → c = '\n' := by
  have carriageReturn : isControl '\r' = true := rfl
  simp only [normalizeStatusOutput]
  constructor
  · intro accepted
    split at accepted
    · cases accepted
    · rename_i plain
      obtain rfl := Except.ok.inj accepted
      refine ⟨rfl, fun c mem control => ?_⟩
      simp only [Bool.or_eq_true, List.any_eq_true, not_or, not_exists, not_and] at plain
      by_contra other
      exact plain.2 c mem (by simp [control, other])
  · rintro ⟨rfl, plain⟩
    rw [if_neg]
    simp only [Bool.or_eq_true, List.contains_iff_mem, List.any_eq_true, not_or, not_exists, not_and]
    constructor
    · intro mem
      exact absurd (plain '\r' mem carriageReturn) (by decide)
    · intro c mem
      simpa using plain c mem

theorem stripFinalLf_eq_some_iff {text rest : List Char} :
    stripFinalLf text = some rest ↔ text = rest ++ ['\n'] := by
  rw [stripFinalLf]
  constructor
  · intro found
    split at found
    · rename_i last
      obtain rfl := Option.some.inj found
      exact (List.dropLast_append_getLast? '\n' last).symm
    · cases found
  · rintro rfl
    simp

variable {status : CloudTaskStatus} {capture : CloudCapture}

theorem parseStatusLabel_ok_iff {line title : List Char} :
    parseStatusLabel line = .ok (status, title) ↔ line = statusLabel status ++ ' ' :: title := by
  constructor
  · intro found
    rw [parseStatusLabel] at found
    split at found
    · rename_i entry located
      obtain rfl := Except.ok.inj found
      obtain ⟨⟨label, status'⟩, known, matched⟩ := List.exists_of_findSome?_eq_some located
      obtain ⟨display, stripped, same⟩ := Option.map_eq_some_iff.mp matched
      obtain ⟨rfl, rfl⟩ := Prod.mk.inj same
      rw [← List.isPrefixOf?_eq_some_iff_append_eq.mp stripped]
      simp only [statusPrefixes, List.mem_cons, Prod.mk.injEq, List.not_mem_nil, or_false] at known
      obtain ⟨rfl, rfl⟩ | ⟨rfl, rfl⟩ | ⟨rfl, rfl⟩ | ⟨rfl, rfl⟩ := known
      all_goals rfl
    · cases found
  · rintro rfl
    cases status
    all_goals rfl

theorem validateDisplayField_ok_iff {value : List Char} {field : CloudField} {maxBytes : Nat} :
    validateDisplayField value field maxBytes = .ok () ↔ Displayable maxBytes value := by
  rw [validateDisplayField]
  constructor
  · intro accepted
    split at accepted
    · cases accepted
    · rename_i inside
      simp only [Bool.or_eq_true, List.isEmpty_iff, decide_eq_true_eq, not_or, Nat.not_lt] at inside
      exact ⟨inside.1, inside.2⟩
  · intro displayable
    rw [if_neg]
    simp [displayable.nonempty, displayable.bounded]

/-- What the three lines hold if the decoder accepts them. -/
structure DecodedLines (status : CloudTaskStatus) (exitCode : Int)
    (first second third title environment age : List Char) : Prop where
  label : first = statusLabel status ++ ' ' :: title
  titled : Displayable maxTitleBytes title
  separated : SplitFields second environment age
  environmentShown : Displayable maxEnvironmentBytes environment
  ageShown : Displayable maxEnvironmentBytes age
  thirdShown : Displayable maxEnvironmentBytes third
  exit : exitCode = expectedExit status

theorem decodeStatusLines_ok_iff {exitCode : Int} {first second third : List Char} :
    decodeStatusLines exitCode first second third = .ok status ↔ ∃ title environment age,
      DecodedLines status exitCode first second third title environment age := by
  constructor
  · intro decoded
    simp only [decodeStatusLines] at decoded
    obtain ⟨⟨status', title⟩, labelled, decoded⟩ := except_bind_eq_ok.mp decoded
    obtain ⟨⟨⟩, titled, decoded⟩ := except_bind_eq_ok.mp decoded
    split at decoded
    · rename_i environment age split
      split at decoded
      · cases decoded
      · rename_i clear
        obtain ⟨⟨⟩, environmentShown, decoded⟩ := except_bind_eq_ok.mp decoded
        obtain ⟨⟨⟩, ageShown, decoded⟩ := except_bind_eq_ok.mp decoded
        obtain ⟨⟨⟩, thirdShown, decoded⟩ := except_bind_eq_ok.mp decoded
        split at decoded
        · cases decoded
        · rename_i exit
          obtain rfl := Except.ok.inj decoded
          refine ⟨title, environment, age, parseStatusLabel_ok_iff.mp labelled,
            validateDisplayField_ok_iff.mp titled, ⟨splitOnce_eq_some_iff.mp split, ?_⟩,
            validateDisplayField_ok_iff.mp environmentShown,
            validateDisplayField_ok_iff.mp ageShown, validateDisplayField_ok_iff.mp thirdShown,
            not_not.mp exit⟩
          rw [← occursIn_iff]
          exact clear
    · cases decoded
  · rintro ⟨title, environment, age, lines⟩
    have labelled := parseStatusLabel_ok_iff.mpr lines.label
    have split := splitOnce_eq_some_iff.mpr lines.separated.split
    have clear : ¬ occursIn statusSeparator age = true := by
      rw [occursIn_iff]
      exact lines.separated.ageClear
    have exit : ¬ exitCode ≠ expectedExit status := not_not.mpr lines.exit
    simp only [decodeStatusLines, labelled, split, if_neg clear]
    apply except_bind_eq_ok.mpr ⟨(status, title), rfl, ?_⟩
    apply except_bind_eq_ok.mpr ⟨(), validateDisplayField_ok_iff.mpr lines.titled, ?_⟩
    apply except_bind_eq_ok.mpr ⟨(), validateDisplayField_ok_iff.mpr lines.environmentShown, ?_⟩
    apply except_bind_eq_ok.mpr ⟨(), validateDisplayField_ok_iff.mpr lines.ageShown, ?_⟩
    apply except_bind_eq_ok.mpr ⟨(), validateDisplayField_ok_iff.mpr lines.thirdShown, ?_⟩
    rw [if_neg exit]
    rfl

theorem notMem_statusLabel (status : CloudTaskStatus) : '\n' ∉ statusLabel status := by
  cases status
  all_goals decide

/-- The decoder accepts exactly the captures of its grammar. -/
theorem decodeCloudStatus_ok_iff :
    decodeCloudStatus capture = .ok status ↔ ∃ text, StatusCapture SplitFields status capture text := by
  constructor
  · intro decoded
    simp only [decodeCloudStatus] at decoded
    obtain ⟨⟨⟩, valid, decoded⟩ := except_bind_eq_ok.mp decoded
    obtain ⟨exitCode, clean⟩ := validateCapture_ok_iff.mp valid
    rw [clean.exited] at decoded
    obtain ⟨text, utf8, decoded⟩ := except_bind_eq_ok.mp decoded
    obtain ⟨normalized, normal, decoded⟩ := except_bind_eq_ok.mp decoded
    obtain ⟨rfl, plain⟩ := normalizeStatusOutput_ok_iff.mp normal
    split at decoded
    · rename_i rest stripped
      split at decoded
      · rename_i first second third split
        split at decoded
        · cases decoded
        · obtain ⟨title, environment, age, lines⟩ := decodeStatusLines_ok_iff.mp decoded
          obtain ⟨-, joined, apart⟩ := splitOn_eq_iff.mp split
          have whole : replaceCrLf text = statusLabel status ++ ' ' :: title ++
              '\n' :: (second ++ '\n' :: (third ++ ['\n'])) := by
            rw [stripFinalLf_eq_some_iff.mp stripped, ← joined, lines.label]
            simp [List.intercalate]
          have titleLine : '\n' ∉ title := by
            intro mem
            apply apart first (by simp)
            simp [lines.label, mem]
          refine ⟨text, lines.exit ▸ clean, captureStdout_ok_iff.mp utf8, plain, ?_⟩
          rw [whole]
          exact .lines lines.titled titleLine lines.separated (apart second (by simp))
            lines.environmentShown lines.ageShown lines.thirdShown (apart third (by simp))
      · cases decoded
    · cases decoded
  · rintro ⟨text, clean, utf8, plain, lines⟩
    simp only [decodeCloudStatus]
    apply except_bind_eq_ok.mpr ⟨(), validateCapture_ok_iff.mpr ⟨_, clean⟩, ?_⟩
    rw [clean.exited]
    apply except_bind_eq_ok.mpr ⟨text, captureStdout_ok_iff.mpr utf8, ?_⟩
    apply except_bind_eq_ok.mpr ⟨_, normalizeStatusOutput_ok_iff.mpr ⟨rfl, plain⟩, ?_⟩
    generalize replaceCrLf text = normalized at lines
    obtain ⟨titled, titleLine, separated, secondLine, environmentShown, ageShown, thirdShown,
      thirdLine⟩ := lines
    rename_i title second environment age third
    have stripped : stripFinalLf (statusLabel status ++ ' ' :: title ++
        '\n' :: (second ++ '\n' :: (third ++ ['\n'])))
        = some (statusLabel status ++ ' ' :: title ++ '\n' :: (second ++ '\n' :: third)) := by
      rw [stripFinalLf_eq_some_iff]
      simp
    have split : (statusLabel status ++ ' ' :: title ++ '\n' :: (second ++ '\n' :: third)).splitOn '\n'
        = [statusLabel status ++ ' ' :: title, second, third] := by
      rw [splitOn_eq_iff]
      refine ⟨by simp, by simp [List.intercalate], ?_⟩
      simp [notMem_statusLabel, titleLine, secondLine, thirdLine]
    have secondSome : second ≠ [] := by
      rw [separated.split.joined]
      simp [statusSeparator]
    rw [stripped]
    simp only [split]
    rw [if_neg (by simp [secondSome, thirdShown.nonempty]), decodeStatusLines_ok_iff]
    exact ⟨title, environment, age, rfl, titled, separated, environmentShown, ageShown, thirdShown,
      rfl⟩

/-! ## Line ends -/

/-- A CR is dropped where a LF follows it. -/
theorem replaceCrLf_cons (c : Char) (rest : List Char) :
    replaceCrLf (c :: rest) =
      if c = '\r' ∧ rest.head? = some '\n' then replaceCrLf rest else c :: replaceCrLf rest := by
  by_cases pair : c = '\r' ∧ rest.head? = some '\n'
  · obtain ⟨rfl, next⟩ := pair
    obtain ⟨rest, rfl⟩ := List.head?_eq_some_iff.mp next
    have plain : replaceCrLf ('\n' :: rest) = '\n' :: replaceCrLf rest := by
      rw [replaceCrLf]
      simp
    rw [if_pos ⟨rfl, rfl⟩, replaceCrLf, plain]
  · rw [if_neg pair, replaceCrLf]
    rintro tail rfl rfl
    exact pair ⟨rfl, rfl⟩

/-- A CR before a LF that has none yet makes no difference. -/
theorem replaceCrLf_insert {front : List Char} (back : List Char)
    (apart : front.getLast? ≠ some '\r') :
    replaceCrLf (front ++ '\r' :: '\n' :: back) = replaceCrLf (front ++ '\n' :: back) := by
  induction front with
  | nil =>
    rw [List.nil_append, replaceCrLf_cons, if_pos ⟨rfl, rfl⟩]
    rfl
  | cons c front ih =>
    rw [List.cons_append, List.cons_append, replaceCrLf_cons, replaceCrLf_cons]
    cases front with
    | nil =>
      have other : c ≠ '\r' := by
        rintro rfl
        exact apart rfl
      rw [if_neg (fun pair => other pair.1), if_neg (fun pair => other pair.1)]
      exact congrArg _ (ih (by simp))
    | cons next front =>
      rw [List.getLast?_cons_cons] at apart
      rw [ih apart]
      rfl

/-- Putting a CR before a LF that has none yet leaves the text a capture of the same status. -/
theorem StatusCapture.insert {fields : List Char → List Char → List Char → Prop} {text : List Char}
    {before after : List UInt8} (accepted : StatusCapture fields status capture text)
    (stdout : capture.stdout = before ++ Utf8.asciiByte '\n' :: after)
    (apart : before.getLast? ≠ some (Utf8.asciiByte '\r'))
    (bounded : (before ++ Utf8.asciiByte '\r' :: Utf8.asciiByte '\n' :: after).length
      ≤ maxStandardCaptureBytes) :
    ∃ text, StatusCapture fields status { capture with
      stdout := before ++ Utf8.asciiByte '\r' :: Utf8.asciiByte '\n' :: after } text := by
  obtain ⟨front, back, rfl, rfl, rfl⟩ :=
    Utf8.encode_eq_append_cons (by decide) (accepted.utf8.trans stdout)
  have lineEnd : Utf8.asciiChar (Utf8.asciiByte '\n') = '\n' := by decide
  have frontApart : front.getLast? ≠ some '\r' := by
    intro last
    apply apart
    obtain ⟨start, rfl⟩ := List.getLast?_eq_some_iff.mp last
    rw [Utf8.encode_append, Utf8.encode_cons_ascii (by decide)]
    simp
  have same := replaceCrLf_insert back frontApart
  have clean := accepted.clean
  have plain := accepted.plain
  have lines := accepted.lines
  rw [lineEnd, ← same] at plain lines
  refine ⟨front ++ '\r' :: '\n' :: back, ⟨clean.stdoutWhole, clean.stderrWhole, bounded,
    clean.silent, clean.exited⟩, ?_, plain, lines⟩
  rw [Utf8.encode_append, Utf8.encode_cons_ascii (by decide), Utf8.encode_cons_ascii (by decide)]

/-- The decoder accepts exactly the captures of its grammar, in which the second line is split at the
first separator, and is not disturbed by a CR put before a LF that has none yet. -/
theorem decodeCloudStatus_grammar (capture : CloudCapture) (status : CloudTaskStatus) :
    (decodeCloudStatus capture = .ok status ↔
      ∃ text, StatusCapture SplitFields status capture text) ∧
    ∀ before after, capture.stdout = before ++ Utf8.asciiByte '\n' :: after →
      before.getLast? ≠ some (Utf8.asciiByte '\r') →
      (before ++ Utf8.asciiByte '\r' :: Utf8.asciiByte '\n' :: after).length
        ≤ maxStandardCaptureBytes →
      decodeCloudStatus capture = .ok status →
      decodeCloudStatus { capture with
        stdout := before ++ Utf8.asciiByte '\r' :: Utf8.asciiByte '\n' :: after } = .ok status := by
  refine ⟨decodeCloudStatus_ok_iff, ?_⟩
  intro before after stdout apart bounded decoded
  obtain ⟨text, accepted⟩ := decodeCloudStatus_ok_iff.mp decoded
  exact decodeCloudStatus_ok_iff.mpr (accepted.insert stdout apart bounded)

/-- The capture of a command that printed a text and exited with 0. -/
def printed (text : List Char) : CloudCapture := { stdout := Utf8.encode text, exitCode := some 0 }

/-- The environment is a bullet behind two blanks. -/
def overlappingStatus : List Char := "[READY] t\n  •  •  b\nl\n".toList

/-- The first line already ends in CRLF. -/
def mixedStatus : List Char := "[READY] t\r\ne  •  a\nl\n".toList

theorem captureStdout_printed (text : List Char) : captureStdout (printed text) = .ok text :=
  captureStdout_ok_iff.mpr rfl

/-- A second line that is two fields joined by the separator, with no separator in either, is
refused; and a CR put before a LF that already has one makes an accepted text refused. -/
theorem overlapping_separator_refused :
    (StatusCapture JoinedFields .ready (printed overlappingStatus) overlappingStatus ∧
      decodeCloudStatus (printed overlappingStatus) ≠ .ok .ready) ∧
    decodeCloudStatus (printed mixedStatus) = .ok .ready ∧
    ∃ before after, (printed mixedStatus).stdout = before ++ Utf8.asciiByte '\n' :: after ∧
      (before ++ Utf8.asciiByte '\r' :: Utf8.asciiByte '\n' :: after).length
        ≤ maxStandardCaptureBytes ∧
      decodeCloudStatus { printed mixedStatus with
        stdout := before ++ Utf8.asciiByte '\r' :: Utf8.asciiByte '\n' :: after } ≠ .ok .ready := by
  refine ⟨⟨⟨?clean, rfl, ?plain, ?lines⟩, ?refused⟩, ?accepted, ?inserted⟩
  case clean => exact ⟨rfl, rfl, by decide +kernel, rfl, rfl⟩
  case plain =>
    have plain : (replaceCrLf overlappingStatus).all (fun c => !isControl c || c == '\n') = true := by decide +kernel
    intro c mem control
    simpa [control] using List.all_eq_true.mp plain c mem
  case lines =>
    have separated : JoinedFields "  •  •  b".toList "  •".toList "b".toList :=
      ⟨by decide, by decide, by decide⟩
    have titled : Displayable maxTitleBytes "t".toList := ⟨by decide, by decide +kernel⟩
    have environmentShown : Displayable maxEnvironmentBytes "  •".toList :=
      ⟨by decide, by decide +kernel⟩
    have ageShown : Displayable maxEnvironmentBytes "b".toList := ⟨by decide, by decide +kernel⟩
    have thirdShown : Displayable maxEnvironmentBytes "l".toList := ⟨by decide, by decide +kernel⟩
    exact .lines titled (by decide) separated (by decide) environmentShown ageShown thirdShown
      (by decide)
  case refused =>
    simp only [decodeCloudStatus, captureStdout_printed, bind, Except.bind]
    decide +kernel
  case accepted =>
    simp only [decodeCloudStatus, captureStdout_printed, bind, Except.bind]
    decide +kernel
  case inserted =>
    refine ⟨Utf8.encode "[READY] t\r".toList, Utf8.encode "e  •  a\nl\n".toList, by decide +kernel,
      by decide +kernel, ?_⟩
    have twice : { printed mixedStatus with
        stdout := Utf8.encode "[READY] t\r".toList ++ Utf8.asciiByte '\r' :: Utf8.asciiByte '\n' ::
          Utf8.encode "e  •  a\nl\n".toList } = printed "[READY] t\r\r\ne  •  a\nl\n".toList := by
      decide +kernel
    rw [twice]
    simp only [decodeCloudStatus, captureStdout_printed, bind, Except.bind]
    decide +kernel

end Codebox.Cloud
