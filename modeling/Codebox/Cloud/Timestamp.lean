import Codebox.Support.Checked
import Codebox.Support.Utf8
import Mathlib.Data.List.Basic
import Mathlib.Tactic.IntervalCases

/-! # Timestamps of listed tasks

A row of a task list carries the time of its last update, and is only accepted if that text is an
RFC 3339 timestamp. The check reads the bytes of the text at fixed offsets, scans a fraction of any
length, and compares the numbers it read with the calendar. Here it is compared with the grammar of
the text. Its arithmetic is on `u8` and `u32`, and every operator that could panic is written as one
that can.
-/

namespace Codebox.Cloud

open Codebox.Support

/-! ## The check -/

def isAsciiDigit (byte : UInt8) : Bool := 48 ≤ byte.toNat && byte.toNat ≤ 57

/-- The bytes from `start`, `len` of them, if there are so many. -/
def byteRange (bytes : List UInt8) (start len : Nat) : Option (List UInt8) :=
  if start + len ≤ bytes.length then some ((bytes.drop start).take len) else none

/-- The bytes from `start` to the end. -/
def byteTail (bytes : List UInt8) (start : Nat) : Option (List UInt8) :=
  if start ≤ bytes.length then some (bytes.drop start) else none

/-- The step of the fold of `parse_digits`. -/
def pushDigit (value : Nat) (byte : UInt8) : Checked (Option Nat) :=
  if isAsciiDigit byte then do
    let tens ← mulIn 32 value 10
    let digit ← subIn byte.toNat 48
    some <$> addIn 32 tens digit
  else .ok none

def parseDigits (bytes : List UInt8) (start len : Nat) : Checked (Option Nat) :=
  match byteRange bytes start len with
  | none => .ok none
  | some digits => tryFold pushDigit 0 digits

def digitPair (first second : UInt8) : Checked (Option Nat) :=
  if isAsciiDigit first && isAsciiDigit second then do
    let tens ← mulIn 32 (← subIn first.toNat 48) 10
    some <$> addIn 32 tens (← subIn second.toNat 48)
  else .ok none

def daysInMonth (year month : Nat) : Nat :=
  match month with
  | 1 | 3 | 5 | 7 | 8 | 10 | 12 => 31
  | 4 | 6 | 9 | 11 => 30
  | 2 => if year % 400 == 0 || (year % 4 == 0 && year % 100 != 0) then 29 else 28
  | _ => 0

/-- The loop over the digits of a fraction, given the bytes from `position` on. -/
def skipDigits : List UInt8 → Nat → Nat
  | [], position => position
  | byte :: rest, position =>
      if isAsciiDigit byte then skipDigits rest (position + 1) else position

/-- Where the time zone starts, after an optional fraction; `none` for a fraction without a digit. -/
def timezoneStart (bytes : List UInt8) : Option Nat :=
  if bytes[19]? == some (Utf8.asciiByte '.') then
    let start := skipDigits (bytes.drop 20) 20
    if start == 20 then none else some start
  else some 19

def validTimezone (zone : Option (List UInt8)) : Checked Bool :=
  match zone with
  | some [byte] => .ok (byte == Utf8.asciiByte 'Z' || byte == Utf8.asciiByte 'z')
  | some [sign, hourA, hourB, colon, minuteA, minuteB] =>
      if (sign == Utf8.asciiByte '+' || sign == Utf8.asciiByte '-') && colon == Utf8.asciiByte ':'
      then do
        let offsetHour ← digitPair hourA hourB
        let offsetMinute ← digitPair minuteA minuteB
        match offsetHour, offsetMinute with
        | some hour, some minute => return hour ≤ 23 && minute ≤ 59
        | _, _ => return false
      else .ok false
  | _ => .ok false

def validRfc3339 (value : List Char) : Checked Bool := do
  let bytes := Utf8.encode value
  if bytes.length < 20 || bytes[4]? != some (Utf8.asciiByte '-')
      || bytes[7]? != some (Utf8.asciiByte '-')
      || !(bytes[10]? == some (Utf8.asciiByte 'T') || bytes[10]? == some (Utf8.asciiByte 't'))
      || bytes[13]? != some (Utf8.asciiByte ':') || bytes[16]? != some (Utf8.asciiByte ':') then
    return false
  let some year ← parseDigits bytes 0 4 | return false
  let some month ← parseDigits bytes 5 2 | return false
  let some day ← parseDigits bytes 8 2 | return false
  let some hour ← parseDigits bytes 11 2 | return false
  let some minute ← parseDigits bytes 14 2 | return false
  let some second ← parseDigits bytes 17 2 | return false
  if !(1 ≤ month && month ≤ 12) || day == 0 || day > daysInMonth year month || hour > 23
      || minute > 59 || second > 60 then
    return false
  let some start := timezoneStart bytes | return false
  validTimezone (byteTail bytes start)

/-! ## The grammar -/

/-- `count` ASCII digits that read as `value`. -/
structure Numeral (count : Nat) (text : List Char) (value : Nat) : Prop where
  length : text.length = count
  digits : ∀ c ∈ text, c.isDigit
  reads : Nat.ofDigitChars 10 text 0 = value

/-- The leap years of the Gregorian calendar, in every year. -/
def GregorianLeap (year : Nat) : Prop := 4 ∣ year ∧ (100 ∣ year → 400 ∣ year)

instance (year : Nat) : Decidable (GregorianLeap year) :=
  inferInstanceAs (Decidable (_ ∧ _))

/-- The lengths of the twelve months. -/
def gregorianMonths (year : Nat) : List Nat :=
  [31, if GregorianLeap year then 29 else 28, 31, 30, 31, 30, 31, 31, 30, 31, 30, 31]

inductive Fraction : List Char → Prop where
  | absent : Fraction []
  | present (digits : List Char) (some : digits ≠ []) (numeric : ∀ c ∈ digits, c.isDigit) :
      Fraction ('.' :: digits)

inductive Timezone : List Char → Prop where
  | utc (letter : Char) (known : letter = 'Z' ∨ letter = 'z') : Timezone [letter]
  | offset (sign : Char) (known : sign = '+' ∨ sign = '-') {hourText minuteText : List Char}
      {hour minute : Nat} (hours : Numeral 2 hourText hour) (minutes : Numeral 2 minuteText minute)
      (hourBound : hour ≤ 23) (minuteBound : minute ≤ 59) :
      Timezone (sign :: (hourText ++ ':' :: minuteText))

/-- The six numbers of a timestamp are those of a time in the calendar. A minute may have a leap
second. -/
structure CalendarTime (year month day hour minute second : Nat) : Prop where
  monthBound : 1 ≤ month ∧ month ≤ 12
  dayBound : 1 ≤ day ∧ ∃ days, (gregorianMonths year)[month - 1]? = some days ∧ day ≤ days
  hourBound : hour ≤ 23
  minuteBound : minute ≤ 59
  secondBound : second ≤ 60

inductive Rfc3339 : List Char → Prop where
  | intro {yearText monthText dayText hourText minuteText secondText fraction zone : List Char}
      {year month day hour minute second : Nat} (separator : Char)
      (years : Numeral 4 yearText year) (months : Numeral 2 monthText month)
      (days : Numeral 2 dayText day) (known : separator = 'T' ∨ separator = 't')
      (hours : Numeral 2 hourText hour) (minutes : Numeral 2 minuteText minute)
      (seconds : Numeral 2 secondText second)
      (calendar : CalendarTime year month day hour minute second)
      (fractional : Fraction fraction) (zoned : Timezone zone) :
      Rfc3339 (yearText ++ '-' :: (monthText ++ '-' :: (dayText ++ separator :: (hourText ++
        ':' :: (minuteText ++ ':' :: (secondText ++ (fraction ++ zone)))))))

/-! ## Digits -/

variable {c : Char} {byte : UInt8} {value position start : Nat} {text : List Char} {bytes rest : List UInt8}

theorem isDigit_iff : c.isDigit = true ↔ 48 ≤ c.toNat ∧ c.toNat ≤ 57 := by
  simp [Char.isDigit, UInt32.le_iff_toNat_le, Char.toNat_val]

theorem isAsciiDigit_iff : isAsciiDigit byte = true ↔ 48 ≤ byte.toNat ∧ byte.toNat ≤ 57 := by
  simp [isAsciiDigit]

theorem isDigit_asciiChar (digit : isAsciiDigit byte) : (Utf8.asciiChar byte).isDigit := by
  have range := isAsciiDigit_iff.mp digit
  rw [isDigit_iff, Utf8.toNat_asciiChar (by omega)]
  exact range

theorem isAsciiDigit_asciiByte (digit : c.isDigit) : isAsciiDigit (Utf8.asciiByte c) := by
  have range := isDigit_iff.mp digit
  rw [isAsciiDigit_iff, Utf8.toNat_asciiByte (by omega)]
  exact range

theorem pushDigit_eq (byte : UInt8) (fits : (value + 1) * 10 ≤ 2 ^ 32) :
    pushDigit value byte = .ok (if isAsciiDigit byte then
      some (10 * value + ((Utf8.asciiChar byte).toNat - '0'.toNat)) else none) := by
  by_cases digit : isAsciiDigit byte
  · have range := isAsciiDigit_iff.mp digit
    have tens : mulIn 32 value 10 = .ok (value * 10) := mulIn_eq_ok (by omega)
    have units : subIn byte.toNat 48 = .ok (byte.toNat - 48) := subIn_eq_ok range.1
    have sum : addIn 32 (value * 10) (byte.toNat - 48) = .ok (value * 10 + (byte.toNat - 48)) :=
      addIn_eq_ok (by omega)
    have code : (Utf8.asciiChar byte).toNat = byte.toNat := Utf8.toNat_asciiChar (by omega)
    rw [pushDigit, if_pos digit, if_pos digit, tens, code, Nat.mul_comm 10]
    simp only [checked_ok_bind, units, sum, checked_ok_map]
    rfl
  · rw [pushDigit, if_neg digit, if_neg digit]

/-- Reading digits stays below ten to their number, so up to nine of them fit in a `u32`. -/
theorem tryFold_pushDigit {digits : List UInt8} (fits : (value + 1) * 10 ^ digits.length ≤ 2 ^ 32) :
    tryFold pushDigit value digits = .ok (if digits.all isAsciiDigit then
      some (Nat.ofDigitChars 10 (digits.map Utf8.asciiChar) value) else none) := by
  induction digits generalizing value with
  | nil => simp [tryFold]
  | cons byte rest ih =>
    have room : 1 ≤ 10 ^ rest.length := Nat.one_le_pow _ _ (by decide)
    have all : (value + 1) * 10 * 10 ^ rest.length ≤ 2 ^ 32 := by
      rw [Nat.mul_assoc, ← Nat.pow_succ']
      exact fits
    have here : (value + 1) * 10 ≤ 2 ^ 32 := Nat.le_trans (Nat.le_mul_of_pos_right _ room) all
    rw [tryFold, pushDigit_eq byte here]
    by_cases digit : isAsciiDigit byte
    · have range := isAsciiDigit_iff.mp digit
      have next : (10 * value + (byte.toNat - 48) + 1) * 10 ^ rest.length ≤ 2 ^ 32 :=
        Nat.le_trans (Nat.mul_le_mul_right _ (by omega)) all
      have code : (Utf8.asciiChar byte).toNat = byte.toNat := Utf8.toNat_asciiChar (by omega)
      rw [if_pos digit, code]
      have rest := ih next
      simp only [checked_ok_bind]
      simp [digit, Nat.ofDigitChars_cons, code, rest]
    · simp [digit]
      rfl

theorem isDigit_ascii (digit : c.isDigit) : c.toNat < 128 := by
  have range := isDigit_iff.mp digit
  omega

theorem isAsciiDigit_ascii (digit : isAsciiDigit byte) : byte.toNat < 128 := by
  have range := isAsciiDigit_iff.mp digit
  omega

theorem encode_digits (digits : ∀ c ∈ text, c.isDigit) : Utf8.encode text = text.map Utf8.asciiByte :=
  Utf8.encode_ascii fun c mem => isDigit_ascii (digits c mem)

theorem map_asciiChar_encode (digits : ∀ c ∈ text, c.isDigit) : (Utf8.encode text).map Utf8.asciiChar = text := by
  rw [encode_digits digits, List.map_map]
  calc text.map (Utf8.asciiChar ∘ Utf8.asciiByte) = text.map id :=
        List.map_congr_left fun c mem => Utf8.asciiChar_asciiByte (isDigit_ascii (digits c mem))
    _ = text := List.map_id text

theorem all_isAsciiDigit_encode (digits : ∀ c ∈ text, c.isDigit) : (Utf8.encode text).all isAsciiDigit := by
  rw [encode_digits digits, List.all_eq_true]
  intro byte mem
  obtain ⟨c, found, rfl⟩ := List.mem_map.mp mem
  exact isAsciiDigit_asciiByte (digits c found)

/-- Bytes that are all digits are the form of the text of these digits. -/
theorem digits_of_bytes (digits : bytes.all isAsciiDigit) : Utf8.encode (bytes.map Utf8.asciiChar) = bytes ∧
      ∀ c ∈ bytes.map Utf8.asciiChar, c.isDigit := by
  rw [List.all_eq_true] at digits
  constructor
  · exact Utf8.encode_map_asciiChar fun byte mem => isAsciiDigit_ascii (digits byte mem)
  · intro c mem
    obtain ⟨byte, found, rfl⟩ := List.mem_map.mp mem
    exact isDigit_asciiChar (digits byte found)

theorem Numeral.length_encode {count : Nat} (numeral : Numeral count text value) :
    (Utf8.encode text).length = count := by
  rw [encode_digits numeral.digits, List.length_map, numeral.length]

theorem parseDigits_eq {len : Nat} (short : len ≤ 9) :
    parseDigits bytes start len = .ok ((byteRange bytes start len).bind fun digits =>
      if digits.all isAsciiDigit then some (Nat.ofDigitChars 10 (digits.map Utf8.asciiChar) 0)
      else none) := by
  rw [parseDigits]
  cases found : byteRange bytes start len with
  | none => rfl
  | some digits =>
    have length : digits.length ≤ len := by
      simp only [byteRange, Option.ite_none_right_eq_some, Option.some.injEq] at found
      rw [← found.2]
      exact List.length_take_le _ _
    have fits : (0 + 1) * 10 ^ digits.length ≤ 2 ^ 32 := by
      calc (0 + 1) * 10 ^ digits.length ≤ 10 ^ 9 := by
            rw [Nat.zero_add, Nat.one_mul]
            exact Nat.pow_le_pow_right (by decide) (Nat.le_trans length short)
        _ ≤ 2 ^ 32 := by decide
    exact tryFold_pushDigit fits

/-- A number is read at an offset exactly if the bytes from there on start with the numeral. -/
theorem parseDigits_eq_some_iff {len : Nat} (nonempty : 0 < len) (short : len ≤ 9) :
    parseDigits bytes start len = .ok (some value) ↔ ∃ text, Numeral len text value ∧
      bytes.drop start = Utf8.encode text ++ bytes.drop (start + len) := by
  rw [parseDigits_eq short, Except.ok.injEq, Option.bind_eq_some_iff]
  constructor
  · rintro ⟨digits, found, read⟩
    simp only [byteRange, Option.ite_none_right_eq_some, Option.some.injEq] at found
    simp only [Option.ite_none_right_eq_some, Option.some.injEq] at read
    obtain ⟨within, rfl⟩ := found
    obtain ⟨same, digits⟩ := digits_of_bytes read.1
    refine ⟨_, ⟨?_, digits, read.2⟩, ?_⟩
    · rw [List.length_map, List.length_take, List.length_drop]
      omega
    · rw [same, ← List.drop_drop, List.take_append_drop]
  · rintro ⟨text, numeral, split⟩
    have width := numeral.length_encode
    have lengths := congrArg List.length split
    rw [List.length_append, List.length_drop, List.length_drop, width] at lengths
    refine ⟨Utf8.encode text, ?_, ?_⟩
    · rw [byteRange, if_pos (by omega), split, List.take_left' width]
    · rw [if_pos (all_isAsciiDigit_encode numeral.digits), map_asciiChar_encode numeral.digits,
        numeral.reads]

theorem digitPair_eq (first second : UInt8) :
    digitPair first second = .ok (if isAsciiDigit first && isAsciiDigit second then
      some (Nat.ofDigitChars 10 [Utf8.asciiChar first, Utf8.asciiChar second] 0) else none) := by
  by_cases digits : (isAsciiDigit first && isAsciiDigit second) = true
  · obtain ⟨one, two⟩ := Bool.and_eq_true_iff.mp digits
    have tens := isAsciiDigit_iff.mp one
    have units := isAsciiDigit_iff.mp two
    have high : subIn first.toNat 48 = .ok (first.toNat - 48) := subIn_eq_ok tens.1
    have low : subIn second.toNat 48 = .ok (second.toNat - 48) := subIn_eq_ok units.1
    have product : mulIn 32 (first.toNat - 48) 10 = .ok ((first.toNat - 48) * 10) :=
      mulIn_eq_ok (by omega)
    have sum : addIn 32 ((first.toNat - 48) * 10) (second.toNat - 48)
        = .ok ((first.toNat - 48) * 10 + (second.toNat - 48)) := addIn_eq_ok (by omega)
    rw [digitPair, if_pos digits, if_pos digits]
    simp only [high, checked_ok_bind, product, low, sum, checked_ok_map, Nat.ofDigitChars_cons,
      Nat.ofDigitChars_nil, Utf8.toNat_asciiChar (isAsciiDigit_ascii one),
      Utf8.toNat_asciiChar (isAsciiDigit_ascii two)]
    rw [Nat.mul_comm 10, Nat.mul_comm 10]
    simp
  · rw [digitPair, if_neg digits, if_neg digits]

/-- Two digits are read exactly if they are a numeral. -/
theorem digitPair_eq_some_iff {first second : UInt8} :
    digitPair first second = .ok (some value) ↔
      ∃ text, Numeral 2 text value ∧ Utf8.encode text = [first, second] := by
  rw [digitPair_eq, Except.ok.injEq, Option.ite_none_right_eq_some, Option.some.injEq]
  constructor
  · rintro ⟨digits, reads⟩
    have all : [first, second].all isAsciiDigit := by simpa using digits
    obtain ⟨same, digits⟩ := digits_of_bytes all
    exact ⟨_, ⟨rfl, digits, reads⟩, same⟩
  · rintro ⟨text, numeral, same⟩
    have all := all_isAsciiDigit_encode numeral.digits
    have back := map_asciiChar_encode numeral.digits
    rw [same] at all back
    refine ⟨by simpa using all, ?_⟩
    rw [← numeral.reads, ← back]
    rfl

/-! ## The fraction and the time zone -/

theorem skipDigits_eq (rest : List UInt8) (position : Nat) :
    skipDigits rest position = position + (rest.takeWhile isAsciiDigit).length := by
  induction rest generalizing position with
  | nil => rfl
  | cons byte rest ih =>
    by_cases digit : isAsciiDigit byte
    · simp only [skipDigits, if_pos digit, List.takeWhile_cons_of_pos digit, List.length_cons, ih]
      omega
    · rw [skipDigits, if_neg digit, List.takeWhile_cons_of_neg digit]
      rfl

theorem drop_eq_cons_iff :
    bytes[position]? = some byte ↔ bytes.drop position = byte :: bytes.drop (position + 1) := by
  constructor
  · intro found
    obtain ⟨within, rfl⟩ := List.getElem?_eq_some_iff.mp found
    exact List.drop_eq_getElem_cons within
  · intro split
    have head := congrArg (fun rest => rest[0]?) split
    simpa using head

theorem Numeral.encode_two (numeral : Numeral 2 text value) : ∃ first second, Utf8.encode text = [first, second] :=
  List.length_eq_two.mp numeral.length_encode

/-- A time zone starts with a byte that is neither a digit nor the point of a fraction. -/
theorem Timezone.head {zone : List Char} (zoned : Timezone zone) :
    ∃ byte rest, Utf8.encode zone = byte :: rest ∧ isAsciiDigit byte = false ∧
      byte ≠ Utf8.asciiByte '.' := by
  cases zoned with
  | utc letter known | offset sign known _ _ _ _ =>
    obtain rfl | rfl := known
    all_goals exact ⟨_, _, Utf8.encode_cons_ascii (by decide) _, by decide, by decide⟩

theorem validTimezone_total (zone : Option (List UInt8)) : ∃ valid, validTimezone zone = .ok valid := by
  unfold validTimezone
  split
  · exact ⟨_, rfl⟩
  · split
    · simp only [digitPair_eq, checked_ok_bind]
      split <;> exact ⟨_, rfl⟩
    · exact ⟨_, rfl⟩
  · exact ⟨_, rfl⟩

/-- An offset is read exactly if its sign and colon are there and both its numbers are in range. -/
theorem validTimezone_offset {sign hourA hourB colon minuteA minuteB : UInt8} :
    validTimezone (some [sign, hourA, hourB, colon, minuteA, minuteB]) = .ok true ↔
      (sign = Utf8.asciiByte '+' ∨ sign = Utf8.asciiByte '-') ∧ colon = Utf8.asciiByte ':' ∧
      ∃ hour minute, digitPair hourA hourB = .ok (some hour) ∧
        digitPair minuteA minuteB = .ok (some minute) ∧ hour ≤ 23 ∧ minute ≤ 59 := by
  simp only [validTimezone]
  by_cases marks : ((sign == Utf8.asciiByte '+' || sign == Utf8.asciiByte '-') &&
      colon == Utf8.asciiByte ':') = true
  · rw [if_pos marks]
    simp only [Bool.and_eq_true, Bool.or_eq_true, beq_iff_eq] at marks
    simp only [digitPair_eq, checked_ok_bind, Except.ok.injEq]
    constructor
    · intro accepted
      refine ⟨marks.1, marks.2, ?_⟩
      split at accepted
      · rename_i hour minute hours minutes
        refine ⟨hour, minute, hours, minutes, ?_⟩
        simpa [pure, Except.pure] using accepted
      · simp [pure, Except.pure] at accepted
    · rintro ⟨-, -, hour, minute, hours, minutes, hourBound, minuteBound⟩
      rw [hours, minutes]
      simp [pure, Except.pure, hourBound, minuteBound]
  · rw [if_neg marks]
    simp only [Bool.and_eq_true, Bool.or_eq_true, beq_iff_eq] at marks
    constructor
    · intro accepted
      cases accepted
    · rintro ⟨signed, separated, -⟩
      exact absurd ⟨signed, separated⟩ marks

theorem validTimezone_iff :
    validTimezone (some rest) = .ok true ↔ ∃ zone, Timezone zone ∧ Utf8.encode zone = rest := by
  constructor
  · intro accepted
    match rest, accepted with
    | [byte], accepted =>
      simp only [validTimezone, Except.ok.injEq, Bool.or_eq_true, beq_iff_eq] at accepted
      obtain rfl | rfl := accepted
      · exact ⟨['Z'], .utc _ (.inl rfl), Utf8.encode_cons_ascii (by decide) []⟩
      · exact ⟨['z'], .utc _ (.inr rfl), Utf8.encode_cons_ascii (by decide) []⟩
    | [sign, hourA, hourB, colon, minuteA, minuteB], accepted =>
      obtain ⟨signed, rfl, hour, minute, hours, minutes, hourBound, minuteBound⟩ :=
        validTimezone_offset.mp accepted
      obtain ⟨hourText, hours, hourBytes⟩ := digitPair_eq_some_iff.mp hours
      obtain ⟨minuteText, minutes, minuteBytes⟩ := digitPair_eq_some_iff.mp minutes
      have tail : Utf8.encode (hourText ++ ':' :: minuteText)
          = [hourA, hourB, Utf8.asciiByte ':', minuteA, minuteB] := by
        rw [Utf8.encode_append, hourBytes, Utf8.encode_cons_ascii (by decide), minuteBytes]
        rfl
      obtain rfl | rfl := signed
      · exact ⟨_, .offset '+' (.inl rfl) hours minutes hourBound minuteBound,
          (Utf8.encode_cons_ascii (by decide) _).trans (congrArg _ tail)⟩
      · exact ⟨_, .offset '-' (.inr rfl) hours minutes hourBound minuteBound,
          (Utf8.encode_cons_ascii (by decide) _).trans (congrArg _ tail)⟩
  · rintro ⟨zone, zoned, rfl⟩
    cases zoned with
    | utc letter known =>
      obtain rfl | rfl := known
      · rfl
      · rfl
    | @offset sign known hourText minuteText hour minute hours minutes hourBound minuteBound =>
      obtain ⟨hourA, hourB, hourBytes⟩ := hours.encode_two
      obtain ⟨minuteA, minuteB, minuteBytes⟩ := minutes.encode_two
      have ascii : sign.toNat < 128 := by
        obtain rfl | rfl := known <;> decide
      have bytes : Utf8.encode (sign :: (hourText ++ ':' :: minuteText))
          = [Utf8.asciiByte sign, hourA, hourB, Utf8.asciiByte ':', minuteA, minuteB] := by
        rw [Utf8.encode_cons_ascii ascii, Utf8.encode_append, hourBytes,
          Utf8.encode_cons_ascii (by decide), minuteBytes]
        rfl
      rw [bytes, validTimezone_offset]
      refine ⟨?_, rfl, hour, minute, digitPair_eq_some_iff.mpr ⟨_, hours, hourBytes⟩,
        digitPair_eq_some_iff.mpr ⟨_, minutes, minuteBytes⟩, hourBound, minuteBound⟩
      obtain rfl | rfl := known
      · exact .inl rfl
      · exact .inr rfl

/-- What is skipped before the time zone is a fraction. -/
theorem fraction_of_timezoneStart (long : 20 ≤ bytes.length) (found : timezoneStart bytes = some start) :
    start ≤ bytes.length ∧ ∃ fraction, Fraction fraction ∧
      bytes.drop 19 = Utf8.encode fraction ++ bytes.drop start := by
  unfold timezoneStart at found
  split at found
  · rename_i point
    rw [beq_iff_eq, drop_eq_cons_iff] at point
    have skipped := skipDigits_eq (bytes.drop 20) 20
    simp only [Option.ite_none_left_eq_some, beq_iff_eq, Option.some.injEq] at found
    obtain ⟨moved, rfl⟩ := found
    -- The digits are the longest run of them after the point.
    have all : ((bytes.drop 20).takeWhile isAsciiDigit).all isAsciiDigit := List.all_takeWhile
    obtain ⟨after, whole⟩ := List.takeWhile_prefix isAsciiDigit (l := bytes.drop 20)
    generalize (bytes.drop 20).takeWhile isAsciiDigit = digits at all whole skipped
    obtain ⟨same, numeric⟩ := digits_of_bytes all
    have rest : bytes.drop (20 + digits.length) = after := by
      rw [← List.drop_drop, ← whole, List.drop_left]
    have lengths := congrArg List.length whole
    rw [List.length_append, List.length_drop] at lengths
    refine ⟨by omega, '.' :: digits.map Utf8.asciiChar, .present _ ?_ numeric, ?_⟩
    · intro none
      rw [List.map_eq_nil_iff] at none
      rw [none] at skipped
      exact moved skipped
    · rw [Utf8.encode_cons_ascii (by decide), same, point, skipped, rest, ← whole]
      rfl
  · obtain rfl := Option.some.inj found
    exact ⟨by omega, [], .absent, rfl⟩

/-- Before a time zone exactly the fraction is skipped. -/
theorem timezoneStart_of_fraction {fraction zone : List Char}
    (long : 20 ≤ bytes.length) (fractional : Fraction fraction) (zoned : Timezone zone)
    (split : bytes.drop 19 = Utf8.encode fraction ++ Utf8.encode zone) :
    ∃ start, timezoneStart bytes = some start ∧ start ≤ bytes.length ∧
      bytes.drop start = Utf8.encode zone := by
  obtain ⟨byte, rest, zoneBytes, notDigit, notPoint⟩ := zoned.head
  cases fractional with
  | absent =>
    have start : bytes[19]? = some byte := by
      rw [drop_eq_cons_iff, ← List.drop_drop, split, zoneBytes]
      rfl
    refine ⟨19, ?_, by omega, split⟩
    rw [timezoneStart, start, if_neg]
    simpa using notPoint
  | present digits nonempty numeric =>
    rw [Utf8.encode_cons_ascii (by decide)] at split
    have point : bytes[19]? = some (Utf8.asciiByte '.') := by
      rw [drop_eq_cons_iff, ← List.drop_drop, split]
      rfl
    have tail : bytes.drop 20 = Utf8.encode digits ++ Utf8.encode zone := by
      have step := drop_eq_cons_iff.mp point
      rw [split] at step
      exact (List.cons.inj step).2.symm
    have run : (bytes.drop 20).takeWhile isAsciiDigit = Utf8.encode digits := by
      have all := List.all_eq_true.mp (all_isAsciiDigit_encode numeric)
      rw [tail, List.takeWhile_append_of_pos all, zoneBytes,
        List.takeWhile_cons_of_neg (by simp [notDigit]), List.append_nil]
    have skipped := skipDigits_eq (bytes.drop 20) 20
    rw [run] at skipped
    have lengths := congrArg List.length tail
    rw [List.length_append, List.length_drop] at lengths
    have some : 0 < (Utf8.encode digits).length := by
      rw [encode_digits numeric, List.length_map]
      exact List.length_pos_iff.mpr nonempty
    refine ⟨20 + (Utf8.encode digits).length, ?_, by omega, ?_⟩
    · rw [timezoneStart, point, if_pos (by simp), skipped, if_neg]
      rw [beq_iff_eq]
      omega
    · rw [← List.drop_drop, tail, List.drop_left]

/-! ## The calendar -/

theorem daysInMonth_gregorian {year month : Nat} (range : 1 ≤ month ∧ month ≤ 12) :
    (gregorianMonths year)[month - 1]? = some (daysInMonth year month) := by
  have leap : (year % 400 == 0 || (year % 4 == 0 && year % 100 != 0)) = decide (GregorianLeap year) := by
    rw [Bool.eq_iff_iff]
    simp only [GregorianLeap, Bool.or_eq_true, Bool.and_eq_true, beq_iff_eq, bne_iff_ne,
      decide_eq_true_eq, Nat.dvd_iff_mod_eq_zero]
    omega
  obtain ⟨low, high⟩ := range
  interval_cases month
  all_goals simp [gregorianMonths, daysInMonth, leap]

/-- The numbers are those of a time exactly if the check of their ranges finds nothing. -/
theorem calendarTime_iff {year month day hour minute second : Nat} :
    CalendarTime year month day hour minute second ↔
      ¬ (!(1 ≤ month && month ≤ 12) || day == 0 || day > daysInMonth year month || hour > 23
        || minute > 59 || second > 60) = true := by
  simp only [Bool.or_eq_true, Bool.not_eq_true', Bool.and_eq_false_iff, decide_eq_false_iff_not,
    beq_iff_eq, decide_eq_true_eq, not_or, not_not, not_lt]
  constructor
  · rintro ⟨months, ⟨some, days, found, bound⟩, hours, minutes, seconds⟩
    rw [daysInMonth_gregorian months] at found
    obtain rfl := Option.some.inj found
    exact ⟨⟨⟨⟨⟨months, by omega⟩, bound⟩, hours⟩, minutes⟩, seconds⟩
  · rintro ⟨⟨⟨⟨⟨months, some⟩, days⟩, hours⟩, minutes⟩, seconds⟩
    exact ⟨months, ⟨by omega, _, daysInMonth_gregorian months, days⟩, hours, minutes, seconds⟩

/-! ## The whole text -/

/-- What the check has seen in bytes it accepts. -/
structure Recognized (bytes : List UInt8) (year month day hour minute second start : Nat) : Prop where
  long : 20 ≤ bytes.length
  dashBeforeMonth : bytes[4]? = some (Utf8.asciiByte '-')
  dashBeforeDay : bytes[7]? = some (Utf8.asciiByte '-')
  separator : bytes[10]? = some (Utf8.asciiByte 'T') ∨ bytes[10]? = some (Utf8.asciiByte 't')
  colonBeforeMinute : bytes[13]? = some (Utf8.asciiByte ':')
  colonBeforeSecond : bytes[16]? = some (Utf8.asciiByte ':')
  years : parseDigits bytes 0 4 = .ok (some year)
  months : parseDigits bytes 5 2 = .ok (some month)
  days : parseDigits bytes 8 2 = .ok (some day)
  hours : parseDigits bytes 11 2 = .ok (some hour)
  minutes : parseDigits bytes 14 2 = .ok (some minute)
  seconds : parseDigits bytes 17 2 = .ok (some second)
  calendar : CalendarTime year month day hour minute second
  timezone : timezoneStart bytes = some start
  zoned : validTimezone (byteTail bytes start) = .ok true

theorem parseDigits_total (bytes : List UInt8) (start : Nat) {len : Nat} (short : len ≤ 9) :
    ∃ read, parseDigits bytes start len = .ok read :=
  ⟨_, parseDigits_eq short⟩

/-- The check always comes to an answer, and accepts if it has seen all it looks for. -/
theorem validRfc3339_passed (value : List Char) :
    ∃ valid, validRfc3339 value = .ok valid ∧ (valid = true ↔
      ∃ year month day hour minute second start,
        Recognized (Utf8.encode value) year month day hour minute second start) := by
  unfold validRfc3339
  generalize Utf8.encode value = bytes
  have refused (not : ∀ year month day hour minute second start,
      ¬ Recognized bytes year month day hour minute second start) :
      ∃ valid, (.ok false : Checked Bool) = .ok valid ∧ (valid = true ↔
        ∃ year month day hour minute second start,
          Recognized bytes year month day hour minute second start) :=
    ⟨false, rfl, by simp [not]⟩
  have unread {start len value : Nat} (none : parseDigits bytes start len = .ok none)
      (read : parseDigits bytes start len = .ok (some value)) : False := by
    rw [none] at read
    cases read
  have same {start len value value' : Nat} (one : parseDigits bytes start len = .ok (some value))
      (two : parseDigits bytes start len = .ok (some value')) : value = value' := by
    rw [one] at two
    exact Option.some.inj (Except.ok.inj two)
  dsimp only
  split
  · rename_i header
    apply refused
    intro _ _ _ _ _ _ _ passed
    simp [passed.dashBeforeMonth, passed.dashBeforeDay, passed.colonBeforeMinute,
      passed.colonBeforeSecond] at header
    obtain short | ⟨notUpper, notLower⟩ := header
    · exact absurd passed.long (by omega)
    · exact passed.separator.elim notUpper notLower
  rename_i header
  simp only [Bool.or_eq_true, decide_eq_true_eq, bne_iff_ne, Bool.not_eq_true',
    Bool.or_eq_false_iff, not_or, not_lt, not_not, beq_eq_false_iff_ne, ne_eq, not_and_or] at header
  obtain ⟨⟨⟨⟨⟨long, dashBeforeMonth⟩, dashBeforeDay⟩, separator⟩, colonBeforeMinute⟩,
    colonBeforeSecond⟩ := header
  obtain ⟨year?, years⟩ := parseDigits_total bytes 0 (show 4 ≤ 9 by decide)
  obtain ⟨month?, months⟩ := parseDigits_total bytes 5 (show 2 ≤ 9 by decide)
  obtain ⟨day?, days⟩ := parseDigits_total bytes 8 (show 2 ≤ 9 by decide)
  obtain ⟨hour?, hours⟩ := parseDigits_total bytes 11 (show 2 ≤ 9 by decide)
  obtain ⟨minute?, minutes⟩ := parseDigits_total bytes 14 (show 2 ≤ 9 by decide)
  obtain ⟨second?, seconds⟩ := parseDigits_total bytes 17 (show 2 ≤ 9 by decide)
  simp only [years, months, days, hours, minutes, seconds, checked_ok_bind]
  -- Each number that is not read ends the check.
  match year?, month?, day?, hour?, minute?, second? with
  | none, _, _, _, _, _ => exact refused fun _ _ _ _ _ _ _ passed => unread years passed.years
  | some _, none, _, _, _, _ => exact refused fun _ _ _ _ _ _ _ passed => unread months passed.months
  | some _, some _, none, _, _, _ => exact refused fun _ _ _ _ _ _ _ passed => unread days passed.days
  | some _, some _, some _, none, _, _ =>
    exact refused fun _ _ _ _ _ _ _ passed => unread hours passed.hours
  | some _, some _, some _, some _, none, _ =>
    exact refused fun _ _ _ _ _ _ _ passed => unread minutes passed.minutes
  | some _, some _, some _, some _, some _, none =>
    exact refused fun _ _ _ _ _ _ _ passed => unread seconds passed.seconds
  | some year, some month, some day, some hour, some minute, some second =>
    have numbers {year' month' day' hour' minute' second' start : Nat}
        (passed : Recognized bytes year' month' day' hour' minute' second' start) :
        CalendarTime year month day hour minute second := by
      obtain ⟨rfl, rfl, rfl, rfl, rfl, rfl⟩ := And.intro (same years passed.years) <|
        And.intro (same months passed.months) <| And.intro (same days passed.days) <|
        And.intro (same hours passed.hours) <| And.intro (same minutes passed.minutes) <|
        same seconds passed.seconds
      exact passed.calendar
    dsimp only
    split
    · rename_i outside
      apply refused
      intro _ _ _ _ _ _ _ passed
      exact calendarTime_iff.mp (numbers passed) outside
    · rename_i inside
      have calendar := calendarTime_iff.mpr inside
      cases timezone : timezoneStart bytes with
      | none =>
        apply refused
        intro _ _ _ _ _ _ _ passed
        have found := passed.timezone
        rw [timezone] at found
        cases found
      | some start =>
        obtain ⟨valid, zoned⟩ := validTimezone_total (byteTail bytes start)
        refine ⟨valid, zoned, ?_, ?_⟩
        · rintro rfl
          exact ⟨year, month, day, hour, minute, second, start, long, dashBeforeMonth, dashBeforeDay,
            separator, colonBeforeMinute, colonBeforeSecond, years, months, days, hours, minutes,
            seconds, calendar, timezone, zoned⟩
        · rintro ⟨_, _, _, _, _, _, start', passed⟩
          have found := passed.timezone
          rw [timezone] at found
          obtain rfl := Option.some.inj found
          have accepted := passed.zoned
          rw [zoned] at accepted
          exact Except.ok.inj accepted

theorem Recognized.rfc3339 {year month day hour minute second : Nat}
    (passed : Recognized bytes year month day hour minute second start) :
    ∃ text, Rfc3339 text ∧ Utf8.encode text = bytes := by
  obtain ⟨yearText, years, at0⟩ :=
    (parseDigits_eq_some_iff (by decide) (by decide)).mp passed.years
  obtain ⟨monthText, months, at5⟩ :=
    (parseDigits_eq_some_iff (by decide) (by decide)).mp passed.months
  obtain ⟨dayText, days, at8⟩ :=
    (parseDigits_eq_some_iff (by decide) (by decide)).mp passed.days
  obtain ⟨hourText, hours, at11⟩ :=
    (parseDigits_eq_some_iff (by decide) (by decide)).mp passed.hours
  obtain ⟨minuteText, minutes, at14⟩ :=
    (parseDigits_eq_some_iff (by decide) (by decide)).mp passed.minutes
  obtain ⟨secondText, seconds, at17⟩ :=
    (parseDigits_eq_some_iff (by decide) (by decide)).mp passed.seconds
  obtain ⟨within, fraction, fractional, at19⟩ :=
    fraction_of_timezoneStart passed.long passed.timezone
  have zoned := passed.zoned
  rw [byteTail, if_pos within] at zoned
  obtain ⟨zone, zoned, atStart⟩ := validTimezone_iff.mp zoned
  obtain ⟨separator, known, ascii, at10⟩ : ∃ separator, (separator = 'T' ∨ separator = 't') ∧
      separator.toNat < 128 ∧ bytes[10]? = some (Utf8.asciiByte separator) := by
    obtain upper | lower := passed.separator
    · exact ⟨'T', .inl rfl, by decide, upper⟩
    · exact ⟨'t', .inr rfl, by decide, lower⟩
  refine ⟨_, .intro separator years months days known hours minutes seconds passed.calendar
    fractional zoned, ?_⟩
  have dash : '-'.toNat < 128 := by decide
  have colon : ':'.toNat < 128 := by decide
  simp only [Utf8.encode_append, Utf8.encode_cons_ascii dash, Utf8.encode_cons_ascii colon,
    Utf8.encode_cons_ascii ascii]
  rw [atStart, ← at19, ← at17, ← drop_eq_cons_iff.mp passed.colonBeforeSecond, ← at14,
    ← drop_eq_cons_iff.mp passed.colonBeforeMinute, ← at11, ← drop_eq_cons_iff.mp at10, ← at8,
    ← drop_eq_cons_iff.mp passed.dashBeforeDay, ← at5,
    ← drop_eq_cons_iff.mp passed.dashBeforeMonth, ← at0]
  rfl

theorem Numeral.drop {bytes : List UInt8} {count : Nat} (numeral : Numeral count text value)
    (split : bytes.drop position = Utf8.encode text ++ rest) : bytes.drop (position + count) = rest := by
  rw [← List.drop_drop, split, List.drop_left' numeral.length_encode]

/-- A numeral at an offset is read there. -/
theorem Numeral.parseDigits {bytes : List UInt8} {count : Nat} (numeral : Numeral count text value)
    (nonempty : 0 < count) (short : count ≤ 9) (split : bytes.drop position = Utf8.encode text ++ rest) :
    parseDigits bytes position count = .ok (some value) := by
  rw [parseDigits_eq_some_iff nonempty short]
  refine ⟨text, numeral, ?_⟩
  rw [numeral.drop split, split]

/-- A byte at an offset is found there, and the next offset has what follows it. -/
theorem drop_cons {bytes : List UInt8} (split : bytes.drop position = byte :: rest) :
    bytes[position]? = some byte ∧ bytes.drop (position + 1) = rest := by
  have after : bytes.drop (position + 1) = rest := by
    rw [← List.drop_drop, split]
    rfl
  refine ⟨?_, after⟩
  rw [drop_eq_cons_iff, after, split]

theorem Rfc3339.passed (stamp : Rfc3339 text) : ∃ year month day hour minute second start,
      Recognized (Utf8.encode text) year month day hour minute second start := by
  obtain ⟨separator, years, months, days, known, hours, minutes, seconds, calendar, fractional,
    zoned⟩ := stamp
  have ascii : separator.toNat < 128 := by
    obtain rfl | rfl := known <;> decide
  have dash : '-'.toNat < 128 := by decide
  have colon : ':'.toNat < 128 := by decide
  simp only [Utf8.encode_append, Utf8.encode_cons_ascii dash, Utf8.encode_cons_ascii colon,
    Utf8.encode_cons_ascii ascii]
  generalize whole : Utf8.encode _ ++ _ = bytes
  have at0 : bytes.drop 0 = _ := whole.symm
  obtain ⟨dashBeforeMonth, at5⟩ := drop_cons (years.drop at0)
  obtain ⟨dashBeforeDay, at8⟩ := drop_cons (months.drop at5)
  obtain ⟨mark, at11⟩ := drop_cons (days.drop at8)
  obtain ⟨colonBeforeMinute, at14⟩ := drop_cons (hours.drop at11)
  obtain ⟨colonBeforeSecond, at17⟩ := drop_cons (minutes.drop at14)
  have at19 := seconds.drop at17
  have long : 20 ≤ bytes.length := by
    obtain ⟨byte, rest, zoneBytes, -⟩ := zoned.head
    have lengths := congrArg List.length at19
    rw [zoneBytes, List.length_drop, List.length_append, List.length_cons] at lengths
    omega
  obtain ⟨start, timezone, within, atStart⟩ := timezoneStart_of_fraction long fractional zoned at19
  have accepted : validTimezone (byteTail bytes start) = .ok true := by
    rw [byteTail, if_pos within, atStart]
    exact validTimezone_iff.mpr ⟨_, zoned, rfl⟩
  have separated : bytes[10]? = some (Utf8.asciiByte 'T') ∨ bytes[10]? = some (Utf8.asciiByte 't') := by
    obtain rfl | rfl := known
    · exact .inl mark
    · exact .inr mark
  exact ⟨_, _, _, _, _, _, start, long, dashBeforeMonth, dashBeforeDay, separated,
    colonBeforeMinute, colonBeforeSecond, years.parseDigits (by decide) (by decide) at0,
    months.parseDigits (by decide) (by decide) at5, days.parseDigits (by decide) (by decide) at8,
    hours.parseDigits (by decide) (by decide) at11,
    minutes.parseDigits (by decide) (by decide) at14,
    seconds.parseDigits (by decide) (by decide) at17, calendar, timezone, accepted⟩

/-- The check comes to an answer on every text, without a panic, and accepts exactly the timestamps
of the grammar. -/
theorem validRfc3339_iff (value : List Char) :
    ∃ valid, validRfc3339 value = .ok valid ∧ (valid = true ↔ Rfc3339 value) := by
  obtain ⟨valid, answered, accepts⟩ := validRfc3339_passed value
  refine ⟨valid, answered, ?_⟩
  rw [accepts]
  constructor
  · rintro ⟨_, _, _, _, _, _, _, passed⟩
    obtain ⟨text, stamp, same⟩ := passed.rfc3339
    rw [← Utf8.encode_injective same]
    exact stamp
  · intro stamp
    exact stamp.passed

example : validRfc3339 "2024-02-29T23:59:60.123-08:00".toList = .ok true := by decide +kernel

example : validRfc3339 "1900-02-29t00:00:00z".toList = .ok false := by decide +kernel

end Codebox.Cloud
