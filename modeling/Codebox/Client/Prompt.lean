import Codebox.ControlPlane.Body
import Codebox.Support.Utf16

/-! # Prompts in the browser and on the server

The browser checks a prompt before it sends it, on the code units of a script string and with the
white space of its regular expressions; the server decodes the body it gets and checks the text with
the white space of Unicode. A prompt that passes here passes there unless it holds half a surrogate
pair, which the body can only carry as an escape that the server refuses, or nothing but white space
with the one character that only the server counts as such.
-/

namespace Codebox.Client

open Codebox.Support
open Utf16 (Point points)

def promptLimit : Nat := 32 * 1024

def bodyLimit : Nat := 40 * 1024

/-- The class `\s` of regular expressions, on one point. -/
def matchesSpace : Point → Bool
  | .lone _ => false
  | .scalar c =>
      let n := c.toNat
      (0x09 ≤ n && n ≤ 0x0D) || n == 0x20 || n == 0xA0 || n == 0x1680 || (0x2000 ≤ n && n ≤ 0x200A) || n == 0x2028 ||
        n == 0x2029 || n == 0x202F || n == 0x205F || n == 0x3000 || n == 0xFEFF

def codePoint : Point → Nat
  | .scalar c => c.toNat
  | .lone unit => unit.toNat

def isControl (point : Point) : Bool :=
  let code := codePoint point
  (code ≤ 0x1F && code != 0x09 && code != 0x0A) || code == 0x7F

/-- The encoder puts the replacement character in the place of a lone surrogate. -/
def toScalar : Point → Char
  | .scalar c => c
  | .lone _ => Char.ofNat 0xFFFD

def encodeText (units : List UInt16) : List UInt8 := Utf8.encode ((points units).map toScalar)

def hexDigit (n : Nat) : Char := if n < 10 then Char.ofNat (48 + n) else Char.ofNat (87 + n)

def unicodeEscape (value : Nat) : List Char :=
  ['\\', 'u', hexDigit (value / 4096 % 16), hexDigit (value / 256 % 16), hexDigit (value / 16 % 16), hexDigit (value % 16)]

/-- A point in a string that `JSON.stringify` writes. -/
def quote : Point → List Char
  | .lone unit => unicodeEscape unit.toNat
  | .scalar c =>
      if c.toNat = 8 then ['\\', 'b']
      else if c.toNat = 9 then ['\\', 't']
      else if c.toNat = 10 then ['\\', 'n']
      else if c.toNat = 12 then ['\\', 'f']
      else if c.toNat = 13 then ['\\', 'r']
      else if c.toNat = 34 then ['\\', '"']
      else if c.toNat = 92 then ['\\', '\\']
      else if c.toNat < 32 then unicodeEscape c.toNat
      else [c]

def bodyStart : List Char := "\x7b\"prompt\":\"".toList

def bodyEnd : List Char := "\"\x7d".toList

/-- The body with the prompt as its one field. -/
def stringify (prompt : List UInt16) : List Char := bodyStart ++ (points prompt).flatMap quote ++ bodyEnd

def validPromptBody (prompt : List UInt16) : Option (List Char) :=
  if prompt.length = 0 ∨ prompt = [45] ∨ (points prompt).all matchesSpace ∨ (points prompt).any isControl then none
  else if promptLimit < (encodeText prompt).length then none
  else
    let body := stringify prompt
    if (Utf8.encode body).length ≤ bodyLimit then some body else none

/-! ## What the server reads -/

open ControlPlane (Bytes decodeStartTurn maxBodyBytes readBoundedBody startTurnPrompt)
open ControlPlane.Json

theorem push_push (first second : Bytes) (read : Option (Bytes × Bytes)) :
    push first (push second read) = push (first ++ second) read := by
  cases read <;> simp [push]

theorem push_nil (read : Option (Bytes × Bytes)) : push [] read = read := by
  cases read <;> rfl

/-- Bytes that a string may hold as they are. -/
def Raw (byte : UInt8) : Prop := byte ≠ 34 ∧ byte ≠ 92 ∧ ¬ byte.toNat < 32

theorem scan_raw {bytes : Bytes} (raw : ∀ byte ∈ bytes, Raw byte) (rest : Bytes) :
    scan .text (bytes ++ rest) = push bytes (scan .text rest) := by
  induction bytes with
  | nil => rw [List.nil_append, push_nil]
  | cons byte bytes ih =>
      obtain ⟨quoted, escaped, visible⟩ := raw byte List.mem_cons_self
      have tail := ih fun other mem => raw other (List.mem_cons_of_mem _ mem)
      rw [List.cons_append, scan, if_neg quoted, if_neg escaped, if_neg visible, tail, push_push]
      rfl

variable {n value : Nat} {prompt : List UInt16} {text body : List Char}

theorem hexValue_hexDigit (small : n < 16) : hexValue (Utf8.asciiByte (hexDigit n)) = some n := by
  revert n
  decide

theorem hexDigit_ascii (small : n < 16) : (hexDigit n).toNat < 128 := by
  revert n
  decide

/-- The bytes of an escaped number. -/
def escapeBytes (value : Nat) : Bytes :=
  [92, 117, Utf8.asciiByte (hexDigit (value / 4096 % 16)), Utf8.asciiByte (hexDigit (value / 256 % 16)),
    Utf8.asciiByte (hexDigit (value / 16 % 16)), Utf8.asciiByte (hexDigit (value % 16))]

theorem encode_unicodeEscape (value : Nat) : Utf8.encode (unicodeEscape value) = escapeBytes value := by
  have digit (n : Nat) : (hexDigit (n % 16)).toNat < 128 := hexDigit_ascii (Nat.mod_lt _ (by decide))
  apply Utf8.encode_ascii
  intro c mem
  simp only [unicodeEscape, List.mem_cons, List.not_mem_nil, or_false] at mem
  rcases mem with rfl | rfl | rfl | rfl | rfl | rfl
  · decide
  · decide
  all_goals exact digit _

/-- How the reader goes on after an escaped number. -/
def goOn (rest : Bytes) : Escaped → Option (Bytes × Bytes)
  | .char c => push (String.utf8EncodeChar c) (scan .text rest)
  | .half high => scan (.pair high) rest
  | .refused => none

theorem scan_hex {high : Option Nat} (small : value < 65536) (rest : Bytes) :
    scan (.hex high 4 0) ((escapeBytes value).drop 2 ++ rest) = goOn rest (escaped high value) := by
  have digit (n : Nat) : hexValue (Utf8.asciiByte (hexDigit (n % 16))) = some (n % 16) :=
    hexValue_hexDigit (Nat.mod_lt _ (by decide))
  have whole : (((0 * 16 + value / 4096 % 16) * 16 + value / 256 % 16) * 16 + value / 16 % 16) * 16 + value % 16 = value := by
    omega
  simp only [escapeBytes, List.drop_succ_cons, List.drop_zero, List.cons_append, List.nil_append, scan, digit]
  simp only [Nat.reduceLT, if_true, Nat.reduceSub, Nat.lt_irrefl, if_false, whole]
  cases escaped high value <;> rfl

theorem scan_escape (small : value < 65536) (rest : Bytes) :
    scan .text (escapeBytes value ++ rest) = goOn rest (escaped none value) :=
  scan_hex small rest

/-- A character that is written as it is. -/
theorem raw_encodeChar {c : Char} (quoted : c.toNat ≠ 34) (escaped : c.toNat ≠ 92) (visible : ¬ c.toNat < 32) :
    ∀ byte ∈ String.utf8EncodeChar c, Raw byte := by
  intro byte mem
  unfold Raw
  rw [ne_eq, ne_eq, ← UInt8.toNat_inj, ← UInt8.toNat_inj]
  by_cases ascii : c.toNat < 128
  · rw [Utf8.utf8EncodeChar_ascii ascii, List.mem_singleton] at mem
    rw [mem, Utf8.toNat_asciiByte ascii]
    exact ⟨quoted, escaped, visible⟩
  · have wide := Utf8.le_of_mem_utf8EncodeChar (Nat.le_of_not_lt ascii) mem
    have other : byte.toNat ≠ 34 ∧ byte.toNat ≠ 92 ∧ ¬ byte.toNat < 32 := by omega
    exact other

/-- The server reads a written character back. -/
theorem scan_quote (c : Char) (rest : Bytes) :
    scan .text (Utf8.encode (quote (.scalar c)) ++ rest) = push (String.utf8EncodeChar c) (scan .text rest) := by
  have back {n : Nat} (same : c.toNat = n) : c = Char.ofNat n := by rw [← same, Char.ofNat_toNat]
  simp only [quote]
  split_ifs with h8 h9 h10 h12 h13 h34 h92 control
  · rw [back h8]; rfl
  · rw [back h9]; rfl
  · rw [back h10]; rfl
  · rw [back h12]; rfl
  · rw [back h13]; rfl
  · rw [back h34]; rfl
  · rw [back h92]; rfl
  · have plain : escaped none c.toNat = .char c := by
      rw [escaped, if_neg (by omega), if_neg (by omega), Char.ofNat_toNat]
    rw [encode_unicodeEscape, scan_escape (by omega), plain]
    rfl
  · have one : Utf8.encode [c] = String.utf8EncodeChar c := by simp [Utf8.encode]
    rw [one, scan_raw (raw_encodeChar h34 h92 control)]

theorem scan_quotes (text : List Char) (rest : Bytes) :
    scan .text (Utf8.encode ((text.map Point.scalar).flatMap quote) ++ rest) = push (Utf8.encode text) (scan .text rest) := by
  induction text with
  | nil => exact (push_nil _).symm
  | cons c text ih =>
      rw [List.map_cons, List.flatMap_cons, Utf8.encode_append, List.append_assoc, scan_quote, ih, push_push, Utf8.encode_cons]

/-! ## Whether the server accepts what the browser sends -/

theorem encode_bodyStart : Utf8.encode bodyStart = [123, 34, 112, 114, 111, 109, 112, 116, 34, 58, 34] := by decide +kernel

theorem encode_bodyEnd : Utf8.encode bodyEnd = [34, 125] := by decide +kernel

theorem encode_stringify (prompt : List UInt16) : Utf8.encode (stringify prompt) =
    [123, 34, 112, 114, 111, 109, 112, 116, 34, 58, 34] ++ (Utf8.encode ((points prompt).flatMap quote) ++ [34, 125]) := by
  rw [stringify, Utf8.encode_append, Utf8.encode_append, encode_bodyStart, encode_bodyEnd, List.append_assoc]

theorem readString_key (rest : Bytes) :
    readString ([34, 112, 114, 111, 109, 112, 116, 34] ++ rest) = some ("prompt".toList, rest) := by
  have name : Utf8.decode [112, 114, 111, 109, 112, 116] = some "prompt".toList :=
    Utf8.decode_eq_some_iff.mpr (by decide +kernel)
  have read : scan .text ([112, 114, 111, 109, 112, 116, 34] ++ rest) = some ([112, 114, 111, 109, 112, 116], rest) := rfl
  rw [List.cons_append, readString, if_pos rfl, read, Option.bind_some]
  dsimp only
  rw [name]
  rfl

/-- The server reads the field of a body. -/
theorem decodeStartTurn_stringify (prompt : List UInt16) :
    decodeStartTurn (Utf8.encode (stringify prompt)) =
      (readString (34 :: (Utf8.encode ((points prompt).flatMap quote) ++ [34, 125]))).bind fun (text, rest) =>
        finish 125 text rest := by
  generalize content : Utf8.encode ((points prompt).flatMap quote) ++ [34, 125] = bytes
  have opened : decodeStartTurn ([123, 34, 112, 114, 111, 109, 112, 116, 34, 58, 34] ++ bytes) =
      (readString ([34, 112, 114, 111, 109, 112, 116, 34] ++ 58 :: 34 :: bytes)).bind fun (key, rest) =>
        if key = "prompt".toList then
          (expect 58 rest).bind fun rest => (readString (skipBlanks rest)).bind fun (text, rest) => finish 125 text rest
        else none := rfl
  have colon : expect 58 (58 :: 34 :: bytes) = some (34 :: bytes) := rfl
  have blanks : skipBlanks (34 :: bytes) = 34 :: bytes := rfl
  rw [encode_stringify, content, opened, readString_key, Option.bind_some]
  dsimp only
  rw [if_pos rfl, colon, Option.bind_some, blanks]

theorem decode_of_text (read : points prompt = text.map Point.scalar) :
    decodeStartTurn (Utf8.encode (stringify prompt)) = some text := by
  have content : scan .text (Utf8.encode ((text.map Point.scalar).flatMap quote) ++ [34, 125]) =
      some (Utf8.encode text, [125]) := by
    rw [scan_quotes]
    simp [scan, push]
  rw [decodeStartTurn_stringify, read]
  simp only [readString, if_true, content, Option.bind_some, Utf8.decode_encode, Option.map_some]
  rfl

/-- What is asked of the reader of JSON: it reads back what the browser writes. -/
structure ReadsPrompts (decode : Bytes → Option (List Char)) : Prop where
  reads : ∀ prompt text, points prompt = text.map Point.scalar → decode (Utf8.encode (stringify prompt)) = some text

theorem decodeStartTurn_readsPrompts : ReadsPrompts decodeStartTurn := ⟨fun _ _ => decode_of_text⟩

theorem text_of_whole {list : List Point} (whole : ∀ unit, Point.lone unit ∉ list) :
    ∃ text : List Char, list = text.map Point.scalar := by
  induction list with
  | nil => exact ⟨[], rfl⟩
  | cons point list ih =>
      obtain ⟨text, same⟩ := ih fun unit mem => whole unit (List.mem_cons_of_mem _ mem)
      cases point with
      | scalar c => exact ⟨c :: text, by rw [same]; rfl⟩
      | lone unit => exact absurd List.mem_cons_self (whole unit)

/-- What the browser has checked. -/
structure Checked (prompt : List UInt16) (body : List Char) : Prop where
  body : body = stringify prompt
  bounded : (Utf8.encode (stringify prompt)).length ≤ bodyLimit
  free : prompt ≠ [45]
  plain : ∀ point ∈ points prompt, isControl point = false
  short : (encodeText prompt).length ≤ promptLimit

theorem checked_of_valid (valid : validPromptBody prompt = some body) : Checked prompt body := by
  unfold validPromptBody at valid
  dsimp only at valid
  split_ifs at valid with refused long bounded
  cases valid
  simp only [not_or] at refused
  obtain ⟨-, free, -, plain⟩ := refused
  refine ⟨rfl, bounded, free, ?_, Nat.not_lt.mp long⟩
  simpa only [List.any_eq_true, not_exists, not_and, Bool.not_eq_true] using plain

/-- The text of a prompt with a visible character is accepted. -/
theorem promptText_of_checked (checked : Checked prompt body) (read : points prompt = text.map Point.scalar)
    (visible : ∃ c ∈ text, Cloud.isWhitespace c = false) : Cloud.PromptText text where
  visible := visible
  bounded := by
    have short := checked.short
    rw [encodeText, read, List.map_map] at short
    have same : text.map (toScalar ∘ Point.scalar) = text := List.map_id text
    rw [same] at short
    exact Nat.le_trans short (by decide)
  free := by
    rintro rfl
    exact checked.free (Utf16.encode_eq_iff.mpr read).symm
  plain := by
    apply Cloud.refusedByte_encode
    intro c mem
    have plain := checked.plain (.scalar c) (by rw [read]; exact List.mem_map_of_mem mem)
    have kept : ¬ ((codePoint (.scalar c) ≤ 0x1F ∧ codePoint (.scalar c) ≠ 0x09 ∧ codePoint (.scalar c) ≠ 0x0A) ∨
        codePoint (.scalar c) = 0x7F) := by
      simpa [isControl, and_assoc] using plain
    simp only [codePoint] at kept
    omega

/-- The prompt that the server gets is the text that was typed. -/
def ReceivedAs (decode : Bytes → Option (List Char)) (prompt : List UInt16) (declared : Option Nat) (body : List Char) :
    Prop :=
  ∃ text, Utf16.encode text = prompt ∧ startTurnPrompt decode declared (Utf8.encode body) = .ok ⟨text⟩

/-- A prompt that the browser lets through arrives as it is exactly if it has no half of a surrogate pair and a character
that is not white space. -/
theorem prompt_received_iff {decode : Bytes → Option (List Char)} (json : ReadsPrompts decode) {prompt : List UInt16}
    {body : List Char} {declared : Option Nat} (valid : validPromptBody prompt = some body)
    (exact_ : ∀ length ∈ declared, length = (Utf8.encode body).length) :
    ReceivedAs decode prompt declared body ↔ (∀ unit, Point.lone unit ∉ points prompt) ∧
      ∃ c, Point.scalar c ∈ points prompt ∧ Cloud.isWhitespace c = false := by
  have checked := checked_of_valid valid
  have same := checked.body
  subst same
  have small : readBoundedBody declared (Utf8.encode (stringify prompt)) = .ok (Utf8.encode (stringify prompt)) := by
    have fits : ¬ maxBodyBytes < (Utf8.encode (stringify prompt)).length := Nat.not_lt.mpr checked.bounded
    have announced : ¬ declared.any (maxBodyBytes < ·) = true := by
      cases declared with
      | none => exact Bool.false_ne_true
      | some length =>
          rw [exact_ length rfl, Option.any_some, decide_eq_true_eq]
          exact fits
    rw [readBoundedBody, if_neg announced, if_neg fits]
  constructor
  · rintro ⟨text, typed, accepted⟩
    have read := Utf16.encode_eq_iff.mp typed
    refine ⟨?_, ?_⟩
    · intro unit mem
      rw [read] at mem
      obtain ⟨c, -, same⟩ := List.mem_map.mp mem
      cases same
    · simp only [startTurnPrompt, small, json.reads _ _ read] at accepted
      split at accepted
      · cases accepted
      · rename_i prompt' tried
        obtain ⟨⟨⟨c, mem, visible⟩, -⟩, -⟩ := Cloud.tryNew_eq_ok_iff.mp tried
        exact ⟨c, by rw [read]; exact List.mem_map_of_mem mem, visible⟩
  · rintro ⟨whole, c, mem, visible⟩
    obtain ⟨text, read⟩ := text_of_whole whole
    rw [read] at mem
    obtain ⟨c', inside, same⟩ := List.mem_map.mp mem
    cases same
    have tried := Cloud.tryNew_eq_ok_iff.mpr ⟨promptText_of_checked checked read ⟨c, inside, visible⟩, rfl⟩
    refine ⟨text, Utf16.encode_eq_iff.mpr read, ?_⟩
    simp only [startTurnPrompt, small, json.reads _ _ read, tried]

theorem greeting_received :
    validPromptBody [104, 105] = some (stringify [104, 105]) ∧
      ReceivedAs decodeStartTurn [104, 105] none (stringify [104, 105]) := by
  have valid : validPromptBody [104, 105] = some (stringify [104, 105]) := by decide +kernel
  have read : points [104, 105] = [.scalar 'h', .scalar 'i'] := by decide +kernel
  have announced : ∀ length ∈ (none : Option Nat), length = (Utf8.encode (stringify [104, 105])).length := by
    intro length mem
    cases mem
  refine ⟨valid, (prompt_received_iff decodeStartTurn_readsPrompts valid announced).mpr ⟨?_, 'h', ?_, by decide +kernel⟩⟩
  · intro unit
    simp [read]
  · simp [read]

/-- Half a surrogate pair makes a body that does not decode, and a next line character a prompt that is refused as empty. -/
theorem half_pair_and_next_line_refused :
    (∃ body, validPromptBody [0xD800] = some body ∧
        startTurnPrompt decodeStartTurn none (Utf8.encode body) = .error .undecodable) ∧
      ∃ body, validPromptBody [0x85] = some body ∧
        startTurnPrompt decodeStartTurn none (Utf8.encode body) = .error (.api .invalidValue) := by
  have half : (validPromptBody [0xD800]).map (fun body => startTurnPrompt decodeStartTurn none (Utf8.encode body)) =
      some (.error .undecodable) := by decide +kernel
  have line : (validPromptBody [0x85]).map (fun body => startTurnPrompt decodeStartTurn none (Utf8.encode body)) =
      some (.error (.api .invalidValue)) := by decide +kernel
  exact ⟨Option.map_eq_some_iff.mp half, Option.map_eq_some_iff.mp line⟩

end Codebox.Client
