import Mathlib.Data.List.Basic

/-! # Texts and their bytes

A text is a list of characters, and its UTF-8 form a list of bytes. Decoding is the core library's,
read on lists. A character below `0x80` is the one byte of the same number, so a text can be found
again in bytes that are all below `0x80`.
-/

namespace Codebox.Support.Utf8

/-- The bytes of a text. -/
def encode (text : List Char) : List UInt8 := text.flatMap String.utf8EncodeChar

/-- The text that some bytes are the form of, if they are well formed. -/
def decode (bytes : List UInt8) : Option (List Char) :=
  bytes.toByteArray.utf8Decode?.map Array.toList

def isAsciiControl (byte : UInt8) : Bool := byte < 0x20 || byte == 0x7F

variable {byte : UInt8} {text : List Char} {bytes : List UInt8} {c : Char}

theorem isAsciiControl_eq_false : isAsciiControl byte = false ↔ 0x20 ≤ byte.toNat ∧ byte.toNat ≠ 0x7F := by
  simp [isAsciiControl, UInt8.le_iff_toNat_le, ← UInt8.toNat_inj]

@[simp]
theorem encode_nil : encode [] = [] := rfl

@[simp]
theorem encode_append (first second : List Char) :
    encode (first ++ second) = encode first ++ encode second := by
  simp [encode]

theorem encode_cons (c : Char) (text : List Char) :
    encode (c :: text) = String.utf8EncodeChar c ++ encode text := by
  simp [encode]

@[simp]
theorem decode_encode (text : List Char) : decode (encode text) = some text := by
  have decoded : (encode text).toByteArray.utf8Decode? = some text.toArray :=
    List.utf8Decode?_utf8Encode
  simp [decode, decoded]

theorem decode_eq_some_iff : decode bytes = some text ↔ encode text = bytes := by
  constructor
  · intro decoded
    obtain ⟨chars, read, rfl⟩ := Option.map_eq_some_iff.mp decoded
    obtain ⟨source, same⟩ := ByteArray.isSome_utf8Decode?_iff.mp (Option.isSome_of_eq_some read)
    have bytesEq : encode source = bytes := (List.toByteArray_inj.mp same).symm
    have again : decode bytes = some source := bytesEq ▸ decode_encode source
    rw [decoded] at again
    rw [Option.some.inj again]
    exact bytesEq
  · rintro rfl
    exact decode_encode text

theorem encode_injective : Function.Injective encode := by
  intro first second same
  have read := decode_encode first
  rw [same, decode_encode] at read
  exact (Option.some.inj read).symm

/-! ## ASCII -/

/-- The byte of an ASCII character. -/
def asciiByte (c : Char) : UInt8 := UInt8.ofNat c.toNat

/-- The character of a byte below `0x80`. -/
def asciiChar (byte : UInt8) : Char := Char.ofNat byte.toNat

theorem utf8EncodeChar_ascii (ascii : c.toNat < 128) : String.utf8EncodeChar c = [asciiByte c] := by
  have size : c.utf8Size = 1 := by
    have small : c.val ≤ 0x7F := by
      rw [UInt32.le_iff_toNat_le]
      exact Nat.le_of_lt_succ ascii
    simp [Char.utf8Size, small]
  rw [String.utf8EncodeChar_eq_singleton size]
  rfl

theorem encode_cons_ascii (ascii : c.toNat < 128) (text : List Char) :
    encode (c :: text) = asciiByte c :: encode text := by
  rw [encode_cons, utf8EncodeChar_ascii ascii]
  rfl

/-- An ASCII text has one byte for each character. -/
theorem encode_ascii (ascii : ∀ c ∈ text, c.toNat < 128) : encode text = text.map asciiByte := by
  induction text with
  | nil => rfl
  | cons c text ih =>
    have rest := ih fun d mem => ascii d (List.mem_cons_of_mem _ mem)
    rw [encode_cons_ascii (ascii c List.mem_cons_self), rest]
    rfl

theorem toNat_asciiByte (ascii : c.toNat < 128) : (asciiByte c).toNat = c.toNat := by
  rw [asciiByte, UInt8.toNat_ofNat']
  omega

theorem toNat_asciiChar (ascii : byte.toNat < 128) : (asciiChar byte).toNat = byte.toNat := by
  have valid : byte.toNat.isValidChar := by
    left
    omega
  rw [asciiChar, Char.ofNat, dif_pos valid]
  rfl

theorem asciiByte_asciiChar (ascii : byte.toNat < 128) : asciiByte (asciiChar byte) = byte := by
  rw [asciiByte, toNat_asciiChar ascii, UInt8.ofNat_toNat]

theorem asciiChar_asciiByte (ascii : c.toNat < 128) : asciiChar (asciiByte c) = c := by
  rw [asciiChar, toNat_asciiByte ascii, Char.ofNat_toNat]

/-- Bytes that are all below `0x80` are the form of the text of the same numbers. -/
theorem encode_map_asciiChar (ascii : ∀ byte ∈ bytes, byte.toNat < 128) : encode (bytes.map asciiChar) = bytes := by
  have small : ∀ c ∈ bytes.map asciiChar, c.toNat < 128 := by
    intro c mem
    obtain ⟨byte, found, rfl⟩ := List.mem_map.mp mem
    rw [toNat_asciiChar (ascii byte found)]
    exact ascii byte found
  rw [encode_ascii small, List.map_map]
  calc bytes.map (asciiByte ∘ asciiChar) = bytes.map id :=
        List.map_congr_left fun byte mem => asciiByte_asciiChar (ascii byte mem)
    _ = bytes := List.map_id bytes

/-- The bytes of a character above `0x7F` are all above it too. -/
theorem le_of_mem_utf8EncodeChar (wide : 128 ≤ c.toNat) (mem : byte ∈ String.utf8EncodeChar c) :
    128 ≤ byte.toNat := by
  have marked (low mark : UInt8) (high : 128 ≤ mark.toNat) : 128 ≤ (low ||| mark).toNat := by
    rw [UInt8.toNat_or]
    exact Nat.le_trans high Nat.right_le_or
  have size : c.utf8Size = 2 ∨ c.utf8Size = 3 ∨ c.utf8Size = 4 := by
    rw [Char.utf8Size]
    split
    · rename_i narrow
      exact absurd (UInt32.le_iff_toNat_le.mp narrow) (Nat.not_le_of_lt wide)
    · split_ifs
      all_goals simp
  obtain two | three | four := size
  · rw [String.utf8EncodeChar_eq_cons_cons two] at mem
    simp only [List.mem_cons, List.not_mem_nil, or_false] at mem
    obtain rfl | rfl := mem
    all_goals exact marked _ _ (by decide)
  · rw [String.utf8EncodeChar_eq_cons_cons_cons three] at mem
    simp only [List.mem_cons, List.not_mem_nil, or_false] at mem
    obtain rfl | rfl | rfl := mem
    all_goals exact marked _ _ (by decide)
  · rw [String.utf8EncodeChar_eq_cons_cons_cons_cons four] at mem
    simp only [List.mem_cons, List.not_mem_nil, or_false] at mem
    obtain rfl | rfl | rfl | rfl := mem
    all_goals exact marked _ _ (by decide)

/-- A byte below `0x80` is a character of its own, wherever it stands. -/
theorem encode_eq_append_cons {before after : List UInt8} (ascii : byte.toNat < 128)
    (split : encode text = before ++ byte :: after) :
    ∃ front back, text = front ++ asciiChar byte :: back ∧ encode front = before ∧
      encode back = after := by
  induction text generalizing before with
  | nil => simp at split
  | cons c text ih =>
    rw [encode_cons] at split
    obtain ⟨skipped, rfl, rest⟩ | ⟨here, charBytes, rest⟩ := List.append_eq_append_iff.mp split
    · obtain ⟨front, back, rfl, rfl, rfl⟩ := ih rest
      exact ⟨c :: front, back, rfl, encode_cons c front, rfl⟩
    · cases here with
      | nil =>
        have started : encode text = [] ++ byte :: after := rest.symm
        obtain ⟨front, back, rfl, empty, rfl⟩ := ih started
        refine ⟨c :: front, back, rfl, ?_, rfl⟩
        rw [encode_cons, empty, charBytes, List.append_nil, List.append_nil]
      | cons first others =>
        obtain ⟨rfl, tail⟩ := List.cons.inj rest
        have narrow : c.toNat < 128 := by
          by_contra wide
          have mem : byte ∈ String.utf8EncodeChar c := by simp [charBytes]
          exact absurd (le_of_mem_utf8EncodeChar (Nat.le_of_not_lt wide) mem) (by omega)
        rw [utf8EncodeChar_ascii narrow] at charBytes
        obtain ⟨rfl, same⟩ | ⟨rfl, same⟩ := List.append_eq_singleton_iff.mp charBytes.symm
        · obtain ⟨rfl, rfl⟩ := List.cons.inj same
          exact ⟨[], text, by rw [asciiChar_asciiByte narrow]; rfl, rfl, tail.symm⟩
        · cases same

end Codebox.Support.Utf8
