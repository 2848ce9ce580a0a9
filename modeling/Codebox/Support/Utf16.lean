import Mathlib.Data.List.Chain

/-! # Texts as code units

A string of a script engine is a list of 16-bit code units. Read from the left it is a list of
points: characters, of one unit or of a surrogate pair, and surrogates that stand alone. It is the
form of a text exactly if no surrogate stands alone.
-/

namespace Codebox.Support.Utf16

def isHigh (unit : UInt16) : Bool := decide (0xD800 ≤ unit.toNat ∧ unit.toNat < 0xDC00)

def isLow (unit : UInt16) : Bool := decide (0xDC00 ≤ unit.toNat ∧ unit.toNat < 0xE000)

inductive Point where
  | scalar (c : Char)
  | lone (unit : UInt16)
  deriving DecidableEq

/-- The number of the character that a surrogate pair stands for. -/
def pairValue (high low : UInt16) : Nat := 0x10000 + (high.toNat - 0xD800) * 0x400 + (low.toNat - 0xDC00)

def single (unit : UInt16) : Point :=
  if isHigh unit || isLow unit then .lone unit else .scalar (Char.ofNat unit.toNat)

def points : List UInt16 → List Point
  | [] => []
  | [unit] => [single unit]
  | first :: second :: rest =>
      if isHigh first && isLow second then .scalar (Char.ofNat (pairValue first second)) :: points rest
      else single first :: points (second :: rest)

def encodeChar (c : Char) : List UInt16 :=
  if c.toNat < 0x10000 then [UInt16.ofNat c.toNat]
  else [UInt16.ofNat (0xD800 + (c.toNat - 0x10000) / 0x400), UInt16.ofNat (0xDC00 + (c.toNat - 0x10000) % 0x400)]

/-- The code units of a text. -/
def encode (text : List Char) : List UInt16 := text.flatMap encodeChar

def Point.units : Point → List UInt16
  | scalar c => encodeChar c
  | lone unit => [unit]

theorem toNat_ofNat {n : Nat} (valid : n < 0xD800 ∨ 0xDFFF < n ∧ n < 0x110000) : (Char.ofNat n).toNat = n := by
  have here : n.isValidChar := valid
  rw [Char.ofNat, dif_pos here]
  rfl

theorem units_single (unit : UInt16) : (single unit).units = [unit] := by
  unfold single
  split
  · rfl
  · rename_i plain
    simp only [isHigh, isLow, Bool.or_eq_true, decide_eq_true_eq, not_or, not_and, Nat.not_lt] at plain
    have small := unit.toNat_lt
    have valid : unit.toNat < 0xD800 ∨ 0xDFFF < unit.toNat ∧ unit.toNat < 0x110000 := by omega
    rw [Point.units, encodeChar, toNat_ofNat valid, if_pos small, UInt16.ofNat_toNat]

theorem units_pair {high low : UInt16} (first : isHigh high = true) (second : isLow low = true) :
    encodeChar (Char.ofNat (pairValue high low)) = [high, low] := by
  simp only [isHigh, isLow, decide_eq_true_eq] at first second
  have valid : pairValue high low < 0xD800 ∨ 0xDFFF < pairValue high low ∧ pairValue high low < 0x110000 := by
    unfold pairValue
    omega
  have wide : ¬ pairValue high low < 0x10000 := by
    unfold pairValue
    omega
  have upper : 0xD800 + (pairValue high low - 0x10000) / 0x400 = high.toNat := by
    unfold pairValue
    omega
  have lower : 0xDC00 + (pairValue high low - 0x10000) % 0x400 = low.toNat := by
    unfold pairValue
    omega
  rw [encodeChar, toNat_ofNat valid, if_neg wide, upper, lower, UInt16.ofNat_toNat, UInt16.ofNat_toNat]

/-- The points of a string give its code units back. -/
theorem flatMap_units (units : List UInt16) : (points units).flatMap Point.units = units := by
  induction units using points.induct with
  | case1 => rfl
  | case2 unit => simp [points, units_single]
  | case3 first second rest pair ih =>
      have both := Bool.and_eq_true_iff.mp pair
      rw [points, if_pos pair, List.flatMap_cons, ih, Point.units, units_pair both.1 both.2]
      rfl
  | case4 first second rest apart ih =>
      rw [points, if_neg apart, List.flatMap_cons, ih, units_single]
      rfl

theorem points_cons_plain {unit : UInt16} (plain : isHigh unit = false) (rest : List UInt16) :
    points (unit :: rest) = single unit :: points rest := by
  cases rest with
  | nil => rfl
  | cons second rest =>
      rw [points, if_neg (by simp [plain])]

theorem points_encodeChar (c : Char) (rest : List UInt16) : points (encodeChar c ++ rest) = .scalar c :: points rest := by
  have valid : c.toNat < 0xD800 ∨ 0xDFFF < c.toNat ∧ c.toNat < 0x110000 := c.valid
  unfold encodeChar
  split
  · rename_i small
    have same : (UInt16.ofNat c.toNat).toNat = c.toNat := UInt16.toNat_ofNat_of_lt small
    have plain : isHigh (UInt16.ofNat c.toNat) = false := by
      rw [isHigh, decide_eq_false_iff_not, same]
      omega
    have whole : isLow (UInt16.ofNat c.toNat) = false := by
      rw [isLow, decide_eq_false_iff_not, same]
      omega
    rw [List.singleton_append, points_cons_plain plain, single, if_neg (by simp [plain, whole]), same, Char.ofNat_toNat]
  · rename_i wide
    have upper : (UInt16.ofNat (0xD800 + (c.toNat - 0x10000) / 0x400)).toNat = 0xD800 + (c.toNat - 0x10000) / 0x400 :=
      UInt16.toNat_ofNat_of_lt (show _ < 65536 by omega)
    have lower : (UInt16.ofNat (0xDC00 + (c.toNat - 0x10000) % 0x400)).toNat = 0xDC00 + (c.toNat - 0x10000) % 0x400 :=
      UInt16.toNat_ofNat_of_lt (show _ < 65536 by omega)
    generalize UInt16.ofNat (0xD800 + (c.toNat - 0x10000) / 0x400) = high at upper ⊢
    generalize UInt16.ofNat (0xDC00 + (c.toNat - 0x10000) % 0x400) = low at lower ⊢
    have pair : (isHigh high && isLow low) = true := by
      simp only [isHigh, isLow, upper, lower, Bool.and_eq_true, decide_eq_true_eq]
      omega
    have value : pairValue high low = c.toNat := by
      unfold pairValue
      omega
    show points (high :: low :: rest) = _
    rw [points, if_pos pair, value, Char.ofNat_toNat]

theorem points_encode (text : List Char) : points (encode text) = text.map Point.scalar := by
  induction text with
  | nil => rfl
  | cons c text ih =>
      rw [encode, List.flatMap_cons, points_encodeChar]
      rw [encode] at ih
      rw [ih]
      rfl

/-- A string is the form of a text exactly if it has the points of the text. -/
theorem encode_eq_iff {text : List Char} {units : List UInt16} :
    encode text = units ↔ points units = text.map Point.scalar := by
  constructor
  · rintro rfl
    exact points_encode text
  · intro read
    have back := flatMap_units units
    rw [read, List.flatMap_map] at back
    exact back

end Codebox.Support.Utf16
