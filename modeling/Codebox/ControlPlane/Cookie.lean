import Mathlib.Data.List.DropRight
import Codebox.ControlPlane.Types
import Codebox.Support.Comparison

/-! # The session cookie

An operator session is named by 32 random bytes in unpadded base64. A request presents the name
in a part of a `Cookie` header; headers and parts that are not about this cookie are passed over,
and a request that presents the cookie twice presents none.
-/

namespace Codebox.ControlPlane

open Codebox.Support

def cookieTokenBytes : Nat := 43

/-- The bytes of `__Host-codebox_p0`. -/
def cookieName : Bytes := [95, 95, 72, 111, 115, 116, 45, 99, 111, 100, 101, 98, 111, 120, 95, 112, 48]

def space : UInt8 := 32

def semicolon : UInt8 := 59

def equals : UInt8 := 61

structure Token where
  bytes : Bytes
  length_bytes : bytes.length = cookieTokenBytes
  deriving Repr, DecidableEq

variable {token : Token}

namespace Token

def zero : Token := ⟨List.replicate cookieTokenBytes 0, List.length_replicate⟩

def ofBytes (bytes : Bytes) : Option Token :=
  if fits : bytes.length = cookieTokenBytes then some ⟨bytes, fits⟩ else none

theorem ofBytes_eq_some {bytes : Bytes} : ofBytes bytes = some token ↔ bytes = token.bytes := by
  unfold ofBytes
  constructor
  · intro taken
    split at taken
    · cases taken
      rfl
    · cases taken
  · intro same
    subst same
    exact dif_pos token.length_bytes

/-- The comparison reads every byte whatever it finds. -/
def fixedTokenCompare (left right : Token) : Bool × Nat :=
  let (difference, compared) := (left.bytes.zip right.bytes).foldl
    (fun (difference, compared) (left, right) => (difference ||| (left ^^^ right), compared + 1)) ((0 : UInt8), 0)
  (difference == 0, compared)

def fixedTokenEq (left right : Token) : Bool := (fixedTokenCompare left right).1

theorem difference_eq_zero (difference left right : UInt8) :
    difference ||| (left ^^^ right) = 0 ↔ difference = 0 ∧ left = right := by
  rw [UInt8.or_eq_zero_iff, UInt8.xor_eq_zero_iff]

theorem fixedTokenEq_iff {left right : Token} : fixedTokenEq left right = true ↔ left = right := by
  have same : left.bytes.length = right.bytes.length := left.length_bytes.trans right.length_bytes.symm
  unfold fixedTokenEq fixedTokenCompare
  simp only [beq_iff_eq]
  rw [clear_foldl_zip (· = 0) difference_eq_zero same]
  constructor
  · rintro ⟨-, same⟩
    cases left
    cases right
    cases same
    rfl
  · intro same
    exact ⟨rfl, congrArg Token.bytes same⟩

end Token

/-! ## Drawing a token -/

/-- One digit of the URL-safe base64 alphabet. -/
def base64Digit (value : Nat) : UInt8 :=
  if value < 26 then .ofNat (65 + value)
  else if value < 52 then .ofNat (97 + (value - 26))
  else if value < 62 then .ofNat (48 + (value - 52))
  else if value = 62 then 45
  else 95

/-- The digits of the six-bit groups of some bytes, without padding. -/
def urlSafeNoPad : Bytes → Bytes
  | a :: b :: c :: rest =>
      base64Digit (a.toNat / 4) :: base64Digit (a.toNat % 4 * 16 + b.toNat / 16) ::
        base64Digit (b.toNat % 16 * 4 + c.toNat / 64) :: base64Digit (c.toNat % 64) :: urlSafeNoPad rest
  | [a, b] =>
      [base64Digit (a.toNat / 4), base64Digit (a.toNat % 4 * 16 + b.toNat / 16), base64Digit (b.toNat % 16 * 4)]
  | [a] => [base64Digit (a.toNat / 4), base64Digit (a.toNat % 4 * 16)]
  | [] => []

/-- What the entropy source fills a buffer with. -/
structure Random where
  bytes : Bytes
  length_bytes : bytes.length = 32
  deriving Repr, DecidableEq

/-- Where cookies come from: the fillings of the buffer, and the engine that writes them in base64. -/
structure Entropy where
  fill : Nat → Option Random
  encode : Bytes → Bytes := urlSafeNoPad

/-! ## Reading the headers -/

def trimStart : Bytes → Bytes
  | [] => []
  | byte :: rest => if byte = space then trimStart rest else byte :: rest

def trimEnd (value : Bytes) : Bytes := (trimStart value.reverse).reverse

def trimAsciiSpace (value : Bytes) : Bytes := trimEnd (trimStart value)

structure CookieScan where
  candidate : Token := .zero
  count : Nat := 0
  valid : Bool := false
  deriving Repr, DecidableEq

def scanPart (scan : CookieScan) (part : Bytes) : CookieScan :=
  let part := trimAsciiSpace part
  match part.findIdx? (· == equals) with
  | none => scan
  | some separator =>
      let name := part.take separator
      let value := (part.drop separator).drop 1
      if name ≠ cookieName then scan
      else
        let scan := { scan with count := saturatingAdd scan.count 1 }
        match Token.ofBytes value with
        | some candidate => { scan with candidate, valid := true }
        | none => scan

def parseCookie (headers : List Bytes) : Token × Bool :=
  let scan := headers.foldl (fun scan value => (value.splitOn semicolon).foldl scanPart scan) {}
  (scan.candidate, scan.valid && scan.count == 1)

/-! ## What the headers present -/

def strip (part : Bytes) : Bytes := (part.dropWhile (· == space)).rdropWhile (· == space)

/-- The values of the session cookie, over all parts of all headers. -/
def sessionValues (headers : List Bytes) : List Bytes :=
  ((headers.flatMap (·.splitOn semicolon)).map strip).filterMap (·.dropPrefix? (cookieName ++ [equals]))

theorem trimStart_eq (value : Bytes) : trimStart value = value.dropWhile (· == space) := by
  induction value with
  | nil => rfl
  | cons byte rest ih =>
      unfold trimStart
      rw [List.dropWhile_cons, ih]
      simp only [beq_iff_eq]

theorem trimAsciiSpace_eq (value : Bytes) : trimAsciiSpace value = strip value := by
  unfold trimAsciiSpace trimEnd strip List.rdropWhile
  rw [trimStart_eq, trimStart_eq]

def scanValue (scan : CookieScan) (value : Bytes) : CookieScan :=
  let scan := { scan with count := saturatingAdd scan.count 1 }
  match Token.ofBytes value with
  | some candidate => { scan with candidate, valid := true }
  | none => scan

/-- The cookie name has no separator in it, so that the first separator of a part ends the name
exactly if the part begins with the name and a separator. -/
theorem dropPrefix_eq (part : Bytes) : part.dropPrefix? (cookieName ++ [equals]) =
    (part.findIdx? (· == equals)).bind fun separator =>
      if part.take separator = cookieName then some ((part.drop separator).drop 1) else none := by
  cases named : part.dropPrefix? (cookieName ++ [equals]) with
  | some value =>
      obtain ⟨start, whole, same⟩ := List.dropPrefix?_eq_some_iff.mp named
      rw [beq_iff_eq.mp same] at whole
      subst whole
      rfl
  | none =>
      cases found : part.findIdx? (· == equals) with
      | none => rfl
      | some separator =>
          obtain ⟨inside, here, -⟩ := List.findIdx?_eq_some_iff_getElem.mp found
          rw [Option.bind_some, if_neg]
          intro name
          have whole : part = (cookieName ++ [equals]) ++ (part.drop separator).drop 1 := by
            rw [← name, ← beq_iff_eq.mp here, List.take_append_getElem inside, List.drop_drop, List.take_append_drop]
          have := List.dropPrefix?_eq_some_iff.mpr ⟨_, whole, beq_self_eq_true _⟩
          rw [this] at named
          cases named

theorem scanPart_eq (scan : CookieScan) (part : Bytes) :
    scanPart scan part = ((strip part).dropPrefix? (cookieName ++ [equals])).elim scan (scanValue scan) := by
  rw [dropPrefix_eq]
  unfold scanPart
  dsimp only
  rw [trimAsciiSpace_eq]
  cases (strip part).findIdx? (· == equals) with
  | none => rfl
  | some separator =>
      dsimp only [Option.bind_some]
      by_cases name : (strip part).take separator = cookieName
      · rw [if_neg (not_not.mpr name), if_pos name]
        rfl
      · rw [if_pos name, if_neg name]
        rfl

theorem foldl_scanPart (parts : List Bytes) (scan : CookieScan) : parts.foldl scanPart scan =
    ((parts.map strip).filterMap (·.dropPrefix? (cookieName ++ [equals]))).foldl scanValue scan := by
  induction parts generalizing scan with
  | nil => rfl
  | cons part parts ih =>
      rw [List.foldl_cons, List.map_cons, List.filterMap_cons, scanPart_eq, ih]
      cases (strip part).dropPrefix? (cookieName ++ [equals]) with
      | none => rfl
      | some value => rfl

theorem count_foldl_scanValue (values : List Bytes) (scan : CookieScan) (word : scan.count ≤ wordMax) :
    (values.foldl scanValue scan).count = min (scan.count + values.length) wordMax := by
  induction values generalizing scan with
  | nil => exact (Nat.min_eq_left word).symm
  | cons value values ih =>
      have next : (scanValue scan value).count = saturatingAdd scan.count 1 := by
        unfold scanValue
        dsimp only
        split <;> rfl
      rw [List.foldl_cons, ih, next, List.length_cons]
      all_goals unfold saturatingAdd at *
      all_goals omega

theorem parseCookie_eq (headers : List Bytes) : parseCookie headers =
    (((sessionValues headers).foldl scanValue {}).candidate,
      ((sessionValues headers).foldl scanValue {}).valid && ((sessionValues headers).foldl scanValue {}).count == 1) := by
  unfold parseCookie sessionValues
  rw [← foldl_scanPart, List.foldl_flatMap]

theorem parseCookie_iff {headers : List Bytes} :
    parseCookie headers = (token, true) ↔ sessionValues headers = [token.bytes] := by
  rw [parseCookie_eq]
  have counted := count_foldl_scanValue (sessionValues headers) {} (Nat.zero_le _)
  have word : 1 < wordMax := by decide
  match found : sessionValues headers with
  | [] => simp
  | [value] =>
      simp only [List.foldl_cons, List.foldl_nil, scanValue]
      cases taken : Token.ofBytes value with
      | none =>
          simp only [Bool.false_and, Prod.mk.injEq, Bool.false_eq_true, and_false, List.cons.injEq, and_true, false_iff]
          intro same
          rw [Token.ofBytes_eq_some.mpr same] at taken
          cases taken
      | some candidate =>
          rw [Token.ofBytes_eq_some.mp taken]
          cases candidate
          cases token
          simp [saturatingAdd, wordMax]
  | first :: second :: rest =>
      rw [found] at counted
      have many : ¬ ((first :: second :: rest).foldl scanValue {}).count = 1 := by
        rw [counted, List.length_cons, List.length_cons]
        omega
      apply iff_of_false
      · intro same
        obtain ⟨-, once⟩ := Bool.and_eq_true_iff.mp (Prod.mk.inj same).2
        exact many (beq_iff_eq.mp once)
      · intro same
        cases same

end Codebox.ControlPlane
