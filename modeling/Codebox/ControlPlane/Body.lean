import Codebox.ControlPlane.Types
import Codebox.Cloud.Prompt

/-! # The body of a request that starts a turn

The body is bounded, then read as JSON with one known field, and its text checked as a prompt. The
reader of a JSON string goes through the bytes once; it refuses control bytes, unknown escapes and
every escaped surrogate that is not one of a pair.
-/

namespace Codebox.ControlPlane

open Codebox.Support

def maxBodyBytes : Nat := 40 * 1024

def ApiError.requestTooLarge : ApiError := ⟨413, "request_too_large", "request body exceeds its limit"⟩

def ApiError.invalidValue : ApiError := ⟨422, "invalid_value", "request value is invalid"⟩

/-- The declared length, if it is given once and is a number, and then the bytes themselves. -/
def readBoundedBody (contentLength : Option Nat) (body : Bytes) : Except ApiError Bytes :=
  if contentLength.any (maxBodyBytes < ·) then .error .requestTooLarge
  else if maxBodyBytes < body.length then .error .requestTooLarge
  else .ok body

namespace Json

/-- Where the reader of a string stands. -/
inductive Scan where
  | text
  | escape
  /-- In an escaped number, with the surrogate that came before, the digits to come and the number so far. -/
  | hex (high : Option Nat) (digits value : Nat)
  /-- After a high surrogate, which the next escape must complete. -/
  | pair (high : Nat)
  | pairEscape (high : Nat)
  deriving Repr, DecidableEq

def hexValue (byte : UInt8) : Option Nat :=
  let n := byte.toNat
  if 48 ≤ n ∧ n ≤ 57 then some (n - 48)
  else if 97 ≤ n ∧ n ≤ 102 then some (n - 87)
  else if 65 ≤ n ∧ n ≤ 70 then some (n - 55)
  else none

/-- The escapes of one letter: quote, backslash, slash, `b`, `f`, `n`, `r` and `t`. -/
def unescape (byte : UInt8) : Option UInt8 :=
  if byte = 34 then some 34
  else if byte = 92 then some 92
  else if byte = 47 then some 47
  else if byte = 98 then some 8
  else if byte = 102 then some 12
  else if byte = 110 then some 10
  else if byte = 114 then some 13
  else if byte = 116 then some 9
  else none

/-- What an escaped number adds, or the surrogate that it is the first half of. -/
inductive Escaped where
  | char (c : Char)
  | half (high : Nat)
  | refused
  deriving DecidableEq

def escaped : (high : Option Nat) → (value : Nat) → Escaped
  | none, value =>
      if 0xDC00 ≤ value ∧ value ≤ 0xDFFF then .refused
      else if 0xD800 ≤ value ∧ value ≤ 0xDBFF then .half value
      else .char (Char.ofNat value)
  | some high, value =>
      if 0xDC00 ≤ value ∧ value ≤ 0xDFFF then
        .char (Char.ofNat (0x10000 + (high - 0xD800) * 0x400 + (value - 0xDC00)))
      else .refused

def push (added : Bytes) (read : Option (Bytes × Bytes)) : Option (Bytes × Bytes) :=
  read.map fun (content, rest) => (added ++ content, rest)

/-- The content of a string after its opening quote, and what follows its closing quote. -/
def scan : Scan → Bytes → Option (Bytes × Bytes)
  | _, [] => none
  | .text, byte :: rest =>
      if byte = 34 then some ([], rest)
      else if byte = 92 then scan .escape rest
      else if byte.toNat < 32 then none
      else push [byte] (scan .text rest)
  | .escape, byte :: rest =>
      if byte = 117 then scan (.hex none 4 0) rest
      else match unescape byte with
        | none => none
        | some added => push [added] (scan .text rest)
  | .hex high digits value, byte :: rest =>
      match hexValue byte with
      | none => none
      | some digit =>
          if 1 < digits then scan (.hex high (digits - 1) (value * 16 + digit)) rest
          else match escaped high (value * 16 + digit) with
            | .char c => push (String.utf8EncodeChar c) (scan .text rest)
            | .half high => scan (.pair high) rest
            | .refused => none
  | .pair high, byte :: rest => if byte = 92 then scan (.pairEscape high) rest else none
  | .pairEscape high, byte :: rest => if byte = 117 then scan (.hex (some high) 4 0) rest else none

/-- A string as a value: its content must be well formed too. -/
def readString : Bytes → Option (List Char × Bytes)
  | [] => none
  | byte :: rest =>
      if byte = 34 then (scan .text rest).bind fun (content, rest) => (Utf8.decode content).map fun text => (text, rest)
      else none

def skipBlanks (bytes : Bytes) : Bytes :=
  bytes.dropWhile fun byte => byte == 32 || byte == 10 || byte == 9 || byte == 13

/-- One given byte, after blanks. -/
def expect (wanted : UInt8) (bytes : Bytes) : Option Bytes :=
  match skipBlanks bytes with
  | [] => none
  | byte :: rest => if byte = wanted then some rest else none

/-- The end of the body: the closing bracket and blanks. -/
def finish (closing : UInt8) (text : List Char) (bytes : Bytes) : Option (List Char) :=
  (expect closing bytes).bind fun rest => if skipBlanks rest = [] then some text else none

end Json

/-- The one field of the body, which may also be given as a list of one item. Every other body is refused: as
malformed, or for an unknown, missing or repeated field or a value that is not a string. -/
def decodeStartTurn (body : Bytes) : Option (List Char) :=
  match Json.skipBlanks body with
  | [] => none
  | byte :: rest =>
      if byte = 123 then
        (Json.readString (Json.skipBlanks rest)).bind fun (key, rest) =>
          if key = "prompt".toList then
            (Json.expect 58 rest).bind fun rest =>
              (Json.readString (Json.skipBlanks rest)).bind fun (text, rest) => Json.finish 125 text rest
          else none
      else if byte = 91 then
        (Json.readString (Json.skipBlanks rest)).bind fun (text, rest) => Json.finish 93 text rest
      else none

/-- Why a body was refused. A body that is not decoded is answered as malformed or as an invalid request; which of the
two is not told apart here. -/
inductive Refusal where
  | api (error : ApiError)
  | undecodable
  deriving Repr, DecidableEq

/-- The prompt of a request that starts a turn, whose body `decode` reads. -/
def startTurnPrompt (decode : Bytes → Option (List Char)) (contentLength : Option Nat) (body : Bytes) :
    Except Refusal Cloud.CloudPrompt :=
  match readBoundedBody contentLength body with
  | .error error => .error (.api error)
  | .ok body => match decode body with
      | none => .error .undecodable
      | some text => match Cloud.CloudPrompt.tryNew text with
          | .error _ => .error (.api .invalidValue)
          | .ok prompt => .ok prompt

end Codebox.ControlPlane
