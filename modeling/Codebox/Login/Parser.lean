import Codebox.Login.Ledger
import Codebox.Support.Utf8

/-! # What the login command prints

The bytes captured from the pinned command line tool, and the exact texts they are compared
with. A `String` of the source is a list of bytes that is well-formed UTF-8; slicing one at an
offset inside a character is a panic, written `none`.
-/

namespace Codebox.Login

open Codebox.Support.Utf8 (isAsciiControl)

structure CapturedOutput where
  stdout : List UInt8 := []
  stderr : List UInt8 := []
  stdoutOverflow : Bool := false
  stderrOverflow : Bool := false
  exitCode : Option Int := none
  deriving Repr, DecidableEq

structure VerificationCode where
  bytes : List UInt8
  deriving Repr, DecidableEq

inductive PromptParseError where
  | incomplete
  | terminal (error : LoginBrokerError)
  deriving Repr, DecidableEq

/-- The bytes of an ASCII text. -/
def asciiBytes (text : String) : List UInt8 := text.toList.map fun c => UInt8.ofNat c.toNat

def deviceCodePlaceholder : List UInt8 := asciiBytes "A1B2-3456C"

def devicePromptFixture : List UInt8 :=
  asciiBytes "\nWelcome to Codex [v0.145.0]\nOpenAI's command-line coding agent\n\n" ++
  asciiBytes "Follow these steps to sign in with ChatGPT using device code authorization:\n\n" ++
  asciiBytes "1. Open this link in your browser and sign in to your account\n" ++
  asciiBytes "   https://auth.openai.com/codex/device\n\n" ++
  asciiBytes "2. Enter this one-time code (expires in 15 minutes)\n   A1B2-3456C\n\n" ++
  asciiBytes "Continue only if you started this login in Codex. " ++
  asciiBytes "If a website or another person gave you this code, cancel.\n\n"

def loginSuccessFixture : List UInt8 := asciiBytes "Successfully logged in\n"

/-! ## Text -/

def isContinuation (byte : UInt8) : Bool := 0x80 ≤ byte && byte ≤ 0xBF

/-- Well-formed UTF-8, as `str::from_utf8` checks it: no overlong form, no surrogate, nothing
above U+10FFFF. -/
def validUtf8 : List UInt8 → Bool
  | [] => true
  | a :: rest =>
      if a ≤ 0x7F then validUtf8 rest
      else match rest with
        | [] => false
        | b :: rest =>
            if 0xC2 ≤ a && a ≤ 0xDF then isContinuation b && validUtf8 rest
            else match rest with
              | [] => false
              | c :: rest =>
                  if a == 0xE0 then 0xA0 ≤ b && b ≤ 0xBF && isContinuation c && validUtf8 rest
                  else if a == 0xED then 0x80 ≤ b && b ≤ 0x9F && isContinuation c && validUtf8 rest
                  else if 0xE1 ≤ a && a ≤ 0xEF then
                    isContinuation b && isContinuation c && validUtf8 rest
                  else match rest with
                    | [] => false
                    | d :: rest =>
                        (a == 0xF0 && 0x90 ≤ b && b ≤ 0xBF ||
                            0xF1 ≤ a && a ≤ 0xF3 && isContinuation b ||
                            a == 0xF4 && 0x80 ≤ b && b ≤ 0x8F) &&
                          isContinuation c && isContinuation d && validUtf8 rest

/-- Every CRLF becomes LF. -/
def replaceCrLf : List UInt8 → List UInt8
  | 0x0D :: 0x0A :: rest => 0x0A :: replaceCrLf rest
  | byte :: rest => byte :: replaceCrLf rest
  | [] => []

def normalizeLineEndings (value : List UInt8) : Option (List UInt8) :=
  let normalized := replaceCrLf value
  if normalized.contains 0x0D || normalized.any fun byte => isAsciiControl byte && byte != 0x0A then none
  else some normalized

def normalizePlainStream (bytes : List UInt8) : Except LoginBrokerError (List UInt8) :=
  if validUtf8 bytes then (normalizeLineEndings bytes).elim (.error .providerOutputInvalid) .ok
  else .error .providerOutputInvalid

/-- Where the scanner stands: in text, after an escape byte, or inside its parameters. -/
inductive AnsiMode where
  | text | escape | parameters
  deriving Repr, DecidableEq

def isAsciiDigit (byte : UInt8) : Bool := 0x30 ≤ byte && byte ≤ 0x39

/-- Remove the colour sequences `ESC [ digits and semicolons m`. -/
def stripAnsi : AnsiMode → List UInt8 → Except PromptParseError (List UInt8)
  | .text, [] => .ok []
  | .text, byte :: rest =>
      if byte = 0x1B then stripAnsi .escape rest else (stripAnsi .text rest).map (byte :: ·)
  | .escape, [] | .parameters, [] => .error .incomplete
  | .escape, byte :: rest =>
      if byte = 0x5B then stripAnsi .parameters rest else .error (.terminal .providerOutputInvalid)
  | .parameters, byte :: rest =>
      if isAsciiDigit byte || byte == 0x3B then stripAnsi .parameters rest
      else if byte = 0x6D then stripAnsi .text rest
      else .error (.terminal .providerOutputInvalid)

def normalizeAnsiStream (bytes : List UInt8) : Except PromptParseError (List UInt8) := do
  let stripped ← stripAnsi .text bytes
  if validUtf8 stripped then
    (normalizeLineEndings stripped).elim (.error (.terminal .providerOutputInvalid)) .ok
  else .error (.terminal .providerOutputInvalid)

/-! ## Slices -/

def isCharBoundary (text : List UInt8) (offset : Nat) : Bool :=
  match text[offset]? with
  | some byte => !isContinuation byte
  | none => offset == text.length

/-- The text between two offsets; `none` where the source panics. -/
def slice (text : List UInt8) (first last : Nat) : Option (List UInt8) :=
  if first ≤ last && isCharBoundary text first && isCharBoundary text last then
    some ((text.take last).drop first)
  else none

/-- The first offset at which `needle` occurs. -/
def find (needle : List UInt8) : List UInt8 → Option Nat
  | [] => if needle.isEmpty then some 0 else none
  | byte :: rest =>
      if needle.isPrefixOf (byte :: rest) then some 0 else (find needle rest).map (· + 1)

/-! ## The parsers -/

def isAsciiUppercase (byte : UInt8) : Bool := 0x41 ≤ byte && byte ≤ 0x5A

def validDeviceCode (code : List UInt8) : Bool :=
  code.length == 10 && code[4]? == some 0x2D &&
    code.zipIdx.all fun (byte, index) => index == 4 || isAsciiUppercase byte || isAsciiDigit byte

def invalidPrompt : Except PromptParseError VerificationCode := .error (.terminal .providerOutputInvalid)

/-- Compare a normalized prompt of the right length with the fixture around the code. -/
def parseNormalizedPrompt (normalized : List UInt8) : Option (Except PromptParseError VerificationCode) :=
  match find deviceCodePlaceholder devicePromptFixture with
  | none => some invalidPrompt
  | some start => do
      let finish := start + deviceCodePlaceholder.length
      let before ← slice normalized 0 start
      if before ≠ devicePromptFixture.take start then return invalidPrompt
      let after ← slice normalized finish normalized.length
      if after ≠ devicePromptFixture.drop finish then return invalidPrompt
      let code ← slice normalized start finish
      return if validDeviceCode code then .ok ⟨code⟩ else invalidPrompt

def parseDevicePrompt (stdout : List UInt8) (overflow : Bool) :
    Option (Except PromptParseError VerificationCode) :=
  if overflow then some (.error (.terminal .outputLimitExceeded))
  else match normalizeAnsiStream stdout with
    | .error error => some (.error error)
    | .ok normalized =>
        if normalized.length < devicePromptFixture.length then some (.error .incomplete)
        else if normalized.length ≠ devicePromptFixture.length then some invalidPrompt
        else parseNormalizedPrompt normalized

def rejectOverflow (output : CapturedOutput) : Except LoginBrokerError Unit :=
  if output.stdoutOverflow || output.stderrOverflow then .error .outputLimitExceeded else .ok ()

/-- How a finished login command ended. -/
def completionOf (output : CapturedOutput) : Except LoginBrokerError Unit :=
  let ended : Except LoginBrokerError Unit :=
    if output.exitCode.isSome then .error .loginFailed else .error .outcomeUnknown
  if output.exitCode = some 0 then do
    if (← normalizePlainStream output.stderr) = loginSuccessFixture then .ok () else ended
  else ended

def parseLoginCompletion (output : CapturedOutput) : Option (Except LoginBrokerError Unit) :=
  match rejectOverflow output with
  | .error error => some (.error error)
  | .ok () => do
      match ← parseDevicePrompt output.stdout false with
      | .error _ => return .error .providerOutputInvalid
      | .ok _ => return completionOf output

/-- What the supervisor thread of one login reports. -/
inductive SupervisorEvent where
  | started (process : ProcessIdentity)
  | instructions (code : VerificationCode)
  | exited (output : CapturedOutput)
  | instructionDeadline (output : CapturedOutput)
  | overallDeadline (output : CapturedOutput)
  | canceled (output : CapturedOutput)
  | uncertain (error : LoginBrokerError)
  | failed (error : LoginBrokerError)
  deriving Repr, DecidableEq

end Codebox.Login
