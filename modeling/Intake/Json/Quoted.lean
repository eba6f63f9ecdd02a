import Intake.Text.Basic

/-!
# Quoted strings

The quoted form of a text in JSON. Writing escapes quotes, backslashes and control characters and
nothing else. Reading also accepts the other escapes of the format, and joins the two halves of a
surrogate pair; half a pair is not a text.
-/

namespace Intake

namespace Quoted

/-- The small hexadecimal digit of a number below sixteen. -/
def hexDigit (value : Nat) : Char :=
  Char.ofNat (if value < 10 then 48 + value else 87 + value)

def escape (character : Char) : List Char :=
  if character = '"' then ['\\', '"']
  else if character = '\\' then ['\\', '\\']
  else if 32 ≤ character.toNat then [character]
  else if character = '\n' then ['\\', 'n']
  else if character = '\r' then ['\\', 'r']
  else if character = '\t' then ['\\', 't']
  else if character = '\x08' then ['\\', 'b']
  else if character = '\x0c' then ['\\', 'f']
  else ['\\', 'u', '0', '0', hexDigit (character.toNat / 16), hexDigit (character.toNat % 16)]

def encode (text : List Char) : List Char :=
  '"' :: text.flatMap escape ++ ['"']

def hexValue? (digit : Char) : Option Nat :=
  if digit.isDigit then some (digit.toNat - 48)
  else if 'a' ≤ digit ∧ digit ≤ 'f' then some (digit.toNat - 87)
  else if 'A' ≤ digit ∧ digit ≤ 'F' then some (digit.toNat - 55)
  else none

/-- The number that four hexadecimal digits write. -/
def codeUnit? (first second third fourth : Char) : Option Nat := do
  let a ← hexValue? first
  let b ← hexValue? second
  let c ← hexValue? third
  let d ← hexValue? fourth
  return ((a * 16 + b) * 16 + c) * 16 + d

/-- The character that a one-letter escape stands for. -/
def simpleEscape? : Char → Option Char
  | '"' => some '"'
  | '\\' => some '\\'
  | '/' => some '/'
  | 'b' => some '\x08'
  | 'f' => some '\x0c'
  | 'n' => some '\n'
  | 'r' => some '\r'
  | 't' => some '\t'
  | _ => none

/-- Whether a code unit is the first half of a surrogate pair. -/
def isHighHalf (unit : Nat) : Bool :=
  0xD800 ≤ unit && unit < 0xDC00

/-- Whether a code unit is the second half of a surrogate pair. -/
def isLowHalf (unit : Nat) : Bool :=
  0xDC00 ≤ unit && unit < 0xE000

/-- The character of a surrogate pair. -/
def joinHalves (high low : Nat) : Char :=
  Char.ofNat (0x10000 + (high - 0xD800) * 0x400 + (low - 0xDC00))

/-- What a step of reading inside quotes finds: the end, or one character; and the rest. -/
inductive Step where
  | finish (rest : List Char)
  | character (value : Char) (rest : List Char)

/-- The next step of reading inside quotes. -/
def step? : List Char → Option Step
  | [] => none
  | '"' :: rest => some (.finish rest)
  | '\\' :: 'u' :: a :: b :: c :: d :: rest => do
    let unit ← codeUnit? a b c d
    if isHighHalf unit then
      match rest with
      | '\\' :: 'u' :: e :: f :: g :: h :: others =>
        let low ← codeUnit? e f g h
        if isLowHalf low then return .character (joinHalves unit low) others else none
      | _ => none
    else if isLowHalf unit then none
    else return .character (Char.ofNat unit) rest
  | '\\' :: mark :: rest => (simpleEscape? mark).map fun value => .character value rest
  | first :: rest => if first.toNat < 32 ∨ first = '\\' then none else some (.character first rest)

/-- The text up to the closing quote, and what follows it. Every step takes at least one
character, so a text has no more steps than characters. -/
def decodeSteps : Nat → List Char → Option (List Char × List Char)
  | 0, _ => none
  | fuel + 1, text =>
    match step? text with
    | none => none
    | some (.finish rest) => some ([], rest)
    | some (.character value rest) =>
      (decodeSteps fuel rest).map fun read => (value :: read.1, read.2)

/-- The text whose opening quote has been read, and what follows its closing quote. -/
def decode (text : List Char) : Option (List Char × List Char) :=
  decodeSteps (text.length + 1) text

end Quoted

end Intake
