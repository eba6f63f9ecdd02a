import Intake.Bytewise.Slice
import Intake.Template.Block

/-!
# Blocks by their offsets

The end of a block is looked for byte by byte, and a template is sliced at the offsets that are
found. No byte of a character that takes several is one of the quotes and braces that count.
-/

namespace Intake

namespace Bytewise

/-- How the search for the end of a block went. -/
inductive Ending where
  /-- The offset of the braces that end the block. -/
  | found (offset : Nat)
  | missing (inQuote : Bool)
deriving DecidableEq, Repr

def isQuote (byte : UInt8) : Bool :=
  byte == '\''.toUInt8 || byte == '"'.toUInt8

/-- The end of a block in the bytes from an offset on, with `depth` open braces before it, inside
`quote` if there is one, and after the byte `previous`. -/
def endingFrom (offset depth : Nat) (quote previous : Option UInt8) : List UInt8 → Ending
  | [] => .missing quote.isSome
  | byte :: rest =>
    match quote with
    | some open' =>
      let closes := byte = open' ∧ previous ≠ some '\\'.toUInt8
      endingFrom (offset + 1) depth (if closes then none else some open') (some byte) rest
    | none =>
      if isQuote byte then endingFrom (offset + 1) depth (some byte) (some byte) rest
      else if byte = '{'.toUInt8 then endingFrom (offset + 1) (depth + 1) none (some byte) rest
      else if byte = '}'.toUInt8 ∧ 0 < depth then
        endingFrom (offset + 1) (depth - 1) none (some byte) rest
      else if byte = '}'.toUInt8 ∧ rest.head? = some '}'.toUInt8 then .found offset
      else endingFrom (offset + 1) depth none (some byte) rest

/-- The offset of the braces that end the block that a text starts with. -/
def blockEnd? (text : List Char) : Option Nat :=
  match endingFrom 0 0 none none (bytes text) with
  | .found offset => some offset
  | .missing true => find? ['}', '}'] text
  | .missing false => none

/-- The segment of the block that opens at an offset of a template; a blank block is literal. -/
def blockSegment (start length : Nat) (template inside : List Char) : Guarded Block.Segment :=
  if Text.trim inside = [] then
    Block.Segment.literal <$> slice start (start + 2 + length + 2) template
  else .ok (.block (Text.trim inside))

def segments (template : List Char) : Guarded (List Block.Segment) :=
  match find? ['{', '{'] template with
  | none => .ok [.literal template]
  | some start => do
    let before ← slice 0 start template
    match _after : sliceFrom (start + 2) template with
    | .error stop => .error stop
    | .ok after =>
      match blockEnd? after with
      | none => do
        let unended ← sliceFrom start template
        return [.literal (before ++ unended)]
      | some length => do
        let inside ← slice 0 length after
        let block ← blockSegment start length template inside
        match _rest : sliceFrom (length + 2) after with
        | .error stop => .error stop
        | .ok rest => do
          let others ← segments rest
          return .literal before :: block :: others
termination_by template.length
decreasing_by
  have shorter := length_lt_of_slice _after (Nat.succ_ne_zero _)
  have rest' := length_lt_of_slice _rest (Nat.succ_ne_zero _)
  omega

end Bytewise

end Intake
