/-!
# YAML tokens

The tokens of a document. Scalars are read whole; the ends of block collections, which no character
marks, are tokens of their own.
-/

namespace Intake

namespace Yaml

inductive ScalarStyle where
  | plain
  | quoted
  | literal
  | folded
deriving DecidableEq, Repr

inductive Token where
  | version (major minor : Nat)
  /-- A short form for the start of tags. -/
  | handle (name start : List Char)
  | documentStart
  | documentEnd
  | blockSequenceStart
  | blockMappingStart
  | blockEnd
  | flowSequenceStart
  | flowSequenceEnd
  | flowMappingStart
  | flowMappingEnd
  | blockEntry
  | flowEntry
  | key
  | value
  | reference (name : List Char)
  | anchor (name : List Char)
  | tag (handle suffix : List Char)
  | scalar (style : ScalarStyle) (text : List Char)
deriving DecidableEq, Repr

end Yaml

end Intake
