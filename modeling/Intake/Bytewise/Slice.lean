import Intake.Text.Basic

/-!
# Slices at byte offsets

The program holds a text as bytes and takes slices of it at byte offsets. A slice lies within the
text and between characters of it; the program stops when it asks for any other one.
-/

namespace Intake

/-- Why the program stops before it has an answer. -/
inductive Stop where
  /-- A slice that leaves the text or cuts through a character. -/
  | slice (start stop : Nat) (text : List Char)
  /-- A number with more decimal places than can be written. -/
  | places (count : Nat)
deriving DecidableEq, Repr

/-- An answer, unless the program stops. -/
abbrev Guarded := Except Stop

namespace Bytewise

def bytes (text : List Char) : List UInt8 :=
  text.flatMap String.utf8EncodeChar

def size (text : List Char) : Nat :=
  (bytes text).length

/-- The text before and after a byte offset, if no character lies across it. -/
def cut? : Nat → List Char → Option (List Char × List Char)
  | 0, text => some ([], text)
  | _ + 1, [] => none
  | offset + 1, character :: rest =>
    if character.utf8Size ≤ offset + 1 then
      (cut? (offset + 1 - character.utf8Size) rest).map fun parts =>
        (character :: parts.1, parts.2)
    else none

def slice (start stop : Nat) (text : List Char) : Guarded (List Char) :=
  match cut? stop text with
  | some (front, _) =>
    match cut? start front with
    | some (_, part) => .ok part
    | none => .error (.slice start stop text)
  | none => .error (.slice start stop text)

def sliceFrom (start : Nat) (text : List Char) : Guarded (List Char) :=
  slice start (size text) text

/-- The byte offset of the first occurrence of a pattern. -/
def find? (pattern text : List Char) : Option Nat :=
  (Text.splitOnce? pattern text).map fun parts => size parts.1

theorem length_of_cut? {offset : Nat} {text front back : List Char}
    (cut : cut? offset text = some (front, back)) :
    text.length = front.length + back.length ∧ (offset ≠ 0 → front ≠ []) := by
  induction text generalizing offset front with
  | nil =>
    cases offset with
    | zero => simp_all [cut?]
    | succ offset => cases cut
  | cons character rest ih =>
    cases offset with
    | zero => simp_all [cut?]
    | succ offset =>
      rw [cut?] at cut
      split at cut
      · obtain ⟨⟨before, after⟩, found, same⟩ := Option.map_eq_some_iff.1 cut
        simp only [Prod.mk.injEq] at same
        obtain ⟨rfl, rfl⟩ := same
        have lengths := (ih found).1
        refine ⟨?_, fun _ => List.cons_ne_nil _ _⟩
        rw [List.length_cons, List.length_cons]
        omega
      · cases cut

/-- A slice that starts behind the start of a text is shorter than the text. -/
theorem length_lt_of_slice {start stop : Nat} {text part : List Char}
    (found : slice start stop text = .ok part) (behind : start ≠ 0) :
    part.length < text.length := by
  rw [slice] at found
  split at found
  · next front back cutStop =>
    split at found
    · next before inner cutStart =>
      cases found
      have whole := (length_of_cut? cutStop).1
      obtain ⟨parts, nonempty⟩ := length_of_cut? cutStart
      have positive := List.length_pos_iff.2 (nonempty behind)
      omega
    · cases found
  · cases found

end Bytewise

end Intake
