import Intake.Text.CaseMapping
import Intake.Text.Character

/-!
# Letter case

Upper and lower case of whole texts, by the full mappings: one character may become several
(`ß` is `SS` in upper case), and a capital sigma at the end of a word becomes a final sigma.
-/

namespace Intake

namespace LetterCase

open CaseMapping

/-- The mapping of one character above U+007F: its expansion if it has one, else its place in a
run, else itself. -/
def mapped (expansions : List (Nat × List Nat)) (runs : List Run) (character : Char) :
    List Char :=
  match expansions.lookup character.toNat with
  | some codes => codes.map Char.ofNat
  | none =>
    match runs.find? fun run =>
        run.first ≤ character.toNat && character.toNat ≤ run.last &&
          (character.toNat - run.first) % run.stride == 0 with
    | some run => [Char.ofNat (character.toNat + run.shift).toNat]
    | none => [character]

def upperChar (character : Char) : List Char :=
  if Character.isAscii character then [character.toUpper]
  else mapped upperExpansions upperRuns character

/-- The lower case of one character, wherever it stands. -/
def lowerChar (character : Char) : List Char :=
  if Character.isAscii character then [character.toLower]
  else mapped lowerExpansions lowerRuns character

def upper (text : List Char) : List Char :=
  text.flatMap upperChar

/-- Whether the next character that is not case-ignorable is a cased letter. -/
def meetsCased (text : List Char) : Bool :=
  match text.dropWhile Character.isCaseIgnorable with
  | [] => false
  | character :: _ => Character.isCased character

/-- The lower case of `text`, which follows the reversed text `before`. A capital sigma is final
when a cased letter stands before it in the word and none after it. -/
def lowerFrom (before : List Char) : List Char → List Char
  | [] => []
  | character :: rest =>
    (if character = 'Σ' then
      [if meetsCased before && !meetsCased rest then 'ς' else 'σ']
    else lowerChar character) ++ lowerFrom (character :: before) rest

def lower (text : List Char) : List Char :=
  lowerFrom [] text

def capitalized : List Char → List Char
  | [] => []
  | character :: rest => upperChar character ++ rest

/-- The text with its ASCII capitals in lower case and all else unchanged. -/
def asciiLower (text : List Char) : List Char :=
  text.map Char.toLower

end LetterCase

end Intake
