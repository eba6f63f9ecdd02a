import Intake.Text.Character

/-!
# Texts as lists of characters

The grammars work on lists of characters, where every cut is at a character boundary. This module
holds the cuts they share: trimming, splitting around a separator and replacing a pattern. Pieces
cut at a separator join back to the text (`joined_pieces`).
-/

namespace Intake

namespace Text

open Character

def trimStart (text : List Char) : List Char :=
  text.dropWhile isBlank

/-- The text without the characters at its end that satisfy `drop`. -/
def dropEndWhile (drop : Char → Bool) (text : List Char) : List Char :=
  (text.reverse.dropWhile drop).reverse

def trimEnd (text : List Char) : List Char :=
  dropEndWhile isBlank text

def trim (text : List Char) : List Char :=
  trimEnd (trimStart text)

/-- Whether a text has nothing but white space. -/
def isBlankText (text : List Char) : Bool :=
  text.all isBlank

/-- What follows `pattern` at the start of a text, if the text starts with it. -/
def afterPrefix? : (pattern text : List Char) → Option (List Char)
  | [], text => some text
  | _ :: _, [] => none
  | expected :: pattern, character :: text =>
    if expected = character then afterPrefix? pattern text else none

/-- The text before and after the first occurrence of `pattern`. -/
def splitOnce? (pattern : List Char) : List Char → Option (List Char × List Char)
  | [] => if pattern.isEmpty then some ([], []) else none
  | character :: rest =>
    match afterPrefix? pattern (character :: rest) with
    | some after => some ([], after)
    | none => (splitOnce? pattern rest).map fun parts => (character :: parts.1, parts.2)

def contains (pattern text : List Char) : Bool :=
  (splitOnce? pattern text).isSome

def startsWith (pattern text : List Char) : Bool :=
  (afterPrefix? pattern text).isSome

/-- The text before and after the first character `separator`. -/
def splitAt? (separator : Char) : List Char → Option (List Char × List Char)
  | [] => none
  | character :: rest =>
    if character = separator then some ([], rest)
    else (splitAt? separator rest).map fun parts => (character :: parts.1, parts.2)

/-- The pieces between the occurrences of `separator`; always at least one. -/
def pieces (separator : Char) : List Char → List (List Char)
  | [] => [[]]
  | character :: rest =>
    if character = separator then [] :: pieces separator rest
    else
      match pieces separator rest with
      | [] => [[character]]
      | piece :: others => (character :: piece) :: others

/-- The last of the pieces between the occurrences of `separator`. -/
def lastPiece (separator : Char) (text : List Char) : List Char :=
  (text.reverse.takeWhile (· ≠ separator)).reverse

/-- The pieces of a text that has the occurrences of a pattern at the given character skipped:
`skip` counts the characters of an occurrence that are still to be passed over. -/
def replaceFrom (pattern replacement : List Char) : Nat → List Char → List Char
  | _, [] => []
  | skip + 1, _ :: rest => replaceFrom pattern replacement skip rest
  | 0, character :: rest =>
    if startsWith pattern (character :: rest) then
      replacement ++ replaceFrom pattern replacement (pattern.length - 1) rest
    else character :: replaceFrom pattern replacement 0 rest

/-- The text with every occurrence of the non-empty `pattern`, taken from the left without
overlap, replaced. -/
def replace (pattern replacement text : List Char) : List Char :=
  replaceFrom pattern replacement 0 text

/-- The texts one after the other with `separator` between neighbours. -/
def joined (separator : List Char) : List (List Char) → List Char
  | [] => []
  | [text] => text
  | text :: others => text ++ separator ++ joined separator others

/-- The words of a text: its maximal runs without white space. The first argument is the word
being read, reversed. -/
def wordsFrom (word : List Char) : List Char → List (List Char)
  | [] => if word.isEmpty then [] else [word.reverse]
  | character :: rest =>
    if isBlank character then
      if word.isEmpty then wordsFrom [] rest else word.reverse :: wordsFrom [] rest
    else wordsFrom (character :: word) rest

def words (text : List Char) : List (List Char) :=
  wordsFrom [] text

/-- The text between two equal quotation marks that enclose it, single or double. -/
def unquote? : List Char → Option (List Char)
  | quote :: rest =>
    if (quote = '\'' ∨ quote = '"') ∧ rest.getLast? = some quote then some rest.dropLast
    else none
  | [] => none

/-- What stands between a first and a last character, if the text has these two. -/
def enclosed? (first last : Char) : List Char → Option (List Char)
  | character :: rest =>
    if character = first ∧ rest.getLast? = some last then some rest.dropLast else none
  | [] => none

theorem length_trim_le (text : List Char) : (trim text).length ≤ text.length := by
  have start : (trimStart text).length ≤ text.length :=
    (List.dropWhile_suffix _).length_le
  have finish : (trimEnd (trimStart text)).length ≤ (trimStart text).length := by
    have suffix := (List.dropWhile_suffix isBlank (l := (trimStart text).reverse)).length_le
    simpa [trimEnd, dropEndWhile] using suffix
  exact Nat.le_trans finish start

theorem length_afterPrefix? {pattern text after : List Char}
    (found : afterPrefix? pattern text = some after) :
    text.length = pattern.length + after.length := by
  induction pattern generalizing text with
  | nil => simp_all [afterPrefix?]
  | cons expected pattern ih =>
    cases text with
    | nil => simp [afterPrefix?] at found
    | cons character text =>
      simp only [afterPrefix?] at found
      split at found
      · have := ih found
        simp only [List.length_cons]
        omega
      · simp at found

/-- The parts around a pattern and the pattern together are as long as the text. -/
theorem length_splitOnce? {pattern text before after : List Char}
    (found : splitOnce? pattern text = some (before, after)) :
    text.length = before.length + pattern.length + after.length := by
  induction text generalizing before after with
  | nil =>
    simp only [splitOnce?] at found
    split at found
    · simp_all
    · simp at found
  | cons character rest ih =>
    simp only [splitOnce?] at found
    split at found
    · next parts found' =>
      have := length_afterPrefix? found'
      simp_all
    · simp only [Option.map_eq_some_iff, Prod.mk.injEq] at found
      obtain ⟨⟨head, tail⟩, split, rfl, rfl⟩ := found
      have := ih split
      simp only [List.length_cons]
      omega

theorem length_splitAt? {separator : Char} {text before after : List Char}
    (found : splitAt? separator text = some (before, after)) :
    text.length = before.length + 1 + after.length := by
  induction text generalizing before after with
  | nil => simp [splitAt?] at found
  | cons character rest ih =>
    simp only [splitAt?] at found
    split at found
    · simp_all
      omega
    · simp only [Option.map_eq_some_iff, Prod.mk.injEq] at found
      obtain ⟨⟨head, tail⟩, split, rfl, rfl⟩ := found
      have := ih split
      simp only [List.length_cons]
      omega

theorem length_enclosed? {first last : Char} {text inside : List Char}
    (found : enclosed? first last text = some inside) : inside.length < text.length := by
  cases text with
  | nil => simp [enclosed?] at found
  | cons character rest =>
    simp only [enclosed?] at found
    split at found
    · simp only [Option.some.injEq] at found
      subst found
      simp only [List.length_dropLast, List.length_cons]
      omega
    · simp at found

theorem pieces_ne_nil (separator : Char) (text : List Char) :
    pieces separator text ≠ [] := by
  cases text with
  | nil => simp [pieces]
  | cons character rest =>
    simp only [pieces]
    split
    · simp
    · split <;> simp

theorem length_le_of_mem_pieces {separator : Char} {text piece : List Char}
    (member : piece ∈ pieces separator text) : piece.length ≤ text.length := by
  induction text generalizing piece with
  | nil => simp_all [pieces]
  | cons character rest ih =>
    simp only [pieces] at member
    split at member
    · rcases List.mem_cons.1 member with rfl | member
      · simp
      · exact Nat.le_succ_of_le (ih member)
    · split at member
      · simp_all
      · next first more cut =>
        rcases List.mem_cons.1 member with rfl | member
        · exact Nat.succ_le_succ (ih (cut ▸ List.mem_cons_self))
        · exact Nat.le_succ_of_le (ih (cut ▸ List.mem_cons_of_mem _ member))

/-- A text that has the separator is longer than each of its pieces. -/
theorem length_lt_of_mem_pieces {separator : Char} {text piece : List Char}
    (present : separator ∈ text) (member : piece ∈ pieces separator text) :
    piece.length < text.length := by
  induction text generalizing piece with
  | nil => simp at present
  | cons character rest ih =>
    simp only [pieces] at member
    split at member
    · rcases List.mem_cons.1 member with rfl | member
      · simp
      · exact Nat.lt_succ_of_le (length_le_of_mem_pieces member)
    · next different =>
      have present' : separator ∈ rest := by
        rcases List.mem_cons.1 present with same | present
        · exact absurd same.symm different
        · exact present
      split at member
      · next cut => exact absurd cut (pieces_ne_nil _ _)
      · next first more cut =>
        rcases List.mem_cons.1 member with rfl | member
        · exact Nat.succ_lt_succ (ih present' (cut ▸ List.mem_cons_self))
        · exact Nat.lt_succ_of_lt (ih present' (cut ▸ List.mem_cons_of_mem _ member))

/-- The pieces of a text join back to it. -/
theorem joined_pieces (separator : Char) (text : List Char) :
    joined [separator] (pieces separator text) = text := by
  induction text with
  | nil => rfl
  | cons character rest ih =>
    obtain ⟨piece, others, cut⟩ := List.exists_cons_of_ne_nil (pieces_ne_nil separator rest)
    rw [cut] at ih
    by_cases same : character = separator
    · simp [pieces, same, cut, joined, ih]
    · cases others with
      | nil => simpa [pieces, same, cut, joined] using ih
      | cons next others => simpa [pieces, same, cut, joined] using ih

end Text

end Intake
