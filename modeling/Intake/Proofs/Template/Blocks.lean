import Intake.Proofs.Text.Balance
import Intake.Template.Rendering

/-!
# Templates and their blocks

A template that is put together from literal texts and blocks is taken apart again in the same
places, as long as every block closes the quotes and braces that it opens. So it renders block by
block: literal text stays as it is, and what a block yields is never looked at again.
-/

namespace Intake

namespace Block

/-- What a reader of a block remembers of the text before a place. -/
structure Scan where
  depth : Nat := 0
  quote : Option Char := none
  previous : Option Char := none

namespace Scan

def step (scan : Scan) (character : Char) : Scan :=
  match scan.quote with
  | some quote =>
    { scan with
      quote := if character = quote ∧ scan.previous ≠ some '\\' then none else some quote
      previous := some character }
  | none =>
    { depth :=
        if character = '{' then scan.depth + 1
        else if character = '}' then scan.depth - 1
        else scan.depth
      quote := if Nesting.isQuote character then some character else none
      previous := some character }

def isOuter (scan : Scan) : Bool :=
  scan.quote.isNone && scan.depth == 0

/-- Whether a text goes on to a place outside quotes and braces, and meets no closing brace in
such a place. -/
def closes (scan : Scan) : List Char → Bool
  | [] => scan.isOuter
  | character :: rest =>
    !(character == '}' && scan.isOuter) && (scan.step character).closes rest

end Scan

/-- Whether the inside of a block closes the quotes and braces that it opens, and no others. -/
def isBalanced (body : List Char) : Bool :=
  Scan.closes {} body

/-- Outside quotes only the depth matters for what follows. -/
theorem Scan.closes_of_outside {scan : Scan} (outside : scan.quote = none) (text : List Char) :
    scan.closes text = Scan.closes { depth := scan.depth } text := by
  cases text <;> simp [closes, isOuter, step, outside]

theorem Scan.closes_quoted {scan : Scan} {mark : Char} (quoted : scan.quote = some mark)
    (free : scan.previous ≠ some '\\') {content : List Char} (clean : mark ∉ content)
    (plain : '\\' ∉ content) (rest : List Char) :
    scan.closes (content ++ mark :: rest) = Scan.closes { depth := scan.depth } rest := by
  induction content generalizing scan with
  | nil =>
    have closed : (scan.step mark).quote = none := by simp [step, quoted, free]
    have deep : (scan.step mark).depth = scan.depth := by simp [step, quoted]
    rw [List.nil_append, closes, closes_of_outside closed, deep]
    simp [isOuter, quoted]
  | cons character others ih =>
    rw [List.mem_cons, not_or] at clean plain
    have goesOn : (scan.step character).quote = some mark := by
      simp [step, quoted, Ne.symm clean.1]
    have deep : (scan.step character).depth = scan.depth := by simp [step, quoted]
    have stillFree : (scan.step character).previous ≠ some '\\' := by
      simp [step, quoted, Ne.symm plain.1]
    rw [List.cons_append, closes, ih goesOn stillFree clean.2 plain.2, deep]
    simp [isOuter, quoted]

/-- Whether a reader of a block is behind a text as it was in front of it. -/
def Passed (text : List Char) : Prop :=
  ∀ rest, Scan.closes {} (text ++ rest) = Scan.closes {} rest

theorem Passed.append {first second : List Char} (firstPassed : Passed first)
    (secondPassed : Passed second) : Passed (first ++ second) := by
  intro rest
  rw [List.append_assoc, firstPassed, secondPassed]

/-- Quotes and curly brackets alone matter to a reader of a block. -/
theorem passed_of_unbraced {text : List Char}
    (plain : ∀ character ∈ text,
      Nesting.isQuote character = false ∧ character ≠ '{' ∧ character ≠ '}') : Passed text := by
  intro rest
  induction text with
  | nil => rfl
  | cons character others ih =>
    rw [List.forall_mem_cons] at plain
    obtain ⟨⟨noQuote, noOpening, noClosing⟩, othersPlain⟩ := plain
    have outside : (Scan.step {} character).quote = none := by simp [Scan.step, noQuote]
    have level : (Scan.step {} character).depth = 0 := by simp [Scan.step, noOpening, noClosing]
    rw [List.cons_append, Scan.closes, Scan.closes_of_outside outside, level, ← ih othersPlain]
    simp [noClosing]

theorem passed_of_plain {text : List Char}
    (plain : ∀ character ∈ text, Nesting.isMark character = false) : Passed text := by
  apply passed_of_unbraced
  intro character member
  have noMark := plain character member
  simp only [Nesting.isMark, Nesting.isOpening, Nesting.isClosing, Bool.or_eq_false_iff,
    beq_eq_false_iff_ne] at noMark
  obtain ⟨⟨noQuote, opening⟩, closing⟩ := noMark
  exact ⟨noQuote, opening.2, closing.2⟩

theorem passed_quoted {mark : Char} (isQuote : Nesting.isQuote mark = true) {content : List Char}
    (clean : mark ∉ content) (plain : '\\' ∉ content) : Passed (mark :: (content ++ [mark])) := by
  intro rest
  have marks := Nesting.mark_cases isQuote
  have quoted : (Scan.step {} mark).quote = some mark := by simp [Scan.step, isQuote]
  have free : (Scan.step {} mark).previous ≠ some '\\' := by
    rcases marks with rfl | rfl <;> decide
  have level : (Scan.step {} mark).depth = 0 := by
    rcases marks with rfl | rfl <;> rfl
  have noBrace : (mark == '}') = false := by
    rcases marks with rfl | rfl <;> rfl
  rw [List.cons_append, List.append_assoc, List.singleton_append, Scan.closes,
    Scan.closes_quoted quoted free clean plain, level, noBrace]
  rfl

theorem Passed.isBalanced {body : List Char} (passed : Passed body) :
    Block.isBalanced body = true := by
  have whole := passed []
  rw [List.append_nil] at whole
  exact whole

/-- A text that closes what is open is passed over up to the end of the block. -/
theorem endingFrom_of_closes {scan : Scan} {body : List Char} (closes : scan.closes body = true)
    (rest : List Char) :
    endingFrom scan.depth scan.quote scan.previous (body ++ '}' :: '}' :: rest) =
      .found body rest := by
  induction body generalizing scan with
  | nil =>
    simp only [Scan.closes, Scan.isOuter, Bool.and_eq_true, Option.isNone_iff_eq_none,
      beq_iff_eq] at closes
    rw [closes.1, closes.2]
    rfl
  | cons character others ih =>
    simp only [Scan.closes, Bool.and_eq_true] at closes
    have behind := ih closes.2
    cases quoted : scan.quote with
    | some quote =>
      simp only [Scan.step, quoted] at behind
      rw [List.cons_append, endingFrom, behind, Ending.cons]
    | none =>
      simp only [Scan.step, quoted] at behind
      have inner : ¬ (character = '}' ∧ scan.depth = 0 ∧
          (others ++ '}' :: '}' :: rest).head? = some '}') := by
        -- A brace in such a place would have ended the body.
        rintro ⟨brace, outer, -⟩
        simp [brace, outer, Scan.isOuter, quoted] at closes
      rw [List.cons_append, endingFrom, if_neg inner]
      exact congrArg (Ending.cons character) behind

theorem split?_of_isBalanced {body : List Char} (balanced : isBalanced body = true)
    (rest : List Char) : split? (body ++ '}' :: '}' :: rest) = some (body, rest) := by
  have found : endingFrom 0 none none (body ++ '}' :: '}' :: rest) = .found body rest :=
    endingFrom_of_closes balanced rest
  rw [split?, found]

/-- Whether a block opens somewhere in a text. -/
def opens (text : List Char) : Bool :=
  Text.contains ['{', '{'] text

theorem splitOnce?_cons_of_not_brace {character : Char} {text : List Char}
    (passed : ¬ (character = '{' ∧ text.head? = some '{')) :
    Text.splitOnce? ['{', '{'] (character :: text) =
      (Text.splitOnce? ['{', '{'] text).map fun parts => (character :: parts.1, parts.2) := by
  have differs : Text.afterPrefix? ['{', '{'] (character :: text) = none := by
    by_cases first : '{' = character
    · cases text with
      | nil => simp [Text.afterPrefix?]
      | cons second others =>
        have next : '{' ≠ second := fun next => passed ⟨first.symm, by rw [next]; rfl⟩
        simp [Text.afterPrefix?, next]
    · rw [Text.afterPrefix?, if_neg first]
  rw [Text.splitOnce?, differs]

theorem not_brace_of_opens_eq_false {character : Char} {text : List Char}
    (unopened : opens (character :: text) = false) :
    ¬ (character = '{' ∧ text.head? = some '{') := by
  rintro ⟨rfl, next⟩
  obtain ⟨others, rfl⟩ := List.head?_eq_some_iff.1 next
  cases unopened

theorem opens_tail_eq_false {character : Char} {text : List Char}
    (unopened : opens (character :: text) = false) : opens text = false := by
  rw [opens, Text.contains, splitOnce?_cons_of_not_brace (not_brace_of_opens_eq_false unopened),
    Option.isSome_map] at unopened
  exact unopened

/-- The first block opens behind a text in which none does, unless a brace at the end of that text
takes the place of the block's own. -/
theorem splitOnce?_of_opens_eq_false {literal : List Char} (unopened : opens literal = false)
    (ended : literal.getLast? ≠ some '{') (after : List Char) :
    Text.splitOnce? ['{', '{'] (literal ++ '{' :: '{' :: after) = some (literal, after) := by
  induction literal with
  | nil => rfl
  | cons character others ih =>
    have passed : ¬ (character = '{' ∧ (others ++ '{' :: '{' :: after).head? = some '{') := by
      cases others with
      | nil => simpa using ended
      | cons second rest => simpa using not_brace_of_opens_eq_false unopened
    have ended' : others.getLast? ≠ some '{' := by
      intro last
      obtain ⟨start, rfl⟩ := List.getLast?_eq_some_iff.1 last
      rw [← List.cons_append, List.getLast?_concat] at ended
      exact ended rfl
    rw [List.cons_append, splitOnce?_cons_of_not_brace passed,
      ih (opens_tail_eq_false unopened) ended', Option.map_some]

theorem segments_of_opens_eq_false {template : List Char} (unopened : opens template = false) :
    segments template = [.literal template] := by
  have missing : Text.splitOnce? ['{', '{'] template = none := by
    simpa [opens, Text.contains] using unopened
  rw [segments]
  split
  · rfl
  · next opened =>
    rw [missing] at opened
    cases opened

def braced (body : List Char) : List Char :=
  '{' :: '{' :: body ++ ['}', '}']

def segment (body : List Char) : Segment :=
  if Text.isBlankText body then .literal (braced body) else .block (Text.trim body)

theorem segments_of_closed {template before after body rest : List Char}
    (opened : Text.splitOnce? ['{', '{'] template = some (before, after))
    (closed : split? after = some (body, rest)) :
    segments template = .literal before :: segment body :: segments rest := by
  rw [segments]
  split
  · next missing =>
    rw [opened] at missing
    cases missing
  · next found =>
    rw [opened] at found
    obtain ⟨rfl, rfl⟩ := Prod.mk.inj (Option.some.inj found)
    split
    · next missing =>
      rw [closed] at missing
      cases missing
    · next found =>
      rw [closed] at found
      obtain ⟨rfl, rfl⟩ := Prod.mk.inj (Option.some.inj found)
      rfl

/-- A block and the literal text before it, such that neither can be taken for the other. -/
structure Part where
  literal : List Char
  body : List Char
  unopened : opens literal = false
  ended : literal.getLast? ≠ some '{'
  balanced : isBalanced body = true

/-- The template that is put together from parts and a last literal text. -/
def written : (parts : List Part) → (last : List Char) → List Char
  | [], last => last
  | part :: others, last => part.literal ++ braced part.body ++ written others last

theorem segments_part (part : Part) (rest : List Char) :
    segments (part.literal ++ braced part.body ++ rest) =
      .literal part.literal :: segment part.body :: segments rest := by
  have same : part.literal ++ braced part.body ++ rest =
      part.literal ++ '{' :: '{' :: (part.body ++ '}' :: '}' :: rest) := by
    simp [braced]
  rw [same]
  apply segments_of_closed
  · exact splitOnce?_of_opens_eq_false part.unopened part.ended _
  · exact split?_of_isBalanced part.balanced rest

/-- A template is taken apart where it was put together. -/
theorem segments_written (parts : List Part) {last : List Char} (unopened : opens last = false) :
    segments (written parts last) =
      parts.flatMap (fun part => [.literal part.literal, segment part.body]) ++
        [.literal last] := by
  induction parts with
  | nil => exact segments_of_opens_eq_false unopened
  | cons part others ih =>
    rw [written, segments_part, ih]
    rfl

end Block

namespace Renderer

variable (renderer : Renderer) (context : Context)

/-- What a template has in the place of a block. -/
def blockText (body : List Char) : List Char :=
  if Text.isBlankText body then Block.braced body else renderer.evaluate (Text.trim body) context

theorem segmentText_segment (body : List Char) :
    renderer.segmentText context (Block.segment body) = renderer.blockText context body := by
  unfold Block.segment blockText
  split <;> rfl

/-- A block on its own. -/
theorem render_braced {body : List Char} (balanced : Block.isBalanced body = true)
    (visible : Text.isBlankText body = false) :
    renderer.render (Block.braced body) context =
      renderer.evaluate (Text.trim body) context := by
  have empty : Block.segments [] = [.literal []] := Block.segments_of_opens_eq_false rfl
  have parts : Block.segments (Block.braced body) =
      [.literal [], Block.segment body, .literal []] := by
    have written := Block.segments_part ⟨[], body, rfl, by simp, balanced⟩ []
    rwa [List.nil_append, List.append_nil, empty] at written
  rw [render, parts, List.flatMap_cons, List.flatMap_cons, segmentText_segment, blockText, visible]
  simp [segmentText]

/-- A template renders to its literal texts, as they are, and to what its blocks yield, whatever
that text may look like. -/
theorem render_written (parts : List Block.Part) {last : List Char}
    (unopened : Block.opens last = false) :
    renderer.render (Block.written parts last) context =
      parts.flatMap (fun part => part.literal ++ renderer.blockText context part.body) ++
        last := by
  rw [render, Block.segments_written parts unopened, List.flatMap_append, List.flatMap_assoc]
  congr 1
  · simp only [List.flatMap_cons, List.flatMap_nil, List.append_nil, segmentText_segment]
    rfl
  · simp [segmentText]

/-- Parts with an object literal, closing braces in quotes, a brace next to a block, a blank block
and two blocks side by side. -/
def letterParts : List Block.Part :=
  [ { literal := "\x7b ".toList, body := "name".toList,
      unopened := by decide +kernel, ended := by decide +kernel, balanced := by decide +kernel },
    { literal := " {to} ".toList, body := " count(\x7b to: name, is: '\x7d\x7d' \x7d) ".toList,
      unopened := by decide +kernel, ended := by decide +kernel, balanced := by decide +kernel },
    { literal := "\x7d".toList, body := "  ".toList,
      unopened := by decide +kernel, ended := by decide +kernel, balanced := by decide +kernel },
    { literal := [], body := " '\x7d\x7d' ~ name ".toList,
      unopened := by decide +kernel, ended := by decide +kernel, balanced := by decide +kernel } ]

/-- A name that is a template itself. -/
def letterContext : Context where
  base := [("name", .text "{{ name }}")]

theorem render_written_letter :
    Block.opens " \x7b".toList = false ∧
      ({} : Renderer).render (Block.written letterParts " \x7b".toList) letterContext =
        "\x7b {{ name }} {to} 2\x7d{{  }}\x7d\x7d{{ name }} \x7b".toList := by
  have unopened : Block.opens " \x7b".toList = false := by decide +kernel
  refine ⟨unopened, ?_⟩
  rw [render_written {} letterContext letterParts unopened]
  decide +kernel

end Renderer

end Intake
