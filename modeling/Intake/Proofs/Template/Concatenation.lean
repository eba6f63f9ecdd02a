import Intake.Condition.Evaluator
import Intake.Proofs.Condition.OperandText
import Intake.Proofs.Template.Literal

/-!
# Concatenations

Quoted texts and paths with `~` between them. A block shows one after the other. On the right of
`??` and as an operand of a condition the text is looked at for outer quotes first, so there it
means the same unless it starts and ends with the same mark: then it is taken for one quoted text.
-/

namespace Intake

open Nesting Text Expression

/-- What a block shows of a path. -/
def Context.shown (context : Context) (path : List Char) : List Char :=
  ((context.lookup path).map Value.display).getD []

/-- What a block shows of a path with a fallback. -/
def Context.shownOr (context : Context) (path fallback : List Char) : List Char :=
  if context.shown path ≠ [] ∧ context.shown path ≠ "null".toList then context.shown path
  else fallback

namespace Concatenation

/-- The characters of a quoted text that are neither quotes nor read as operators. -/
def isPlain (character : Char) : Bool :=
  !("'\"\\~?()".toList.contains character)

/-- A quoted text or a path. -/
inductive Segment where
  | quoted (mark : Char) (content : List Char) (isMark : isQuote mark = true)
      (plain : content.all isPlain = true)
  | path (content : List Char) (isPath : Operand.isPath content = true)

namespace Segment

def text : Segment → List Char
  | quoted mark content _ _ => quotedText mark content
  | path content _ => content

def tree : Segment → Expression
  | quoted _ content _ _ => .literal content
  | path content _ => .path content

def shown (context : Context) : Segment → List Char
  | quoted _ content _ _ => content
  | path content _ => context.shown content

def mark? : Segment → Option Char
  | quoted mark _ _ _ => some mark
  | path _ _ => none

/-- Whether a character is the first one of some segment. -/
def starts (character : Char) : Bool :=
  isQuote character || Operand.startsPath character

theorem exists_first (segment : Segment) :
    ∃ first rest, segment.text = first :: rest ∧ starts first = true := by
  cases segment with
  | quoted mark content isMark plain => exact ⟨mark, _, rfl, by simp [starts, isMark]⟩
  | path content isPath =>
    obtain ⟨first, rest, same, startsPath, -⟩ := Operand.characters_of_isPath isPath
    exact ⟨first, rest, same, by simp [starts, startsPath]⟩

theorem not_mem_path {content : List Char} (isPath : Operand.isPath content = true)
    {character : Char}
    (outside : (character == '.' || Operand.continuesSegment character) = false) :
    character ∉ content := by
  intro member
  rw [Bool.or_eq_false_iff, beq_eq_false_iff_ne] at outside
  rcases Operand.segment_of_mem isPath member with point | inside
  · exact outside.1 point
  · rw [inside] at outside
    cases outside.2

theorem quote_not_mem_path {content : List Char} (isPath : Operand.isPath content = true)
    {mark : Char} (isMark : isQuote mark = true) : mark ∉ content := by
  apply not_mem_path isPath
  rcases mark_cases isMark with rfl | rfl <;> rfl

theorem unquote?_path {content : List Char} (isPath : Operand.isPath content = true) :
    unquote? content = none :=
  unquote?_of_not_mem fun _ isMark => quote_not_mem_path isPath isMark

/-- No segment has a character of an operator in it. -/
theorem not_mem_text (segment : Segment) {character : Char} (unquoted : isQuote character = false)
    (notPlain : isPlain character = false)
    (notPath : (character == '.' || Operand.continuesSegment character) = false) :
    character ∉ segment.text := by
  cases segment with
  | quoted mark content isMark plain =>
    rw [text, mem_quotedText_iff (ne_of_isMember isMark unquoted)]
    exact not_mem_of_all plain notPlain
  | path content isPath => exact not_mem_path isPath notPath

theorem passed (segment : Segment) : Block.Passed segment.text := by
  cases segment with
  | quoted mark content isMark plain =>
    have clean : mark ∉ content := by
      apply not_mem_of_all plain
      rcases mark_cases isMark with rfl | rfl <;> rfl
    exact Block.passed_quoted isMark clean (not_mem_of_all plain rfl)
  | path content isPath =>
    apply Block.passed_of_plain
    intro character member
    have solid := List.all_eq_true.1 (Operand.isSolid_of_isPath isPath) character member
    exact Condition.isMark_eq_false_of_not_mem (Condition.isSolid_iff.1 solid).1

theorem stops_reverse (segment : Segment) : Stops Character.isBlank segment.text.reverse := by
  cases segment with
  | quoted mark content isMark plain =>
    rw [text, quotedText, List.reverse_cons, List.reverse_append]
    exact stops_cons (not_isBlank_of_isQuote isMark)
  | path content isPath =>
    apply stops_of_forall
    intro character member
    have solid :=
      List.all_eq_true.1 (Operand.isSolid_of_isPath isPath) character (List.mem_reverse.1 member)
    exact (Condition.isSolid_iff.1 solid).2.1

theorem not_isBlank_of_starts {character : Char} (first : starts character = true) :
    Character.isBlank character = false := by
  rcases Bool.or_eq_true_iff.1 first with quote | name
  · exact not_isBlank_of_isQuote quote
  · have solid := Operand.isSolid_of_continuesSegment (Operand.continuesSegment_of_startsPath name)
    exact (Condition.isSolid_iff.1 solid).2.1

/-- A text that starts as a segment does is no numeral. -/
theorem textValue?_of_starts {first : Char} (isFirst : starts first = true) {rest : List Char}
    (kept : trim (first :: rest) = first :: rest) : Numeral.textValue? (first :: rest) = none := by
  have outside : ∀ {character}, starts character = false → first ≠ character :=
    ne_of_isMember isFirst
  have noDigit : Character.isDecimalDigit first = false := by
    rcases Bool.or_eq_true_iff.1 isFirst with quote | name
    · rcases mark_cases quote with rfl | rfl <;> rfl
    · exact Operand.not_isDecimalDigit_of_startsPath name
  exact Numeral.textValue?_of_first ⟨outside rfl, outside rfl⟩ (outside rfl) noDigit kept

theorem text_ne_nil (segment : Segment) : segment.text ≠ [] := by
  obtain ⟨first, rest, same, -⟩ := segment.exists_first
  rw [same]
  exact List.cons_ne_nil _ _

theorem stops (segment : Segment) : Stops Character.isBlank segment.text := by
  obtain ⟨first, rest, same, isFirst⟩ := segment.exists_first
  rw [same]
  exact stops_cons (not_isBlank_of_starts isFirst)

theorem trim_text (segment : Segment) : trim segment.text = segment.text :=
  trim_of_stops segment.stops segment.stops_reverse

theorem textValue?_text (segment : Segment) : Numeral.textValue? segment.text = none := by
  have kept := segment.trim_text
  obtain ⟨first, rest, same, isFirst⟩ := segment.exists_first
  rw [same] at kept ⊢
  exact textValue?_of_starts isFirst kept

theorem head?_text_iff (segment : Segment) {mark : Char} (isMark : isQuote mark = true) :
    segment.text.head? = some mark ↔ segment.mark? = some mark := by
  cases segment with
  | quoted first content _ _ => simp [text, quotedText, mark?]
  | path content isPath =>
    simp only [text, mark?, reduceCtorEq, iff_false]
    exact fun first => quote_not_mem_path isPath isMark (List.mem_of_mem_head? first)

theorem getLast?_text_iff (segment : Segment) {mark : Char} (isMark : isQuote mark = true) :
    segment.text.getLast? = some mark ↔ segment.mark? = some mark := by
  cases segment with
  | quoted first content _ _ =>
    rw [text, quotedText, ← List.cons_append, List.getLast?_concat, mark?]
  | path content isPath =>
    simp only [text, mark?, reduceCtorEq, iff_false]
    exact fun last => quote_not_mem_path isPath isMark (List.mem_of_getLast? last)

theorem text_of_mark? {segment : Segment} {mark : Char} (marked : segment.mark? = some mark) :
    isQuote mark = true ∧ ∃ content, segment.text = quotedText mark content := by
  cases segment with
  | quoted first content isMark plain =>
    obtain rfl := Option.some.inj marked
    exact ⟨isMark, content, rfl⟩
  | path content isPath => cases marked

theorem parse_text (segment : Segment) : parse segment.text = segment.tree := by
  have simple : hasOperator segment.text = false :=
    hasOperator_eq_false_of_not_mem (segment.not_mem_text rfl rfl rfl)
      (segment.not_mem_text rfl rfl rfl) (segment.not_mem_text rfl rfl rfl)
  rw [parse_of_hasOperator_eq_false segment.trim_text simple]
  cases segment with
  | quoted mark content isMark plain => rw [text, unquote?_quotedText isMark, tree]
  | path content isPath =>
    have unquoted : unquote? (path content isPath).text = none := unquote?_path isPath
    rw [unquoted, textValue?_text]
    rfl

theorem parsePart_text (segment : Segment) : parsePart segment.text = segment.tree := by
  cases segment with
  | quoted mark content isMark plain => rw [text, parsePart, unquote?_quotedText isMark, tree]
  | path content isPath =>
    have unquoted : unquote? (path content isPath).text = none := unquote?_path isPath
    rw [parsePart_of_unquote?_eq_none unquoted, parse_text]

theorem evaluateTree_tree (renderer : Renderer) (context : Context) (segment : Segment) :
    renderer.evaluateTree context segment.tree = segment.shown context := by
  cases segment <;> rfl

end Segment

/-- A segment behind the first one, and the white space around the `~` in front of it. -/
structure Link where
  before : List Char
  after : List Char
  segment : Segment
  beforeBlank : isBlankText before = true
  afterBlank : isBlankText after = true

def Link.text (link : Link) : List Char :=
  link.before ++ '~' :: (link.after ++ link.segment.text)

end Concatenation

open Concatenation in
/-- A segment, and others linked to it. -/
structure Concatenation where
  first : Segment
  others : List Link

namespace Concatenation

variable (whole : Concatenation)

def segments : List Segment :=
  whole.first :: whole.others.map Link.segment

def text : List Char :=
  whole.first.text ++ whole.others.flatMap Link.text

def last : Segment :=
  (whole.others.map Link.segment).getLastD whole.first

/-- Whether there are several segments, with the same mark in front of the first and behind the
last. -/
def looksQuoted : Bool :=
  !whole.others.isEmpty && whole.first.mark?.isSome && whole.first.mark? == whole.last.mark?

def tree : Expression :=
  if whole.others = [] then whole.first.tree else .concat (whole.segments.map Segment.tree)

theorem pieces_links {front : List Char} (absent : '~' ∉ front) (links : List Link) :
    (pieces '~' (front ++ links.flatMap Link.text)).map trim =
      trim front :: links.map fun link => link.segment.text := by
  -- The front varies: behind the first tilde it is a segment with its white space.
  induction links generalizing front with
  | nil => simp [pieces_of_not_mem absent]
  | cons link others ih =>
    have split : front ++ (link :: others).flatMap Link.text =
        front ++ link.before ++
          '~' :: (link.after ++ link.segment.text ++ others.flatMap Link.text) := by
      simp [Link.text]
    have noTilde : '~' ∉ front ++ link.before := by
      rw [List.mem_append, not_or]
      exact ⟨absent, not_mem_of_all link.beforeBlank rfl⟩
    have noTildeBehind : '~' ∉ link.after ++ link.segment.text := by
      rw [List.mem_append, not_or]
      exact ⟨not_mem_of_all link.afterBlank rfl, link.segment.not_mem_text rfl rfl rfl⟩
    rw [split, pieces_append_of_not_mem noTilde, List.map_cons, ih noTildeBehind,
      trim_append_blank link.beforeBlank, trim_blank_append link.afterBlank,
      link.segment.trim_text, List.map_cons]

/-- The pieces between the tildes are the segments. -/
theorem pieces_text :
    (pieces '~' whole.text).map trim = whole.segments.map Segment.text := by
  rw [text, pieces_links (whole.first.not_mem_text rfl rfl rfl), whole.first.trim_text, segments,
    List.map_cons, List.map_map]
  rfl

theorem text_of_others_eq_nil (single : whole.others = []) : whole.text = whole.first.text := by
  rw [text, single, List.flatMap_nil, List.append_nil]

theorem text_of_others_ne_nil (several : whole.others ≠ []) :
    ∃ middle, whole.text = whole.first.text ++ (middle ++ whole.last.text) := by
  rcases List.eq_nil_or_concat whole.others with none | ⟨start, link, same⟩
  · exact absurd none several
  · refine ⟨start.flatMap Link.text ++ (link.before ++ '~' :: link.after), ?_⟩
    simp [text, last, same, Link.text]

theorem exists_first :
    ∃ first rest, whole.text = first :: rest ∧ Segment.starts first = true := by
  obtain ⟨first, rest, same, isFirst⟩ := whole.first.exists_first
  exact ⟨first, _, by rw [text, same, List.cons_append], isFirst⟩

theorem text_ne_nil : whole.text ≠ [] := by
  simp [text, whole.first.text_ne_nil]

theorem stops_reverse : Stops Character.isBlank whole.text.reverse := by
  by_cases single : whole.others = []
  · rw [whole.text_of_others_eq_nil single]
    exact whole.first.stops_reverse
  · obtain ⟨middle, same⟩ := whole.text_of_others_ne_nil single
    rw [same, ← List.append_assoc, List.reverse_append]
    exact whole.last.stops_reverse.append (by simp [whole.last.text_ne_nil]) _

theorem trim_text : trim whole.text = whole.text :=
  trim_of_stops (whole.first.stops.append whole.first.text_ne_nil _) whole.stops_reverse

theorem not_mem_text {character : Char} (visible : Character.isBlank character = false)
    (noTilde : character ≠ '~') (absent : ∀ segment : Segment, character ∉ segment.text) :
    character ∉ whole.text := by
  simp only [text, List.mem_append, List.mem_flatMap, not_or, not_exists, not_and]
  refine ⟨absent _, fun link _ => ?_⟩
  simp [Link.text, noTilde, absent, not_mem_of_all link.beforeBlank visible,
    not_mem_of_all link.afterBlank visible]

theorem tilde_mem_text (several : whole.others ≠ []) : '~' ∈ whole.text := by
  obtain ⟨link, others, same⟩ := List.exists_cons_of_ne_nil several
  simp [text, same, Link.text]

theorem parse_text : parse whole.text = whole.tree := by
  by_cases single : whole.others = []
  · rw [tree, if_pos single, whole.text_of_others_eq_nil single, Segment.parse_text]
  · have noMark : '?' ∉ whole.text :=
      whole.not_mem_text rfl (by decide) fun segment => segment.not_mem_text rfl rfl rfl
    have parts : ((pieces '~' whole.text).map fun piece => parsePart (trim piece)) =
        whole.segments.map Segment.tree := by
      have mapped := congrArg (List.map parsePart) whole.pieces_text
      rw [List.map_map, List.map_map] at mapped
      refine mapped.trans (List.map_congr_left fun segment _ => ?_)
      exact segment.parsePart_text
    rw [parse_unfolded, whole.trim_text, splitOnce?_of_not_mem noMark, tree, if_neg single]
    simp only [whole.tilde_mem_text single, ↓reduceIte, parts]

/-- A block shows the segments one after the other. -/
theorem evaluate_text (renderer : Renderer) (context : Context) :
    renderer.evaluate whole.text context = whole.segments.flatMap (Segment.shown context) := by
  rw [Renderer.evaluate, parse_text, tree]
  split
  · next single =>
    rw [Segment.evaluateTree_tree, segments, single, List.map_nil, List.flatMap_singleton]
  · rw [Renderer.evaluateTree, Renderer.evaluateParts_eq_flatMap, List.flatMap_map]
    exact congrArg (List.flatMap · _) (funext (Segment.evaluateTree_tree renderer context))

theorem looksQuoted_iff :
    whole.looksQuoted = true ↔
      whole.others ≠ [] ∧ ∃ mark, whole.first.mark? = some mark ∧ whole.last.mark? = some mark := by
  simp only [looksQuoted, Bool.and_eq_true, Bool.not_eq_true', List.isEmpty_eq_false_iff,
    Option.isSome_iff_exists, beq_iff_eq, and_assoc]
  refine and_congr_right fun _ => ⟨?_, ?_⟩
  · rintro ⟨⟨mark, first⟩, same⟩
    exact ⟨mark, first, same ▸ first⟩
  · rintro ⟨mark, first, last⟩
    exact ⟨⟨mark, first⟩, first.trans last.symm⟩

/-- What stands between the outer marks has these marks in it. -/
theorem exists_inside (looks : whole.looksQuoted = true) :
    ∃ mark inside, isQuote mark = true ∧ whole.text = quotedText mark inside ∧ mark ∈ inside := by
  obtain ⟨several, mark, first, last⟩ := whole.looksQuoted_iff.1 looks
  obtain ⟨middle, same⟩ := whole.text_of_others_ne_nil several
  obtain ⟨isMark, firstContent, firstText⟩ := Segment.text_of_mark? first
  obtain ⟨-, lastContent, lastText⟩ := Segment.text_of_mark? last
  refine ⟨mark, firstContent ++ mark :: (middle ++ mark :: lastContent), isMark, ?_, by simp⟩
  rw [same, firstText, lastText]
  simp [quotedText]

theorem unquote?_text (looks : whole.looksQuoted = false) (several : whole.others ≠ []) :
    unquote? whole.text = none := by
  cases found : unquote? whole.text with
  | none => rfl
  | some inside =>
    obtain ⟨mark, isMark, quoted⟩ := unquote?_eq_some_iff.1 found
    obtain ⟨middle, same⟩ := whole.text_of_others_ne_nil several
    -- The outer marks are those of the first and of the last segment.
    have firstMark : whole.first.text.head? = some mark := by
      obtain ⟨character, rest, firstText, -⟩ := whole.first.exists_first
      have head := congrArg List.head? (same.symm.trans quoted)
      rw [firstText] at head ⊢
      exact head
    have lastMark : whole.last.text.getLast? = some mark := by
      have ends := congrArg List.getLast? (same.symm.trans quoted)
      rwa [quotedText, ← List.cons_append, List.getLast?_concat, ← List.append_assoc,
        List.getLast?_append_of_ne_nil _ whole.last.text_ne_nil] at ends
    rw [Segment.head?_text_iff _ isMark] at firstMark
    rw [Segment.getLast?_text_iff _ isMark] at lastMark
    rw [whole.looksQuoted_iff.2 ⟨several, mark, firstMark, lastMark⟩] at looks
    cases looks

theorem parsePart_text (looks : whole.looksQuoted = false) :
    parsePart whole.text = whole.tree := by
  by_cases single : whole.others = []
  · rw [whole.text_of_others_eq_nil single, Segment.parsePart_text, tree, if_pos single]
  · rw [parsePart_of_unquote?_eq_none (whole.unquote?_text looks single), parse_text]

theorem operand_text (looks : whole.looksQuoted = false) (several : whole.others ≠ []) :
    Operand.parse whole.text = .expression whole.text := by
  have tilde := whole.tilde_mem_text several
  have kept := whole.trim_text
  have notWord : whole.text ∉ Operand.literalWords := by
    have without : ∀ word ∈ Operand.literalWords, '~' ∉ word := by decide
    exact fun member => without _ member tilde
  have noPath : Operand.isPath whole.text = false := by
    rw [← Bool.not_eq_true]
    exact fun isPath => Segment.not_mem_path isPath rfl tilde
  have unquoted := whole.unquote?_text looks several
  obtain ⟨first, rest, same, isFirst⟩ := whole.exists_first
  rw [same] at kept notWord noPath unquoted ⊢
  have bracket : first ≠ '[' := ne_of_isMember isFirst rfl
  have noNumber := Segment.textValue?_of_starts isFirst kept
  have noList : Operand.listParts? (first :: rest) = none := by
    simp [Operand.listParts?, enclosed?, bracket]
  exact Operand.parse_of_expression kept (Operand.literal?_eq_none unquoted noNumber notWord) noList
    noPath

theorem passed_of_isBlankText {blanks : List Char} (blank : isBlankText blanks = true) :
    Block.Passed blanks := by
  apply Block.passed_of_plain
  intro character member
  have isBlank := List.all_eq_true.1 blank character member
  exact Condition.isMark_eq_false_of_not_mem (Condition.not_mem_marks_of_isBlank isBlank)

theorem passed_text : Block.Passed whole.text := by
  have links : ∀ links : List Link, Block.Passed (links.flatMap Link.text) := by
    intro links
    induction links with
    | nil => exact fun _ => rfl
    | cons link others ih =>
      have behind := (passed_of_isBlankText link.afterBlank).append link.segment.passed
      have tilde : Block.Passed ['~'] := Block.passed_of_plain (List.forall_mem_singleton.2 rfl)
      exact ((passed_of_isBlankText link.beforeBlank).append (tilde.append behind)).append ih
  exact whole.first.passed.append (links whole.others)

theorem render_text (renderer : Renderer) (context : Context) :
    renderer.render (Block.spaced whole.text) context = renderer.evaluate whole.text context := by
  obtain ⟨first, rest, same, isFirst⟩ := whole.exists_first
  apply renderer.render_spaced context whole.passed_text
  simp [isBlankText, same, Segment.not_isBlank_of_starts isFirst]

/-- A path in front of `??`, and the white space around these marks. -/
structure Preference where
  path : List Char
  before : List Char
  after : List Char
  isPath : Operand.isPath path = true
  beforeBlank : isBlankText before = true
  afterBlank : isBlankText after = true

namespace Preference

variable (preference : Preference)

/-- The path, with a text to fall back to. -/
def text (right : List Char) : List Char :=
  preference.path ++ (preference.before ++ '?' :: '?' :: (preference.after ++ right))

def segment : Segment :=
  .path preference.path preference.isPath

theorem stops (right : List Char) : Stops Character.isBlank (preference.text right) :=
  preference.segment.stops.append preference.segment.text_ne_nil _

theorem trim_text : trim (preference.text whole.text) = preference.text whole.text := by
  have ends : (preference.text whole.text).reverse =
      whole.text.reverse ++ (preference.text []).reverse := by
    simp [text]
  refine trim_of_stops (preference.stops _) ?_
  rw [ends]
  exact whole.stops_reverse.append (by simp [whole.text_ne_nil]) _

theorem parse_text :
    parse (preference.text whole.text) =
      .coalesce (.path preference.path) (parsePart whole.text) := by
  have noMark : '?' ∉ preference.path ++ preference.before := by
    rw [List.mem_append, not_or]
    exact ⟨preference.segment.not_mem_text rfl rfl rfl,
      not_mem_of_all preference.beforeBlank rfl⟩
  have split := splitOnce?_append_of_not_mem noMark ['?'] (preference.after ++ whole.text)
  have written : preference.text whole.text =
      preference.path ++ preference.before ++
        ('?' :: ['?'] ++ (preference.after ++ whole.text)) := by
    simp [text]
  have leftTree : parse (preference.path ++ preference.before) = .path preference.path := by
    rw [← parse_trim, trim_append_blank preference.beforeBlank, parse_trim]
    exact preference.segment.parse_text
  rw [parse_unfolded, preference.trim_text, written, split]
  simp only [leftTree, trim_blank_append preference.afterBlank, whole.trim_text]

theorem passed_text : Block.Passed (preference.text whole.text) := by
  have marks : Block.Passed ['?', '?'] :=
    Block.passed_of_plain (List.forall_mem_cons.2 ⟨rfl, List.forall_mem_singleton.2 rfl⟩)
  have behind := (passed_of_isBlankText preference.afterBlank).append whole.passed_text
  exact preference.segment.passed.append
    ((passed_of_isBlankText preference.beforeBlank).append (marks.append behind))

/-- A fallback shows what its right side is read as there. -/
theorem render_text (renderer : Renderer) (context : Context) :
    renderer.render (Block.spaced (preference.text whole.text)) context =
      context.shownOr preference.path (renderer.evaluateTree context (parsePart whole.text)) := by
  obtain ⟨first, rest, same, isFirst⟩ := preference.segment.exists_first
  have visible : isBlankText (preference.text whole.text) = false := by
    have same : preference.path = first :: rest := same
    simp [isBlankText, text, same, Segment.not_isBlank_of_starts isFirst]
  rw [renderer.render_spaced context (preference.passed_text whole) visible, Renderer.evaluate,
    preference.parse_text]
  rfl

end Preference

/-- Whether a text is shown in the place of a path without a value, with `??` and the concatenation
behind the path. -/
def FallsBackTo (renderer : Renderer) (context : Context) (shown : List Char) : Prop :=
  ∀ preference : Preference,
    renderer.render (Block.spaced (preference.text whole.text)) context =
      context.shownOr preference.path shown

def emptyContext : Context where
  base := []

theorem shown_emptyContext (path : List Char) : emptyContext.shown path = [] := by
  rw [Context.shown, Context.lookup_of_empty rfl rfl]
  rfl

/-- Where no path has a value, a block shows no mark. -/
theorem quote_not_mem_evaluate (renderer : Renderer) {mark : Char} (isMark : isQuote mark = true) :
    mark ∉ renderer.evaluate whole.text emptyContext := by
  rw [evaluate_text, List.mem_flatMap]
  rintro ⟨segment, -, member⟩
  cases segment with
  | quoted first content _ plain =>
    apply not_mem_of_all plain _ member
    rcases mark_cases isMark with rfl | rfl <;> rfl
  | path content isPath =>
    rw [Segment.shown, shown_emptyContext] at member
    cases member

theorem fallsBackTo_of_quotedText (renderer : Renderer) (context : Context) {mark : Char}
    (isMark : isQuote mark = true) {inside : List Char}
    (quoted : whole.text = quotedText mark inside) :
    whole.FallsBackTo renderer context inside := by
  intro preference
  rw [preference.render_text, parsePart, quoted, unquote?_quotedText isMark, Renderer.evaluateTree]

/-- On the right of `??` and as an operand of a condition, a concatenation means in all contexts
what a block shows of it, exactly if its first and its last segment do not have the same mark
around them. If they have, it means the text between these marks. -/
theorem readers_agree_iff (renderer : Renderer) :
    ((∀ context,
        let shown := renderer.render (Block.spaced whole.text) context
        whole.FallsBackTo renderer context shown ∧
          (whole.others ≠ [] →
            Condition.resolve renderer context (Operand.parse whole.text) = Value.coerce shown)) ↔
      whole.looksQuoted = false) ∧
    (whole.looksQuoted = true →
      ∃ mark inside, isQuote mark = true ∧ whole.text = quotedText mark inside ∧
        ∀ context, whole.FallsBackTo renderer context inside ∧
          Condition.resolve renderer context (Operand.parse whole.text) = .ofChars inside) := by
  simp only [whole.render_text]
  refine ⟨⟨?_, ?_⟩, ?_⟩
  · intro agree
    cases looks : whole.looksQuoted with
    | false => rfl
    | true =>
      obtain ⟨mark, inside, isMark, quoted, member⟩ := whole.exists_inside looks
      have misread := whole.fallsBackTo_of_quotedText renderer emptyContext isMark quoted
      -- Where no path has a value, the fallback shows a mark and the block does not.
      let preference : Preference := ⟨['l'], [], [], rfl, rfl, rfl⟩
      have same := ((agree emptyContext).1 preference).symm.trans (misread preference)
      simp only [Context.shownOr, shown_emptyContext, ne_eq, not_true_eq_false, false_and,
        ↓reduceIte] at same
      rw [← same] at member
      exact absurd member (whole.quote_not_mem_evaluate renderer isMark)
  · intro looks context
    refine ⟨fun preference => ?_, fun several => ?_⟩
    · rw [preference.render_text, whole.parsePart_text looks, Renderer.evaluate, whole.parse_text]
    · rw [whole.operand_text looks several, Condition.resolve]
  · intro looks
    obtain ⟨mark, inside, isMark, quoted, -⟩ := whole.exists_inside looks
    refine ⟨mark, inside, isMark, quoted, fun context => ⟨?_, ?_⟩⟩
    · exact whole.fallsBackTo_of_quotedText renderer context isMark quoted
    · have unquoted := quoted ▸ unquote?_quotedText isMark inside
      have literal : Operand.literal? whole.text = some (.ofChars inside) := by
        rw [Operand.literal?, unquoted]
      rw [Operand.parse_of_literal whole.trim_text literal, Condition.resolve]

/-- A code between two texts, with white space around one of the tildes. -/
def labelled : Concatenation where
  first := .quoted '\'' "order-".toList rfl rfl
  others := [⟨[' '], [' '], .path "source.code".toList rfl, rfl, rfl⟩,
    ⟨[], [], .quoted '"' " / x_1".toList rfl rfl, rfl, rfl⟩]

/-- Two texts in the same quotes. -/
def doubled : Concatenation where
  first := .quoted '\'' ['a'] rfl rfl
  others := [⟨[' '], [' '], .quoted '\'' ['b'] rfl rfl, rfl, rfl⟩]

def missing : Preference where
  path := "missing".toList
  before := [' ']
  after := [' ']
  isPath := rfl
  beforeBlank := rfl
  afterBlank := rfl

theorem readers_agree_iff_labelled :
    let context : Context := { base := [("source", .object [("code", .text "A7")])] }
    let shown := "order-A7 / x_1".toList
    labelled.looksQuoted = false ∧
      ({} : Renderer).render (Block.spaced (missing.text labelled.text)) context = shown ∧
      Condition.resolve {} context (Operand.parse labelled.text) = .ofChars shown ∧
      doubled.looksQuoted = true ∧
      ∃ mark inside, isQuote mark = true ∧ doubled.text = quotedText mark inside ∧
        doubled.FallsBackTo {} context inside := by
  intro context shown
  have plain : labelled.looksQuoted = false := by decide +kernel
  have quoted : doubled.looksQuoted = true := by decide +kernel
  have block : ({} : Renderer).render (Block.spaced labelled.text) context = shown := by
    decide +kernel
  obtain ⟨falls, operand⟩ := (readers_agree_iff labelled {}).1.2 plain context
  obtain ⟨mark, inside, isMark, same, misread⟩ := (readers_agree_iff doubled {}).2 quoted
  refine ⟨plain, ?_, ?_, quoted, mark, inside, isMark, same, (misread context).1⟩
  · rw [falls missing, block]
    decide +kernel
  · rw [operand (List.cons_ne_nil _ _), block]
    decide +kernel

theorem outer_quotes_misread :
    let shown := ({} : Renderer).render (Block.spaced doubled.text) emptyContext
    shown = "ab".toList ∧
      ({} : Renderer).render (Block.spaced (missing.text doubled.text)) emptyContext =
        "a' ~ 'b".toList ∧
      Condition.resolve {} emptyContext (Operand.parse doubled.text) ≠ Value.coerce shown ∧
      (({} : Evaluator).evaluate "'a' ~ 'b' == 'ab'".toList emptyContext).1 = false := by
  decide +kernel

end Concatenation

end Intake
