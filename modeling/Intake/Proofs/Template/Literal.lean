import Intake.Proofs.Template.Blocks
import Intake.Proofs.Template.Expression
import Intake.Proofs.Value.Retyping

/-!
# Quoted texts in a block

A quoted text in a block stands for what is between its quotes, unless an operator or a pair of
parentheses is in it. Those are looked for before the quotes are, so the block is then cut inside
the quotes; where no path has a value and no call succeeds, only numerals are left of it.
-/

namespace Intake

open Nesting

def Block.spaced (text : List Char) : List Char :=
  Block.braced (' ' :: (text ++ [' ']))

theorem Block.Passed.spaced {text : List Char} (passed : Block.Passed text) :
    Block.Passed (' ' :: (text ++ [' '])) := by
  have space : Block.Passed [' '] := Block.passed_of_plain (List.forall_mem_singleton.2 rfl)
  exact space.append (passed.append space)

theorem Renderer.render_spaced (renderer : Renderer) (context : Context) {text : List Char}
    (passed : Block.Passed text) (visible : Text.isBlankText text = false) :
    renderer.render (Block.spaced text) context = renderer.evaluate text context := by
  have blank : Text.isBlankText [' '] = true := rfl
  have shown : Text.isBlankText (' ' :: (text ++ [' '])) = false := by
    rw [← List.singleton_append, Text.isBlankText_append, Text.isBlankText_append, visible]
    rfl
  rw [Block.spaced, renderer.render_braced context passed.spaced.isBalanced shown,
    ← List.singleton_append, Text.trim_blank_append blank, Text.trim_append_blank blank,
    renderer.evaluate_trim]

theorem Context.lookup_of_empty {context : Context} (noBase : context.base = [])
    (noLocals : context.locals = []) (path : List Char) : context.lookup path = none := by
  have nothing : ∀ name, context.get? name = none := by
    intro name
    rw [Context.get?, noLocals, noBase]
    rfl
  unfold Context.lookup
  simp only
  split <;> simp [nothing]

namespace Expression

def quotedText (mark : Char) (content : List Char) : List Char :=
  mark :: (content ++ [mark])

section Quoted

variable {mark : Char} {content : List Char}

/-- A text is taken for a quoted one if it starts and ends with the same mark. -/
theorem unquote?_eq_some_iff {text inside : List Char} :
    Text.unquote? text = some inside ↔
      ∃ mark, isQuote mark = true ∧ text = quotedText mark inside := by
  constructor
  · intro found
    cases text with
    | nil => cases found
    | cons first rest =>
      rw [Text.unquote?] at found
      split at found
      · next ends =>
        obtain ⟨start, rfl⟩ := List.getLast?_eq_some_iff.1 ends.2
        rw [List.dropLast_concat, Option.some.injEq] at found
        exact ⟨first, by simpa [isQuote] using ends.1, by rw [found, quotedText]⟩
      · cases found
  · rintro ⟨mark, isMark, rfl⟩
    simp [quotedText, Text.unquote?, mark_cases isMark]

theorem unquote?_of_not_mem {text : List Char}
    (unmarked : ∀ mark, isQuote mark = true → mark ∉ text) : Text.unquote? text = none := by
  cases found : Text.unquote? text with
  | none => rfl
  | some inside =>
    obtain ⟨mark, isMark, rfl⟩ := unquote?_eq_some_iff.1 found
    exact absurd List.mem_cons_self (unmarked mark isMark)

theorem unquote?_quotedText (isMark : isQuote mark = true) (content : List Char) :
    Text.unquote? (quotedText mark content) = some content :=
  unquote?_eq_some_iff.2 ⟨mark, isMark, rfl⟩

theorem not_isBlank_of_isQuote (isMark : isQuote mark = true) :
    Character.isBlank mark = false := by
  rcases mark_cases isMark with rfl | rfl <;> rfl

theorem trim_quotedText (isMark : isQuote mark = true) (content : List Char) :
    Text.trim (quotedText mark content) = quotedText mark content := by
  have outer := not_isBlank_of_isQuote isMark
  apply Text.trim_of_stops
  · exact Text.stops_cons outer
  · rw [quotedText, List.reverse_cons, List.reverse_append]
    exact Text.stops_cons outer

theorem mem_quotedText_iff {character : Char} (different : mark ≠ character) :
    character ∈ quotedText mark content ↔ character ∈ content := by
  simp [quotedText, different.symm]

theorem hasOperator_quotedText_eq_false_iff (isMark : isQuote mark = true) :
    hasOperator (quotedText mark content) = false ↔ hasOperator content = false := by
  have outside : ∀ {character}, isQuote character = false → mark ≠ character :=
    Text.ne_of_isMember isMark
  have apart : mark ≠ '?' := outside rfl
  rw [hasOperator_eq_false_iff, hasOperator_eq_false_iff, Text.splitOnce?_pair_eq_none_iff,
    Text.splitOnce?_pair_eq_none_iff, mem_quotedText_iff (outside rfl),
    mem_quotedText_iff (outside rfl), mem_quotedText_iff (outside rfl)]
  simp [quotedText, List.isChain_cons, List.isChain_append, apart]

theorem parse_quotedText (isMark : isQuote mark = true) (simple : hasOperator content = false) :
    parse (quotedText mark content) = .literal content := by
  rw [parse_of_hasOperator_eq_false (trim_quotedText isMark content)
    ((hasOperator_quotedText_eq_false_iff isMark).2 simple), unquote?_quotedText isMark]

/-- A proper part of a quoted text lacks one of its two quotes. -/
theorem countP_isQuote_of_part (isMark : isQuote mark = true)
    (clean : content.any isQuote = false) {part : List Char}
    (inside : part <:+: quotedText mark content)
    (shorter : part.length < (quotedText mark content).length) : part.countP isQuote ≤ 1 := by
  have none : content.countP isQuote = 0 :=
    List.countP_eq_zero.2 (List.any_eq_false.1 clean)
  have total : (quotedText mark content).countP isQuote = 2 := by
    simp [quotedText, none, isMark]
  obtain ⟨before, after, same⟩ := inside
  rw [← same, List.countP_append, List.countP_append] at total
  rw [← same, List.length_append, List.length_append] at shorter
  -- The first or the last character is outside the part.
  have outside : 0 < before.countP isQuote ∨ 0 < after.countP isQuote := by
    cases before with
    | cons first rest =>
      obtain ⟨rfl, -⟩ := List.cons.inj same
      exact Or.inl (List.countP_pos_iff.2 ⟨_, List.mem_cons_self, isMark⟩)
    | nil =>
      rcases List.eq_nil_or_concat after with rfl | ⟨rest, last, rfl⟩
      · simp at shorter
      · have written : quotedText mark content = mark :: content ++ [mark] := rfl
        rw [written, List.concat_eq_append, ← List.append_assoc] at same
        obtain rfl := List.singleton_inj.1 (List.append_inj' same rfl).2
        exact Or.inr (List.countP_pos_iff.2 ⟨_, by simp, isMark⟩)
  omega

end Quoted

theorem unquote?_of_countP_isQuote {text : List Char} (few : text.countP isQuote ≤ 1) :
    Text.unquote? text = none := by
  cases found : Text.unquote? text with
  | none => rfl
  | some inside =>
    obtain ⟨mark, isMark, rfl⟩ := unquote?_eq_some_iff.1 found
    simp [quotedText, isMark] at few

end Expression

namespace Renderer

variable (renderer : Renderer)

def failing : Callable :=
  fun _ => .error (.undefinedRoute "")

/-- A context without values, in which no call succeeds. -/
def muted : Context where
  base := []
  functions := renderer.globals.map fun entry => (entry.1, failing)

theorem lookup_muted (path : List Char) : renderer.muted.lookup path = none :=
  Context.lookup_of_empty rfl rfl path

theorem callText_muted (name : String) (arguments : List Value) :
    renderer.callText renderer.muted name arguments = [] := by
  have known : Fields.get? name renderer.muted.functions =
      (Fields.get? name renderer.globals).map fun _ => failing :=
    Fields.get?_map (fun _ => failing) name renderer.globals
  rw [callText, function?, known]
  cases Fields.get? name renderer.globals <;> rfl

/-- The characters that a number is displayed with. -/
def isNumeralCharacter (character : Char) : Bool :=
  character.isDigit || character == '-' || character == '.'

theorem isNumeralCharacter_of_mem_display {text : List Char} {value : Value}
    (written : Numeral.textValue? text = some value) {character : Char}
    (member : character ∈ value.display) : isNumeralCharacter character = true := by
  rcases Numeral.number_or_null_of_textValue? written with rfl | ⟨number, rfl⟩
  · cases member
  · obtain ⟨numeral, plain, same⟩ := number.exists_isPlain_displayText
    rw [Value.display, same] at member
    simpa [isNumeralCharacter, or_assoc] using plain.characters_of_mem member

/-- Whether a text comes to nothing but numerals without values and calls. -/
def Silent (text : List Char) : Prop :=
  ∀ character ∈ renderer.evaluate text renderer.muted, isNumeralCharacter character = true

/-- A text with an operator comes to no more than its parts do. -/
theorem silent_of_hasOperator {text : List Char} (kept : Text.trim text = text)
    (operator : Expression.hasOperator text = true)
    (parts : ∀ part, part <:+: text → part.length < text.length →
      Text.unquote? part = none ∧ renderer.Silent part) : renderer.Silent text := by
  have trimmed : ∀ part, part <:+: text → part.length < text.length →
      ∀ character ∈ renderer.evaluateTree renderer.muted (Expression.parsePart (Text.trim part)),
        isNumeralCharacter character = true := by
    intro part inside shorter
    have bounded := Text.length_trim_le part
    obtain ⟨unquoted, silent⟩ :=
      parts (Text.trim part) ((Text.trim_infix part).trans inside) (by omega)
    rw [Expression.parsePart_of_unquote?_eq_none unquoted]
    exact silent
  rw [Silent, evaluate, Expression.parse_unfolded, kept]
  split
  · next left right found =>
    have same := Text.eq_of_splitOnce? found
    have whole := Text.length_splitOnce? found
    rw [evaluateTree]
    split
    · exact (parts left ⟨[], _, same.symm⟩ (by simp at whole; omega)).2
    · exact trimmed right ⟨left ++ ['?', '?'], [], by simp [same]⟩ (by simp at whole; omega)
  · next missing =>
    split
    · next present =>
      rw [evaluateTree, evaluateParts_eq_flatMap]
      simp only [List.mem_flatMap, List.mem_map]
      rintro character ⟨_, ⟨piece, member, rfl⟩, inside⟩
      exact trimmed piece (Text.infix_of_mem_pieces member)
        (Text.length_lt_of_mem_pieces present member) character inside
    · next absent =>
      split
      · split
        · simp [evaluateTree, callText_muted]
        · simp [evaluateTree]
      · next noCall =>
        rw [(Expression.hasOperator_eq_false_iff).2 ⟨missing, absent, noCall⟩] at operator
        cases operator

theorem silent_of_hasOperator_eq_false {text : List Char} (kept : Text.trim text = text)
    (simple : Expression.hasOperator text = false) (unquoted : Text.unquote? text = none) :
    renderer.Silent text := by
  rw [Silent, evaluate, Expression.parse_of_hasOperator_eq_false kept simple, unquoted]
  simp only
  split
  · next value written =>
    intro character member
    exact isNumeralCharacter_of_mem_display written member
  · simp [evaluateTree, lookup_muted]

/-- A text with one quote at most is never taken for a quoted text, nor is any part of it. -/
theorem silent_of_countP_isQuote {text : List Char} (few : text.countP isQuote ≤ 1) :
    renderer.Silent text := by
  induction size : text.length using Nat.strong_induction_on generalizing text with
  | _ size ih =>
    have fewer : ∀ part, part <:+: text → part.countP isQuote ≤ 1 := fun part inside =>
      Nat.le_trans inside.sublist.countP_le few
    have trimmed : renderer.Silent (Text.trim text) := by
      cases operator : Expression.hasOperator (Text.trim text) with
      | true =>
        -- An operator leaves shorter parts, and none of them has more quotes.
        apply renderer.silent_of_hasOperator (Text.trim_trim text) operator
        intro part inside shorter
        have bounded := Text.length_trim_le text
        have fewInside := fewer part (inside.trans (Text.trim_infix text))
        exact ⟨Expression.unquote?_of_countP_isQuote fewInside,
          ih part.length (by omega) fewInside rfl⟩
      | false =>
        exact renderer.silent_of_hasOperator_eq_false (Text.trim_trim text) operator
          (Expression.unquote?_of_countP_isQuote (fewer _ (Text.trim_infix text)))
    rwa [Silent, evaluate_trim] at trimmed

theorem silent_quotedText {mark : Char} (isMark : isQuote mark = true) {content : List Char}
    (clean : content.any isQuote = false)
    (operator : Expression.hasOperator content = true) :
    renderer.Silent (Expression.quotedText mark content) := by
  have outer : Expression.hasOperator (Expression.quotedText mark content) = true := by
    rw [← Bool.not_eq_false, Expression.hasOperator_quotedText_eq_false_iff isMark, operator]
    decide
  apply renderer.silent_of_hasOperator (Expression.trim_quotedText isMark content) outer
  intro part inside shorter
  have few := Expression.countP_isQuote_of_part isMark clean inside shorter
  exact ⟨Expression.unquote?_of_countP_isQuote few, renderer.silent_of_countP_isQuote few⟩

theorem hasOperator_eq_false_of_numeral {content : List Char}
    (numeral : content.all isNumeralCharacter = true) : Expression.hasOperator content = false :=
  Expression.hasOperator_eq_false_of_not_mem (Text.not_mem_of_all numeral rfl)
    (Text.not_mem_of_all numeral rfl) (Text.not_mem_of_all numeral rfl)

/-- A quoted text in a block stands for its content in all contexts exactly if there is no operator
and no pair of parentheses in it. -/
theorem render_quoted {mark : Char} (isMark : isQuote mark = true) {content : List Char}
    (clean : content.any isQuote = false) (plain : '\\' ∉ content) :
    (∀ context, renderer.render (Block.spaced (Expression.quotedText mark content)) context =
      content) ↔ Expression.hasOperator content = false := by
  have rendered : ∀ context,
      renderer.render (Block.spaced (Expression.quotedText mark content)) context =
        renderer.evaluate (Expression.quotedText mark content) context := by
    intro context
    have unmarked : mark ∉ content := fun member => List.any_eq_false.1 clean mark member isMark
    apply renderer.render_spaced context (Block.passed_quoted isMark unmarked plain)
    simp [Text.isBlankText, Expression.not_isBlank_of_isQuote isMark]
  simp only [rendered]
  constructor
  · intro same
    cases operator : Expression.hasOperator content with
    | false => rfl
    | true =>
      -- Without values and calls only numerals come back, and no operator is made of those.
      have silent := renderer.silent_quotedText isMark clean operator
      rw [Silent, same renderer.muted] at silent
      rw [← operator]
      exact hasOperator_eq_false_of_numeral (List.all_eq_true.2 silent)
  · intro simple context
    rw [evaluate, Expression.parse_quotedText isMark simple, evaluateTree]

/-- Braces, points, digits, a question mark and a parenthesis that is not closed. -/
theorem render_quoted_price :
    let content := "1.50 {net} ? a/b \x7d\x7d (".toList
    isQuote '\'' = true ∧ content.any isQuote = false ∧ '\\' ∉ content ∧
      ∀ context, ({} : Renderer).render (Block.spaced (Expression.quotedText '\'' content))
        context = content := by
  intro content
  have clean : content.any isQuote = false := by decide +kernel
  have plain : '\\' ∉ content := by decide +kernel
  exact ⟨rfl, clean, plain, (render_quoted {} rfl clean plain).2 (by decide +kernel)⟩

theorem operators_in_quotes_misread :
    let shown (content : String) : List Char :=
      ({} : Renderer).render (Block.spaced (Expression.quotedText '\'' content.toList))
        { base := [] }
    ("Total (net) a~b why??".toList.any isQuote = false ∧ '\\' ∉ "Total (net) a~b why??".toList) ∧
      shown "Total (net)" = [] ∧ shown "a~b" = [] ∧ shown "why??" = [] := by
  decide +kernel

end Renderer

end Intake
