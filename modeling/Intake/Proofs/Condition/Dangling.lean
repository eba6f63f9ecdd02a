import Intake.Proofs.Condition.Compose

/-!
# Conditions with white space around them

A condition text means the same with and without white space around it, with one exception: behind
a last word `in` white space tells that a list is looked for, so that the text writes no condition,
while without it the word belongs to the operand before. An evaluator, which trims what it is given,
then accepts a text that is none by itself.
-/

namespace Intake

namespace Condition

open Text

/-- Whether a text is a condition with an `in` behind it and no list. -/
def Dangles (text : List Char) : Prop :=
  ∃ tokens tree, tokens? text = some (tokens ++ [.within]) ∧ parseTokens tokens = .ok tree

theorem isOk_parse_iff {text : List Char} :
    (parse text).isOk = true ↔
      ∃ tokens tree, tokens? text = some tokens ∧ Writes maxNesting tokens tree := by
  constructor
  · intro ok
    cases parsed : parse text with
    | error error => simp [parsed, Except.isOk, Except.toBool] at ok
    | ok condition =>
      obtain ⟨tokens, tree, lexed, writes, -⟩ := parse_eq_ok_iff.1 parsed
      exact ⟨tokens, tree, lexed, writes⟩
  · rintro ⟨tokens, tree, lexed, writes⟩
    rw [parse_eq_ok_iff.2 ⟨tokens, tree, lexed, writes, rfl⟩]
    rfl

theorem isOk_parse_eq {first second : List Char} (same : tokens? first = tokens? second) :
    (parse first).isOk = (parse second).isOk := by
  rw [Bool.eq_iff_iff, isOk_parse_iff, isOk_parse_iff, same]

section LastToken

variable {tokens front : List Token} {operand : List Char}

/-- The last token of two phrases with a token between them is the last one of the second. -/
theorem exists_of_append_eq {before more : List Token} {token last : Token} (nonempty : more ≠ [])
    (same : before ++ token :: more = front ++ [last]) :
    ∃ start, more = start ++ [last] ∧ front = before ++ token :: start := by
  obtain rfl | ⟨start, final, rfl⟩ := List.eq_nil_or_concat' more
  · exact absurd rfl nonempty
  · rw [← List.cons_append, ← List.append_assoc] at same
    obtain ⟨rfl, finals⟩ := List.append_inj' same rfl
    exact ⟨start, by rw [finals], rfl⟩

/-- A phrase that ends in an operand is one with any other operand there. -/
theorem Derives.exists_of_last {phrase : Phrase} {levels : Nat} {terms : List Tree}
    (derives : Derives phrase levels tokens terms) (ends : tokens = front ++ [.operand operand])
    (other : List Char) :
    ∃ changed, Derives phrase levels (front ++ [.operand other]) changed ∧
      changed.length = terms.length := by
  have only : ∀ {changed : List Tree} {term : Tree}, changed.length = [term].length →
      ∃ single, changed = [single] := fun same => List.length_eq_one_iff.1 same
  induction derives generalizing front with
  | single levels text =>
    obtain ⟨rfl, -⟩ := List.append_inj' (show [] ++ [Token.operand text] = _ from ends) rfl
    exact ⟨_, .single levels other, rfl⟩
  | compare levels left operator right =>
    have split : [.operand left, .compare operator] ++ [Token.operand right] = _ := ends
    obtain ⟨rfl, -⟩ := List.append_inj' split rfl
    exact ⟨_, .compare levels left operator other, rfl⟩
  | within levels needle haystack =>
    have split : [.operand needle, .within] ++ [Token.operand haystack] = _ := ends
    obtain ⟨rfl, -⟩ := List.append_inj' split rfl
    exact ⟨_, .within levels needle other, rfl⟩
  | not inner ih =>
    have split : [] ++ Token.not :: _ = _ := ends
    obtain ⟨start, rfl, rfl⟩ := exists_of_append_eq inner.tokens_ne_nil split
    obtain ⟨changed, derives, length⟩ := ih rfl
    obtain ⟨term, rfl⟩ := only length
    exact ⟨_, .not derives, rfl⟩
  | @group levels tokens first others inner ih =>
    rw [← List.cons_append] at ends
    simpa using (List.append_inj' ends rfl).2
  | conjunct _ ih =>
    obtain ⟨changed, derives, length⟩ := ih ends
    obtain ⟨term, rfl⟩ := only length
    exact ⟨_, .conjunct derives, rfl⟩
  | and first rest _ ih =>
    obtain ⟨start, rfl, rfl⟩ := exists_of_append_eq rest.tokens_ne_nil ends
    obtain ⟨changed, derives, length⟩ := ih rfl
    rw [List.append_assoc]
    exact ⟨_, .and first derives, by simp [length]⟩
  | disjunct _ ih =>
    obtain ⟨changed, derives, length⟩ := ih ends
    obtain ⟨first, others, rfl⟩ := List.exists_cons_of_length_eq_add_one length
    exact ⟨_, .disjunct derives, rfl⟩
  | or front' rest _ ih =>
    obtain ⟨start, rfl, rfl⟩ := exists_of_append_eq rest.tokens_ne_nil ends
    obtain ⟨changed, derives, length⟩ := ih rfl
    rw [List.append_assoc]
    exact ⟨_, .or front' derives, by simp [length]⟩

theorem Writes.exists_of_last {levels : Nat} {tree : Tree}
    (writes : Writes levels (front ++ [.operand operand]) tree) (other : List Char) :
    ∃ changed, Writes levels (front ++ [.operand other]) changed := by
  obtain ⟨first, others, derives, -⟩ := writes
  obtain ⟨changed, derives, length⟩ := derives.exists_of_last rfl other
  obtain ⟨first, others, rfl⟩ := List.exists_cons_of_length_eq_add_one length
  exact ⟨_, first, others, derives, rfl⟩

theorem not_writes_within (levels : Nat) (tree : Tree) :
    ¬ Writes levels (front ++ [.within]) tree := by
  rintro ⟨first, others, derives, -⟩
  exact derives.getLast?_ne_within List.getLast?_concat

end LastToken

/-- To trim a text never makes a condition refused, and it makes one accepted exactly if the text
has an `in` behind a condition. -/
theorem isOk_parse_trim_iff (text : List Char) :
    (parse (trim text)).isOk = (parse text).isOk ↔ ¬ Dangles text := by
  rcases tokens?_trim_agree text with ⟨same, last⟩ | ⟨front, operand, longer, long, short⟩
  · refine iff_of_true (isOk_parse_eq same) ?_
    rintro ⟨tokens, tree, lexed, -⟩
    exact last _ lexed List.getLast?_concat
  · have lexed : tokens? text = some ((front ++ [.operand operand]) ++ [.within]) := by
      rw [long, List.append_assoc]
      rfl
    have refused : (parse text).isOk = false := by
      rw [Bool.eq_false_iff, ne_eq, isOk_parse_iff]
      rintro ⟨tokens, tree, found, writes⟩
      obtain rfl := Option.some.inj (lexed.symm.trans found)
      exact not_writes_within _ _ writes
    rw [refused, ← Bool.not_eq_true, not_iff_not, isOk_parse_iff]
    constructor
    · rintro ⟨tokens, tree, found, writes⟩
      obtain rfl := Option.some.inj (short.symm.trans found)
      obtain ⟨changed, writes⟩ := writes.exists_of_last operand
      exact ⟨_, changed, lexed, parseTokens_of_writes writes⟩
    · rintro ⟨tokens, tree, found, parsed⟩
      obtain rfl := List.append_cancel_right (Option.some.inj (lexed.symm.trans found))
      obtain ⟨changed, writes⟩ := (writes_of_parseTokens parsed).exists_of_last longer
      exact ⟨_, changed, short, writes⟩

/-- White space around a text changes whether it is a condition exactly if the text has an `in`
behind a condition; it never changes which condition a text is. With any other text an evaluator
answers what the condition of the untrimmed text is evaluated to, and `false` if there is none. -/
theorem evaluate_iff_parse (text : List Char) :
    ((parse (trim text)).isOk = (parse text).isOk ↔ ¬ Dangles text) ∧
    (∀ condition, parse text = .ok condition → parse (trim text) = .ok condition) ∧
    (¬ Dangles text → ∀ renderer calls context,
      ((Evaluator.afterAll { renderer } calls).evaluate text context).1 =
        match parse text with
        | .ok condition => condition.evaluate renderer context
        | .error _ => false) := by
  refine ⟨isOk_parse_trim_iff text, fun condition => parse_trim, ?_⟩
  intro complete renderer calls context
  rw [Evaluator.evaluate_afterAll, textEvaluates]
  have accepted := (isOk_parse_trim_iff text).2 complete
  cases parsed : parse text with
  | ok condition => rw [parse_trim parsed]
  | error error =>
    rw [parsed] at accepted
    cases trimmed : parse (trim text) with
    | error other => rfl
    | ok condition => simp [trimmed, Except.isOk, Except.toBool] at accepted

theorem evaluate_iff_parse_spaced :
    let text := " item in list\t".toList
    let context : Context := { base := [("item", .text "a"), ("list", .array [.text "a"])] }
    ¬ Dangles text ∧
      ∃ condition, parse text = .ok condition ∧ parse (trim text) = .ok condition ∧
        ((Evaluator.afterAll {} [("!item in ".toList, context)]).evaluate text context).1 =
          condition.evaluate {} context := by
  intro text context
  obtain ⟨accepted, kept, answers⟩ := evaluate_iff_parse text
  have complete : ¬ Dangles text := accepted.1 (by decide +kernel)
  have answer := answers complete {} [("!item in ".toList, context)] context
  cases parsed : parse text with
  | ok condition =>
    rw [parsed] at answer
    exact ⟨complete, condition, rfl, kept condition parsed, answer⟩
  | error error =>
    have found : (parse text).isOk = true := by decide +kernel
    simp [parsed, Except.isOk, Except.toBool] at found

/-- A refused text that is accepted without the space behind it. -/
theorem unfinished_in_holds :
    (parse "!item in ".toList).isOk = false ∧
      (({} : Evaluator).evaluate "!item in ".toList { base := [] }).1 = true := by
  decide +kernel

end Condition

end Intake
