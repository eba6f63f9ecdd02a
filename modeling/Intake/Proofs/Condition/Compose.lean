import Intake.Proofs.Condition.Grammar
import Intake.Proofs.Condition.Memory
import Intake.Proofs.Condition.Tokens

/-!
# Conditions made of conditions

Accepted texts that are put in parentheses can be joined by `||` and `&&` and negated. The tokens of
the parts stay what they are, so the composed text writes the composed tree and is evaluated as its
parts are.
-/

namespace Intake

namespace Condition

open Text

/-- White space around an accepted text does not change what it writes. -/
theorem parse_trim {text : List Char} {condition : Condition} (ok : parse text = .ok condition) :
    parse (trim text) = .ok condition := by
  obtain ⟨tokens, tree, lexed, writes, rfl⟩ := parse_eq_ok_iff.1 ok
  obtain ⟨first, others, derives, -⟩ := id writes
  refine parse_eq_ok_iff.2 ⟨tokens, tree, ?_, writes, by rw [trim_trim]⟩
  exact tokens?_trim lexed derives.getLast?_ne_within

theorem textEvaluates_of_parse {text : List Char} {condition : Condition}
    (ok : parse text = .ok condition) (renderer : Renderer) (context : Context) :
    textEvaluates renderer text context = treeHolds renderer context condition.tree := by
  rw [textEvaluates, parse_trim ok]
  rfl

/-- A text in parentheses. -/
def grouped (text : List Char) : List Char :=
  '(' :: (text ++ [')'])

def groupTokens (tokens : List Token) : List Token :=
  .openGroup :: (tokens ++ [.closeGroup])

theorem tokens?_grouped_append {text : List Char} {tokens : List Token}
    (lexed : tokens? text = some tokens) (rest : List Char) :
    tokens? (grouped text ++ rest) = (tokens? rest).map fun more => groupTokens tokens ++ more := by
  have opened : tokenAt? [] ('(' :: (text ++ ')' :: rest)) = some (.openGroup, 1) := rfl
  have closed := tokensFrom?_append_close (Nat.zero_le _) lexed rest
  have whole : grouped text ++ rest = '(' :: (text ++ ')' :: rest) := by simp [grouped]
  rw [tokens?, whole, tokensFrom?_of_token rfl opened, closed, Option.map_map, tokens?]
  congr 1
  funext more
  simp [groupTokens]

theorem tokens?_grouped {text : List Char} {tokens : List Token}
    (lexed : tokens? text = some tokens) : tokens? (grouped text) = some (groupTokens tokens) := by
  have alone := tokens?_grouped_append lexed []
  rw [List.append_nil] at alone
  rw [alone]
  simp [tokens?, tokensFrom?]

theorem tokens?_space (rest : List Char) : tokens? (' ' :: rest) = tokens? rest := by
  have blank : isBlankText [' '] = true := rfl
  exact tokens?_blank_append rest blank

theorem tokens?_or_append (rest : List Char) :
    tokens? (" || ".toList ++ rest) = (tokens? rest).map fun more => .or :: more := by
  have operator : tokenAt? [] ('|' :: '|' :: ' ' :: rest) = some (.or, 2) := rfl
  calc
    tokens? (" || ".toList ++ rest) = tokens? ('|' :: '|' :: ' ' :: rest) := tokens?_space _
    _ = (tokens? (' ' :: rest)).map fun more => .or :: more := tokensFrom?_of_token rfl operator
    _ = (tokens? rest).map fun more => .or :: more := congrArg _ (tokens?_space rest)

theorem tokens?_and_append (rest : List Char) :
    tokens? (" && ".toList ++ rest) = (tokens? rest).map fun more => .and :: more := by
  have operator : tokenAt? [] ('&' :: '&' :: ' ' :: rest) = some (.and, 2) := rfl
  calc
    tokens? (" && ".toList ++ rest) = tokens? ('&' :: '&' :: ' ' :: rest) := tokens?_space _
    _ = (tokens? (' ' :: rest)).map fun more => .and :: more := tokensFrom?_of_token rfl operator
    _ = (tokens? rest).map fun more => .and :: more := congrArg _ (tokens?_space rest)

theorem tokens?_not_grouped {text : List Char} {tokens : List Token}
    (lexed : tokens? text = some tokens) :
    tokens? ('!' :: grouped text) = some (.not :: groupTokens tokens) := by
  have operator : tokenAt? [] ('!' :: grouped text) = some (.not, 1) := rfl
  calc
    tokens? ('!' :: grouped text) = (tokens? (grouped text)).map fun more => .not :: more :=
      tokensFrom?_of_token rfl operator
    _ = some (.not :: groupTokens tokens) := by rw [tokens?_grouped lexed]; rfl

/-- How deep negations and groups nest in a text. -/
def textNesting (text : List Char) : Nat :=
  ((tokens? text).map nesting).getD 0

section Compose

variable {levels : Nat} {leftTokens rightTokens : List Token} {left right : Tree}

theorem Writes.group (writes : Writes levels leftTokens left) :
    Derives .unary (levels + 1) (groupTokens leftTokens) [left] := by
  obtain ⟨first, others, derives, rfl⟩ := writes
  exact derives.group

theorem Derives.writes {tree : Tree} (derives : Derives .unary levels leftTokens [tree]) :
    Writes levels leftTokens tree :=
  ⟨tree, [], derives.conjunct.disjunct, rfl⟩

theorem Writes.or (leftWrites : Writes levels leftTokens left)
    (rightWrites : Writes levels rightTokens right) :
    Writes (levels + 1) (groupTokens leftTokens ++ .or :: groupTokens rightTokens)
      (.or [left, right]) :=
  ⟨left, [right], leftWrites.group.conjunct.or rightWrites.group.conjunct.disjunct, rfl⟩

theorem Writes.and (leftWrites : Writes levels leftTokens left)
    (rightWrites : Writes levels rightTokens right) :
    Writes (levels + 1) (groupTokens leftTokens ++ .and :: groupTokens rightTokens)
      (.and [left, right]) :=
  ⟨_, [], (leftWrites.group.and rightWrites.group.conjunct).disjunct, rfl⟩

theorem Writes.not (writes : Writes levels leftTokens left) :
    Writes (levels + 2) (.not :: groupTokens leftTokens) (.not left) :=
  writes.group.not.writes

theorem Writes.mono (writes : Writes levels leftTokens left) {more : Nat}
    (enough : levels ≤ more) : Writes more leftTokens left := by
  obtain ⟨first, others, derives, same⟩ := writes
  exact ⟨first, others, derives.mono enough, same⟩

end Compose

theorem exists_writes_of_parse {text : List Char} {condition : Condition}
    (ok : parse text = .ok condition) {bound : Nat} (fits : textNesting text ≤ bound) :
    ∃ tokens, tokens? text = some tokens ∧ Writes bound tokens condition.tree := by
  obtain ⟨tokens, tree, lexed, writes, rfl⟩ := parse_eq_ok_iff.1 ok
  rw [textNesting, lexed] at fits
  exact ⟨tokens, lexed, writes.of_nesting fits⟩

theorem evaluate_of_writes {text : List Char} {tokens : List Token} {tree : Tree}
    (lexed : tokens? text = some tokens) (writes : Writes maxNesting tokens tree)
    (renderer : Renderer) (context : Context) :
    (parse text).isOk = true ∧
      textEvaluates renderer text context = treeHolds renderer context tree := by
  have ok : parse text = .ok ⟨trim text, tree⟩ :=
    parse_eq_ok_iff.2 ⟨tokens, tree, lexed, writes, rfl⟩
  exact ⟨by rw [ok]; rfl, textEvaluates_of_parse ok renderer context⟩

/-- An accepted text in parentheses can be negated as long as it leaves two levels. -/
theorem parse_not_grouped {text : List Char} {condition : Condition}
    (ok : parse text = .ok condition) (fits : textNesting text ≤ 62) :
    parse ('!' :: grouped text) = .ok ⟨trim ('!' :: grouped text), .not condition.tree⟩ := by
  obtain ⟨tokens, lexed, writes⟩ := exists_writes_of_parse ok fits
  exact parse_eq_ok_iff.2 ⟨_, _, tokens?_not_grouped lexed, writes.not, rfl⟩

/-- Accepted texts can be joined and negated in parentheses as long as they leave two levels, and
the texts that arise are evaluated by what their parts are evaluated to. -/
theorem evaluate_connectives {first second : List Char} {left right : Condition}
    (leftOk : parse first = .ok left) (rightOk : parse second = .ok right)
    (leftFits : textNesting first ≤ 62) (rightFits : textNesting second ≤ 62)
    (renderer : Renderer) (calls : List (List Char × Context)) (context : Context) :
    let answer (text : List Char) : Bool :=
      ((Evaluator.afterAll { renderer } calls).evaluate text context).1
    ((parse (grouped first ++ " || ".toList ++ grouped second)).isOk = true ∧
      answer (grouped first ++ " || ".toList ++ grouped second) =
        (answer first || answer second)) ∧
    ((parse (grouped first ++ " && ".toList ++ grouped second)).isOk = true ∧
      answer (grouped first ++ " && ".toList ++ grouped second) =
        (answer first && answer second)) ∧
    ((parse ('!' :: grouped first)).isOk = true ∧
      answer ('!' :: grouped first) = !answer first) := by
  intro answer
  have answers : ∀ text, answer text = textEvaluates renderer text context :=
    fun text => Evaluator.evaluate_afterAll renderer calls text context
  simp only [answers, textEvaluates_of_parse leftOk, textEvaluates_of_parse rightOk]
  obtain ⟨leftTokens, leftLexed, leftWrites⟩ := exists_writes_of_parse leftOk leftFits
  obtain ⟨rightTokens, rightLexed, rightWrites⟩ := exists_writes_of_parse rightOk rightFits
  refine ⟨?_, ?_, ?_⟩
  · have lexed : tokens? (grouped first ++ " || ".toList ++ grouped second) =
        some (groupTokens leftTokens ++ .or :: groupTokens rightTokens) := by
      rw [List.append_assoc, tokens?_grouped_append leftLexed, tokens?_or_append,
        tokens?_grouped rightLexed]
      rfl
    have writes := (leftWrites.or rightWrites).mono (show 63 ≤ maxNesting by decide)
    obtain ⟨ok, evaluated⟩ := evaluate_of_writes lexed writes renderer context
    exact ⟨ok, by rw [evaluated]; simp [treeHolds, anyHolds]⟩
  · have lexed : tokens? (grouped first ++ " && ".toList ++ grouped second) =
        some (groupTokens leftTokens ++ .and :: groupTokens rightTokens) := by
      rw [List.append_assoc, tokens?_grouped_append leftLexed, tokens?_and_append,
        tokens?_grouped rightLexed]
      rfl
    have writes := (leftWrites.and rightWrites).mono (show 63 ≤ maxNesting by decide)
    obtain ⟨ok, evaluated⟩ := evaluate_of_writes lexed writes renderer context
    exact ⟨ok, by rw [evaluated]; simp [treeHolds, allHold]⟩
  · have writes : Writes maxNesting (.not :: groupTokens leftTokens) (.not left.tree) :=
      leftWrites.not
    obtain ⟨ok, evaluated⟩ :=
      evaluate_of_writes (tokens?_not_grouped leftLexed) writes renderer context
    exact ⟨ok, by rw [evaluated, treeHolds]⟩

/-- A text with a call, a default and quoted parentheses, and white space around it. -/
def callText : List Char :=
  " !(config('a', \")\") ?? b ~ 'in') && x in ['(', y] ".toList

def comparisonText : List Char :=
  "tags == '||' || size >= 2".toList

def sizeContext : Context where
  base := [("size", .ofNat 3)]

theorem evaluate_connectives_call :
    ∃ left right, parse callText = .ok left ∧ parse comparisonText = .ok right ∧
      textNesting callText ≤ 62 ∧ textNesting comparisonText ≤ 62 ∧
      let answer (text : List Char) : Bool :=
        ((Evaluator.afterAll {} [(callText, sizeContext)]).evaluate text sizeContext).1
      ((parse (grouped callText ++ " || ".toList ++ grouped comparisonText)).isOk = true ∧
        answer (grouped callText ++ " || ".toList ++ grouped comparisonText) =
          (answer callText || answer comparisonText)) ∧
      ((parse (grouped callText ++ " && ".toList ++ grouped comparisonText)).isOk = true ∧
        answer (grouped callText ++ " && ".toList ++ grouped comparisonText) =
          (answer callText && answer comparisonText)) ∧
      ((parse ('!' :: grouped callText)).isOk = true ∧
        answer ('!' :: grouped callText) = !answer callText) := by
  have accepted : ∀ text, (parse text).isOk = true → ∃ condition, parse text = .ok condition := by
    intro text ok
    cases parsed : parse text with
    | error error => simp [parsed, Except.isOk, Except.toBool] at ok
    | ok condition => exact ⟨condition, rfl⟩
  obtain ⟨left, leftOk⟩ := accepted callText (by decide +kernel)
  obtain ⟨right, rightOk⟩ := accepted comparisonText (by decide +kernel)
  have leftFits : textNesting callText ≤ 62 := by decide +kernel
  have rightFits : textNesting comparisonText ≤ 62 := by decide +kernel
  exact ⟨left, right, leftOk, rightOk, leftFits, rightFits,
    evaluate_connectives leftOk rightOk leftFits rightFits {} [(callText, sizeContext)] sizeContext⟩

end Condition

end Intake
