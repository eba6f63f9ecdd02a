import Intake.Proofs.Condition.Compose
import Intake.Proofs.Condition.OperandText

/-!
# Printed conditions

A tree of plain operands is printed with its parts in parentheses. The tokens of the printed text
write the tree again, so the text is read back as the tree as long as it does not nest too deep.
-/

namespace Intake

namespace Condition

open Text

namespace Tree

mutual

/-- The text of a tree, with every part of a connective in parentheses. -/
def text : Tree → List Char
  | .or terms => joined " || ".toList (groups terms)
  | .and terms => joined " && ".toList (groups terms)
  | .not term => '!' :: grouped term.text
  | .compare left operator right =>
    left.text ++ ' ' :: (operator.text.toList ++ ' ' :: right.text)
  | .within needle haystack => needle.text ++ " in ".toList ++ haystack.text
  | .empty operand => "empty".toList ++ grouped operand.text
  | .constant value => Operand.literalText (.bool value)
  | .holds operand => operand.text

def groups : List Tree → List (List Char)
  | [] => []
  | term :: others => grouped term.text :: groups others

end

/-- Trees of plain operands whose connectives have at least two terms. A boolean on its own is a
constant. -/
inductive Printable : Tree → Prop
  | or (terms : List Tree) (several : 2 ≤ terms.length)
      (printable : ∀ term ∈ terms, Printable term) : Printable (.or terms)
  | and (terms : List Tree) (several : 2 ≤ terms.length)
      (printable : ∀ term ∈ terms, Printable term) : Printable (.and terms)
  | not (term : Tree) (printable : Printable term) : Printable (.not term)
  | compare (left : Operand) (operator : Comparison) (right : Operand) (leftPlain : left.Plain)
      (rightPlain : right.Plain) : Printable (.compare left operator right)
  | within (needle haystack : Operand) (needlePlain : needle.Plain)
      (haystackPlain : haystack.Plain) : Printable (.within needle haystack)
  | empty (operand : Operand) (plain : operand.Plain) : Printable (.empty operand)
  | constant (value : Bool) : Printable (.constant value)
  | holds (operand : Operand) (plain : operand.Plain)
      (notBool : ∀ value, operand ≠ .literal (.bool value)) : Printable (.holds operand)

end Tree

section Leaves

variable {left right : Operand} {leftText rightText : List Char}

theorem tokensFrom?_of_written (written : left.Written leftText) (rest : List Char) :
    tokens? (leftText ++ rest) = tokensFrom? 0 none leftText.reverse rest := by
  rw [tokens?, written.absorbed, List.append_nil]

theorem pending_of_written (written : left.Written leftText) :
    pending leftText.reverse = [.operand leftText] :=
  pending_reverse (trim_of_stops written.starts written.finishes) written.nonempty

theorem tokens?_of_written (written : left.Written leftText) :
    tokens? leftText = some [.operand leftText] := by
  have alone := tokensFrom?_of_written written []
  rw [List.append_nil] at alone
  rw [alone, ← pending_of_written written]
  rfl

theorem tokensFrom?_comparison (chunk : List Char) (operator : Comparison) (rest : List Char) :
    tokensFrom? 0 none chunk (operator.text.toList ++ ' ' :: rest) =
      (tokens? rest).map fun tokens => pending chunk ++ .compare operator :: tokens := by
  have found : tokenAt? chunk (operator.text.toList ++ ' ' :: rest) =
      some (.compare operator, operator.text.toList.length) := by
    cases operator <;> rfl
  rw [← tokens?_space rest]
  cases operator <;> exact tokensFrom?_of_token (by rfl) found

theorem tokensFrom?_in {chunk : List Char} (held : isBlankText chunk = false) (rest : List Char) :
    tokensFrom? 0 none chunk (" in ".toList ++ rest) =
      (tokens? rest).map fun tokens => pending chunk ++ .within :: tokens := by
  have word : tokenAt? chunk (' ' :: 'i' :: 'n' :: ' ' :: rest) = some (.within, 3) := by
    have start : startsWithIn (' ' :: 'i' :: 'n' :: ' ' :: rest) = true := rfl
    rw [tokenAt?_of_not_mem chunk (by decide), start, held]
    rfl
  rw [← tokens?_space rest]
  exact tokensFrom?_of_token rfl word

theorem pending_space (chunk : List Char) : pending (' ' :: chunk) = pending chunk := by
  have blank : isBlankText [' '] = true := rfl
  exact pending_blank_append chunk blank

theorem tokens?_compare (leftWritten : left.Written leftText)
    (rightWritten : right.Written rightText) (operator : Comparison) :
    tokens? (leftText ++ ' ' :: (operator.text.toList ++ ' ' :: rightText)) =
      some [.operand leftText, .compare operator, .operand rightText] := by
  have space : tokensFrom? 0 none leftText.reverse
      (' ' :: (operator.text.toList ++ ' ' :: rightText)) =
        tokensFrom? 0 none (' ' :: leftText.reverse)
          (operator.text.toList ++ ' ' :: rightText) := by
    refine tokensFrom?_of_not_mem (by decide) ?_
    intro word
    obtain ⟨_, first, _, _, _, same, -, letter, -⟩ := exists_of_startsWithIn word
    have second := (List.cons.inj same).2
    cases operator <;>
      · obtain ⟨rfl, -⟩ := List.cons.inj second
        exact absurd letter (by decide)
  rw [tokensFrom?_of_written leftWritten, space, tokensFrom?_comparison,
    tokens?_of_written rightWritten, pending_space, pending_of_written leftWritten]
  rfl

theorem tokens?_within (leftWritten : left.Written leftText)
    (rightWritten : right.Written rightText) :
    tokens? (leftText ++ " in ".toList ++ rightText) =
      some [.operand leftText, .within, .operand rightText] := by
  have held : isBlankText leftText.reverse = false := by
    obtain ⟨first, rest, same⟩ := List.exists_cons_of_ne_nil leftWritten.nonempty
    have solid := leftWritten.starts first (by rw [same]; rfl)
    rw [isBlankText_reverse, same]
    simp [isBlankText, solid]
  rw [List.append_assoc, tokensFrom?_of_written leftWritten, tokensFrom?_in held,
    tokens?_of_written rightWritten, pending_of_written leftWritten]
  rfl

/-- The parentheses of a call belong to the operand. -/
theorem tokens?_empty (written : left.Written leftText) :
    tokens? ("empty".toList ++ grouped leftText) =
      some [.operand ("empty".toList ++ grouped leftText)] := by
  have name : Absorbed "empty".toList := absorbed_of_solid rfl
  have finish : Stops Character.isBlank ("empty".toList ++ grouped leftText).reverse := by
    rw [List.reverse_append, grouped, List.reverse_cons, List.reverse_append]
    exact stops_cons (by decide)
  have start : Stops Character.isBlank ("empty".toList ++ grouped leftText) :=
    stops_cons (by decide)
  have held := pending_reverse (trim_of_stops start finish) (List.cons_ne_nil _ _)
  have opens : opensOperandGroup ("empty".toList.reverse ++ []) '(' = true := rfl
  have call := tokensFrom?_brackets opens rfl (show Nesting.isClosing ')' = true from rfl)
    written.whole.balanced []
  have taken : tokens? ("empty".toList ++ grouped leftText) =
      tokensFrom? 0 none ("empty".toList ++ grouped leftText).reverse [] := by
    rw [List.append_nil, List.append_nil] at call
    rw [List.reverse_append, tokens?, name, List.append_nil]
    exact call
  rw [taken, ← held]
  rfl

end Leaves

/-- Whether the tokens of a text write a tree, however many levels they take. -/
def TextWrites (text : List Char) (tree : Tree) : Prop :=
  ∃ tokens levels, tokens? text = some tokens ∧ Writes levels tokens tree

theorem textWrites_of_unary {text : List Char} {tokens : List Token} {tree : Tree}
    (lexed : tokens? text = some tokens) (derives : Derives .unary 0 tokens [tree]) :
    TextWrites text tree :=
  ⟨tokens, 0, lexed, derives.writes⟩

/-- Terms that a phrase joins: in parentheses, with the text of a connective between them. -/
theorem exists_derives_joined {phrase : Phrase} {separator : List Char} {connective : Token}
    (joins : ∀ rest, tokens? (separator ++ rest) =
      (tokens? rest).map fun tokens => connective :: tokens)
    (only : ∀ {levels tokens term}, Derives .unary levels tokens [term] →
      Derives phrase levels tokens [term])
    (more : ∀ {levels tokens others term terms}, Derives .unary levels tokens [term] →
      Derives phrase levels others terms →
        Derives phrase levels (tokens ++ connective :: others) (term :: terms))
    {terms : List Tree} (any : terms ≠ [])
    (written : ∀ term ∈ terms, TextWrites term.text term) :
    ∃ tokens levels, tokens? (joined separator (Tree.groups terms)) = some tokens ∧
      Derives phrase levels tokens terms := by
  induction terms with
  | nil => exact absurd rfl any
  | cons term others ih =>
    rw [List.forall_mem_cons] at written
    obtain ⟨⟨tokens, levels, lexed, writes⟩, othersWritten⟩ := written
    -- The last term has no connective behind it.
    by_cases last : others = []
    · subst last
      exact ⟨groupTokens tokens, levels + 1, tokens?_grouped lexed, only writes.group⟩
    · obtain ⟨moreTokens, moreLevels, moreLexed, derives⟩ := ih last othersWritten
      have groupsLeft : Tree.groups others ≠ [] := by
        cases others with
        | nil => exact absurd rfl last
        | cons second rest => exact List.cons_ne_nil _ _
      refine ⟨groupTokens tokens ++ connective :: moreTokens, max (levels + 1) moreLevels, ?_, ?_⟩
      · rw [Tree.groups, joined_cons _ _ groupsLeft, List.append_assoc,
          tokens?_grouped_append lexed, joins, moreLexed]
        rfl
      · exact more (writes.group.mono (Nat.le_max_left _ _))
          (derives.mono (Nat.le_max_right _ _))

theorem textWrites_or {terms : List Tree} (several : 2 ≤ terms.length)
    (written : ∀ term ∈ terms, TextWrites term.text term) :
    TextWrites (Tree.or terms).text (.or terms) := by
  match terms, several with
  | first :: second :: rest, _ =>
    obtain ⟨tokens, levels, lexed, derives⟩ := exists_derives_joined tokens?_or_append
      (fun only => only.conjunct.disjunct) (fun first rest => first.conjunct.or rest)
      (List.cons_ne_nil _ _) written
    exact ⟨tokens, levels, by rw [Tree.text]; exact lexed, first, second :: rest, derives, rfl⟩

theorem textWrites_and {terms : List Tree} (several : 2 ≤ terms.length)
    (written : ∀ term ∈ terms, TextWrites term.text term) :
    TextWrites (Tree.and terms).text (.and terms) := by
  match terms, several with
  | first :: second :: rest, _ =>
    obtain ⟨tokens, levels, lexed, derives⟩ := exists_derives_joined tokens?_and_append
      .conjunct .and (List.cons_ne_nil _ _) written
    exact ⟨tokens, levels, by rw [Tree.text]; exact lexed, _, [], derives.disjunct, rfl⟩

theorem textWrites_not {term : Tree} (written : TextWrites term.text term) :
    TextWrites (Tree.not term).text (.not term) := by
  obtain ⟨tokens, levels, lexed, writes⟩ := written
  rw [Tree.text]
  exact ⟨_, levels + 2, tokens?_not_grouped lexed, writes.not⟩

theorem single_of_written {operand : Operand} {content : List Char}
    (written : operand.Written content) (notBool : ∀ value, operand ≠ .literal (.bool value)) :
    single content = .holds operand := by
  -- A text that is `true` or `false` would write a boolean.
  have notWord : ∀ value, content ≠ Operand.literalText (.bool value) := by
    rintro value rfl
    exact notBool value (written.parsed.symm.trans (Operand.written_bool value).parsed)
  have notTrue : content ≠ "true".toList := notWord true
  have notFalse : content ≠ "false".toList := notWord false
  simp only [single, notTrue, notFalse, ↓reduceIte, written.notCall, written.parsed]

theorem single_of_empty {operand : Operand} {content : List Char}
    (written : operand.Written content) :
    single ("empty".toList ++ grouped content) = .empty operand := by
  have notTrue : "empty".toList ++ grouped content ≠ "true".toList := by
    intro same
    exact absurd (List.cons.inj same).1 (by decide)
  have notFalse : "empty".toList ++ grouped content ≠ "false".toList := by
    intro same
    exact absurd (List.cons.inj same).1 (by decide)
  have call : emptyCall? ("empty".toList ++ grouped content) = some content :=
    enclosed?_brackets '(' ')' content
  simp only [single, notTrue, notFalse, ↓reduceIte, call, written.parsed]

/-- The text of a printable tree writes it. -/
theorem Tree.Printable.textWrites {tree : Tree} (printable : tree.Printable) :
    TextWrites tree.text tree := by
  induction printable with
  | or terms several _ ih => exact textWrites_or several ih
  | and terms several _ ih => exact textWrites_and several ih
  | not term _ ih => exact textWrites_not ih
  | compare left operator right leftPlain rightPlain =>
    have derives := Derives.compare 0 left.text operator right.text
    rw [leftPlain.written.parsed, rightPlain.written.parsed] at derives
    exact textWrites_of_unary
      (tokens?_compare leftPlain.written rightPlain.written operator) derives
  | within needle haystack needlePlain haystackPlain =>
    have derives := Derives.within 0 needle.text haystack.text
    rw [needlePlain.written.parsed, haystackPlain.written.parsed] at derives
    exact textWrites_of_unary (tokens?_within needlePlain.written haystackPlain.written) derives
  | empty operand plain =>
    have derives := Derives.single 0 ("empty".toList ++ grouped operand.text)
    rw [single_of_empty plain.written] at derives
    exact textWrites_of_unary (tokens?_empty plain.written) derives
  | constant value =>
    have derives := Derives.single 0 (Operand.literalText (.bool value))
    have constant : single (Operand.literalText (.bool value)) = .constant value := by
      cases value <;> rfl
    rw [constant] at derives
    exact textWrites_of_unary (tokens?_of_written (Operand.written_bool value)) derives
  | holds operand plain notBool =>
    have derives := Derives.single 0 operand.text
    rw [single_of_written plain.written notBool] at derives
    exact textWrites_of_unary (tokens?_of_written plain.written) derives

/-- A printable tree is read back from its text, unless the text nests too deep. -/
theorem parse_text_of_printable {tree : Tree} (printable : tree.Printable)
    (fits : textNesting tree.text ≤ maxNesting) :
    parse tree.text = .ok ⟨trim tree.text, tree⟩ := by
  obtain ⟨tokens, levels, lexed, writes⟩ := printable.textWrites
  rw [textNesting, lexed] at fits
  exact parse_eq_ok_iff.2 ⟨tokens, tree, lexed, writes.of_nesting fits, rfl⟩

/-- A text with a separator, a bracket and operators in it. -/
def markedLabel : Operand :=
  .literal (.text "a, b] || !(c) in d")

def labelTree : Tree :=
  .or
    [.and
      [.compare (.path "source.amount".toList) .greaterOrEqual (.literal (.ofInt (-5))),
        .within markedLabel (.list [.list [markedLabel, .literal .null], .path "in".toList])],
      .not (.empty (.path "tags.*".toList))]

theorem printable_labelTree : labelTree.Printable := by
  have marked : markedLabel.Plain := .text _ (by decide) (by decide)
  have path : ∀ content, Operand.isPath content = true → content ∉ Operand.literalWords →
      (Operand.path content).Plain := fun _ path notWord => .path _ path notWord
  have inner : (Operand.list [markedLabel, .literal .null]).Plain :=
    .list _ (by simpa using ⟨marked, .null⟩)
  have haystack :
      (Operand.list [.list [markedLabel, .literal .null], .path "in".toList]).Plain :=
    .list _ (by simpa using ⟨inner, path _ (by decide) (by decide)⟩)
  have amount : (Tree.compare (.path "source.amount".toList) .greaterOrEqual
      (.literal (.ofInt (-5)))).Printable :=
    .compare _ _ _ (path _ (by decide) (by decide)) (.integer _ (by decide))
  have label := Tree.Printable.within _ _ marked haystack
  have tags := Tree.Printable.empty _ (path "tags.*".toList (by decide) (by decide))
  exact .or _ (by decide) (by
    simpa using ⟨.and _ (by decide) (by simpa using ⟨amount, label⟩), .not _ tags⟩)

theorem parse_text_labelTree :
    labelTree.Printable ∧ textNesting labelTree.text ≤ maxNesting ∧
      parse labelTree.text = .ok ⟨trim labelTree.text, labelTree⟩ := by
  have fits : textNesting labelTree.text ≤ maxNesting := by decide +kernel
  exact ⟨printable_labelTree, fits, parse_text_of_printable printable_labelTree fits⟩

end Condition

end Intake
