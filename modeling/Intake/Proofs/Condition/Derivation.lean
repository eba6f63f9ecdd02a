import Intake.Proofs.Condition.Grammar

/-!
# Derivations of conditions

The grammar of conditions, from loosest to tightest:

    disjunction := conjunction ("||" conjunction)*
    conjunction := unary ("&&" unary)*
    unary       := "!" unary | "(" disjunction ")" | operand
                 | operand operator operand | operand "in" operand

A derivation has tokens, a tree, and a depth of nesting of its own. The parser accepts a list of
tokens exactly if a derivation that nests at most 64 deep has them, and then answers the tree of
that derivation. No two derivations have the same tokens.
-/

namespace Intake

namespace Condition

/-- The derivations of a phrase; the terms of a connective are listed from the left. -/
inductive Derivation : Phrase → Type
  | operand (text : List Char) : Derivation .unary
  | compare (left : List Char) (operator : Comparison) (right : List Char) : Derivation .unary
  | within (needle haystack : List Char) : Derivation .unary
  | not (inner : Derivation .unary) : Derivation .unary
  | group (inner : Derivation .disjunction) : Derivation .unary
  | conjunct (only : Derivation .unary) : Derivation .conjunction
  | and (first : Derivation .unary) (rest : Derivation .conjunction) : Derivation .conjunction
  | disjunct (only : Derivation .conjunction) : Derivation .disjunction
  | or (first : Derivation .conjunction) (rest : Derivation .disjunction) :
    Derivation .disjunction

namespace Derivation

/-- The tokens of a derivation from left to right. -/
def tokens {phrase : Phrase} : Derivation phrase → List Token
  | .operand text => [.operand text]
  | .compare left operator right => [.operand left, .compare operator, .operand right]
  | .within needle haystack => [.operand needle, .within, .operand haystack]
  | .not inner => .not :: inner.tokens
  | .group inner => .openGroup :: (inner.tokens ++ [.closeGroup])
  | .conjunct only => only.tokens
  | .and first rest => first.tokens ++ .and :: rest.tokens
  | .disjunct only => only.tokens
  | .or first rest => first.tokens ++ .or :: rest.tokens

/-- How deep negations and groups nest. -/
def nesting {phrase : Phrase} : Derivation phrase → Nat
  | .operand _ | .compare _ _ _ | .within _ _ => 0
  | .not inner => inner.nesting + 1
  | .group inner => inner.nesting + 1
  | .conjunct only => only.nesting
  | .and first rest => max first.nesting rest.nesting
  | .disjunct only => only.nesting
  | .or first rest => max first.nesting rest.nesting

/-- The first term of a phrase and the further ones. A connective with one term is that term. -/
def terms {phrase : Phrase} : Derivation phrase → Tree × List Tree
  | .operand text => (single text, [])
  | .compare left operator right =>
    (.compare (Operand.parse left) operator (Operand.parse right), [])
  | .within needle haystack => (.within (Operand.parse needle) (Operand.parse haystack), [])
  | .not inner => (.not inner.terms.1, [])
  | .group inner => (collapse .or inner.terms.1 inner.terms.2, [])
  | .conjunct only => (only.terms.1, [])
  | .and first rest => (first.terms.1, rest.terms.1 :: rest.terms.2)
  | .disjunct only => (collapse .and only.terms.1 only.terms.2, [])
  | .or first rest =>
    (collapse .and first.terms.1 first.terms.2, rest.terms.1 :: rest.terms.2)

/-- The tree of a condition. -/
def tree (derivation : Derivation .disjunction) : Tree :=
  collapse .or derivation.terms.1 derivation.terms.2

/-- A unary phrase has one term. -/
theorem terms_unary (derivation : Derivation .unary) : derivation.terms.2 = [] := by
  cases derivation <;> rfl

/-- What a derivation writes is derived with as many levels as it nests. -/
theorem derives {phrase : Phrase} (derivation : Derivation phrase) {levels : Nat}
    (fits : derivation.nesting ≤ levels) :
    Derives phrase levels derivation.tokens (derivation.terms.1 :: derivation.terms.2) := by
  have alone : ∀ {levels : Nat} {inner : Derivation .unary},
      Derives .unary levels inner.tokens (inner.terms.1 :: inner.terms.2) →
        Derives .unary levels inner.tokens [inner.terms.1] := by
    intro levels inner derives
    rwa [inner.terms_unary] at derives
  induction derivation generalizing levels with
  | operand text => exact .single levels text
  | compare left operator right => exact .compare levels left operator right
  | within needle haystack => exact .within levels needle haystack
  | not inner ih =>
    obtain ⟨levels, rfl⟩ := Nat.exists_eq_add_of_le' (Nat.le_trans (Nat.le_add_left 1 _) fits)
    exact .not (alone (ih (Nat.le_of_succ_le_succ fits)))
  | group inner ih =>
    obtain ⟨levels, rfl⟩ := Nat.exists_eq_add_of_le' (Nat.le_trans (Nat.le_add_left 1 _) fits)
    exact .group (ih (Nat.le_of_succ_le_succ fits))
  | conjunct only ih => exact .conjunct (alone (ih fits))
  | and first rest ihFirst ihRest =>
    obtain ⟨firstFits, restFits⟩ := Nat.max_le.1 fits
    exact .and (alone (ihFirst firstFits)) (ihRest restFits)
  | disjunct only ih => exact .disjunct (ih fits)
  | or first rest ihFirst ihRest =>
    obtain ⟨firstFits, restFits⟩ := Nat.max_le.1 fits
    exact .or (ihFirst firstFits) (ihRest restFits)

/-- What is derived with some levels has a derivation that nests no deeper. -/
theorem exists_of_derives {phrase : Phrase} {levels : Nat} {tokens : List Token}
    {terms : List Tree} (derives : Derives phrase levels tokens terms) :
    ∃ derivation : Derivation phrase, derivation.tokens = tokens ∧
      derivation.nesting ≤ levels ∧ derivation.terms.1 :: derivation.terms.2 = terms := by
  induction derives with
  | single levels text => exact ⟨.operand text, rfl, Nat.zero_le _, rfl⟩
  | compare levels left operator right =>
    exact ⟨.compare left operator right, rfl, Nat.zero_le _, rfl⟩
  | within levels needle haystack => exact ⟨.within needle haystack, rfl, Nat.zero_le _, rfl⟩
  | not _ ih =>
    obtain ⟨inner, rfl, fits, same⟩ := ih
    obtain ⟨rfl, -⟩ := List.cons.inj same
    exact ⟨.not inner, rfl, Nat.succ_le_succ fits, rfl⟩
  | group _ ih =>
    obtain ⟨inner, rfl, fits, same⟩ := ih
    obtain ⟨rfl, rfl⟩ := List.cons.inj same
    exact ⟨.group inner, rfl, Nat.succ_le_succ fits, rfl⟩
  | conjunct _ ih =>
    obtain ⟨only, rfl, fits, same⟩ := ih
    obtain ⟨rfl, -⟩ := List.cons.inj same
    exact ⟨.conjunct only, rfl, fits, rfl⟩
  | and _ _ ihFirst ihRest =>
    obtain ⟨first, rfl, firstFits, same⟩ := ihFirst
    obtain ⟨rest, rfl, restFits, rfl⟩ := ihRest
    obtain ⟨rfl, -⟩ := List.cons.inj same
    exact ⟨.and first rest, rfl, Nat.max_le.2 ⟨firstFits, restFits⟩, rfl⟩
  | disjunct _ ih =>
    obtain ⟨only, rfl, fits, same⟩ := ih
    obtain ⟨rfl, rfl⟩ := List.cons.inj same
    exact ⟨.disjunct only, rfl, fits, rfl⟩
  | or _ _ ihFront ihRest =>
    obtain ⟨first, rfl, firstFits, same⟩ := ihFront
    obtain ⟨rest, rfl, restFits, rfl⟩ := ihRest
    obtain ⟨rfl, rfl⟩ := List.cons.inj same
    exact ⟨.or first rest, rfl, Nat.max_le.2 ⟨firstFits, restFits⟩, rfl⟩

theorem writes_iff {levels : Nat} {tokens : List Token} {tree : Tree} :
    Writes levels tokens tree ↔
      ∃ derivation : Derivation .disjunction, derivation.tokens = tokens ∧
        derivation.nesting ≤ levels ∧ derivation.tree = tree := by
  constructor
  · rintro ⟨first, others, derives, rfl⟩
    obtain ⟨derivation, written, fits, same⟩ := exists_of_derives derives
    obtain ⟨rfl, rfl⟩ := List.cons.inj same
    exact ⟨derivation, written, fits, rfl⟩
  · rintro ⟨derivation, rfl, fits, rfl⟩
    exact ⟨_, _, derivation.derives fits, rfl⟩

open Phrase

/-- Whether the tokens of a derivation, up to a token with which its phrase does not go on, tell
both where it ends and what it is. -/
def IsDetermined {phrase : Phrase} (derivation : Derivation phrase) : Prop :=
  ∀ (other : Derivation phrase) {rest otherRest : List Token}, EndsBefore phrase rest →
    EndsBefore phrase otherRest → derivation.tokens ++ rest = other.tokens ++ otherRest →
      derivation = other ∧ rest = otherRest

section Leaves

theorem isDetermined_operand (text : List Char) : IsDetermined (.operand text) := by
  intro other rest otherRest ends otherEnds same
  cases other with
  | operand =>
    obtain ⟨head, tail⟩ := List.cons.inj same
    exact ⟨congrArg _ (Token.operand.inj head), tail⟩
  | compare | within => exact absurd (List.cons.inj same).2 (ends.ne rfl)
  | not | group => exact nomatch (List.cons.inj same).1

theorem isDetermined_compare (left : List Char) (operator : Comparison) (right : List Char) :
    IsDetermined (.compare left operator right) := by
  intro other rest otherRest ends otherEnds same
  cases other with
  | operand => exact absurd (List.cons.inj same).2.symm (otherEnds.ne rfl)
  | compare =>
    simp only [tokens, List.cons_append, List.nil_append, List.cons.injEq, Token.operand.injEq,
      Token.compare.injEq] at same
    obtain ⟨rfl, rfl, rfl, tail⟩ := same
    exact ⟨rfl, tail⟩
  | within => exact nomatch (List.cons.inj (List.cons.inj same).2).1
  | not | group => exact nomatch (List.cons.inj same).1

theorem isDetermined_within (needle haystack : List Char) :
    IsDetermined (.within needle haystack) := by
  intro other rest otherRest ends otherEnds same
  cases other with
  | operand => exact absurd (List.cons.inj same).2.symm (otherEnds.ne rfl)
  | compare => exact nomatch (List.cons.inj (List.cons.inj same).2).1
  | within =>
    simp only [tokens, List.cons_append, List.nil_append, List.cons.injEq, Token.operand.injEq,
      true_and] at same
    obtain ⟨rfl, rfl, tail⟩ := same
    exact ⟨rfl, tail⟩
  | not | group => exact nomatch (List.cons.inj same).1

end Leaves

namespace IsDetermined

theorem not {inner : Derivation .unary} (determined : IsDetermined inner) :
    IsDetermined (.not inner) := by
  intro other rest otherRest ends otherEnds same
  cases other with
  | not =>
    obtain ⟨rfl, tail⟩ := determined _ ends otherEnds (List.cons.inj same).2
    exact ⟨rfl, tail⟩
  | _ => exact nomatch (List.cons.inj same).1

theorem group {inner : Derivation .disjunction} (determined : IsDetermined inner) :
    IsDetermined (.group inner) := by
  intro other rest otherRest ends otherEnds same
  cases other with
  | group =>
    simp only [tokens, List.cons_append, List.append_assoc, List.nil_append, List.cons.injEq,
      true_and] at same
    -- The closing parenthesis ends the condition inside.
    obtain ⟨rfl, closed⟩ := determined _ (endsBefore_cons rfl) (endsBefore_cons rfl) same
    exact ⟨rfl, (List.cons.inj closed).2⟩
  | _ => exact nomatch (List.cons.inj same).1

theorem conjunct {only : Derivation .unary} (determined : IsDetermined only) :
    IsDetermined (.conjunct only) := by
  intro other rest otherRest ends otherEnds same
  cases other with
  | conjunct =>
    obtain ⟨rfl, tail⟩ := determined _ ends.unary otherEnds.unary same
    exact ⟨rfl, tail⟩
  | and first more =>
    rw [tokens, tokens, List.append_assoc] at same
    exact absurd (determined first ends.unary (endsBefore_cons rfl) same).2 (ends.ne rfl)

theorem and {first : Derivation .unary} {more : Derivation .conjunction}
    (determined : IsDetermined first) (determinedMore : IsDetermined more) :
    IsDetermined (.and first more) := by
  intro other rest otherRest ends otherEnds same
  rw [tokens, List.append_assoc] at same
  cases other with
  | conjunct only =>
    exact absurd (determined only (endsBefore_cons rfl) otherEnds.unary same).2.symm
      (otherEnds.ne rfl)
  | and =>
    rw [tokens, List.append_assoc] at same
    obtain ⟨rfl, behind⟩ := determined _ (endsBefore_cons rfl) (endsBefore_cons rfl) same
    obtain ⟨rfl, tail⟩ := determinedMore _ ends otherEnds (List.cons.inj behind).2
    exact ⟨rfl, tail⟩

theorem disjunct {only : Derivation .conjunction} (determined : IsDetermined only) :
    IsDetermined (.disjunct only) := by
  intro other rest otherRest ends otherEnds same
  cases other with
  | disjunct =>
    obtain ⟨rfl, tail⟩ := determined _ ends.conjunction otherEnds.conjunction same
    exact ⟨rfl, tail⟩
  | or first more =>
    rw [tokens, tokens, List.append_assoc] at same
    exact absurd (determined first ends.conjunction (endsBefore_cons rfl) same).2 (ends.ne rfl)

theorem or {first : Derivation .conjunction} {more : Derivation .disjunction}
    (determined : IsDetermined first) (determinedMore : IsDetermined more) :
    IsDetermined (.or first more) := by
  intro other rest otherRest ends otherEnds same
  rw [tokens, List.append_assoc] at same
  cases other with
  | disjunct only =>
    exact absurd (determined only (endsBefore_cons rfl) otherEnds.conjunction same).2.symm
      (otherEnds.ne rfl)
  | or =>
    rw [tokens, List.append_assoc] at same
    obtain ⟨rfl, behind⟩ := determined _ (endsBefore_cons rfl) (endsBefore_cons rfl) same
    obtain ⟨rfl, tail⟩ := determinedMore _ ends otherEnds (List.cons.inj behind).2
    exact ⟨rfl, tail⟩

end IsDetermined

theorem isDetermined {phrase : Phrase} (derivation : Derivation phrase) :
    IsDetermined derivation := by
  induction derivation with
  | operand text => exact isDetermined_operand text
  | compare left operator right => exact isDetermined_compare left operator right
  | within needle haystack => exact isDetermined_within needle haystack
  | not inner ih => exact ih.not
  | group inner ih => exact ih.group
  | conjunct only ih => exact ih.conjunct
  | and first more ihFirst ihMore => exact ihFirst.and ihMore
  | disjunct only ih => exact ih.disjunct
  | or first more ihFirst ihMore => exact ihFirst.or ihMore

/-- The grammar is unambiguous. -/
theorem tokens_injective {phrase : Phrase} {derivation other : Derivation phrase}
    (same : derivation.tokens = other.tokens) : derivation = other :=
  (derivation.isDetermined other (endsBefore_nil phrase) (endsBefore_nil phrase)
    (congrArg (· ++ []) same)).1

end Derivation

/-- The parser accepts exactly the tokens of a derivation that nests at most 64 deep, with the tree
of that derivation, and refuses all other tokens. As no tokens have two derivations, those of a
deeper one are refused. A text is a condition as its tokens tell. -/
theorem parseTokens_iff_derivation (tokens : List Token) :
    (∀ tree, parseTokens tokens = .ok tree ↔
      ∃ derivation : Derivation .disjunction, derivation.tokens = tokens ∧
        derivation.nesting ≤ 64 ∧ derivation.tree = tree) ∧
    ((∃ misplaced, parseTokens tokens = .error misplaced) ↔
      ∀ derivation : Derivation .disjunction, derivation.tokens = tokens →
        64 < derivation.nesting) ∧
    (∀ derivation other : Derivation .disjunction, derivation.tokens = tokens →
      other.tokens = tokens → derivation = other) ∧
    (∀ text, tokens? text = some tokens → ∀ condition, parse text = .ok condition ↔
      ∃ derivation : Derivation .disjunction, derivation.tokens = tokens ∧
        derivation.nesting ≤ 64 ∧ condition = ⟨Text.trim text, derivation.tree⟩) := by
  have accepted : ∀ tree, parseTokens tokens = .ok tree ↔
      ∃ derivation : Derivation .disjunction, derivation.tokens = tokens ∧
        derivation.nesting ≤ 64 ∧ derivation.tree = tree := fun tree =>
    Iff.trans ⟨writes_of_parseTokens, parseTokens_of_writes⟩ Derivation.writes_iff
  refine ⟨accepted, ?_, fun derivation other written otherWritten =>
    Derivation.tokens_injective (written.trans otherWritten.symm), ?_⟩
  · cases parsed : parseTokens tokens with
    | error misplaced =>
      refine iff_of_true ⟨misplaced, rfl⟩ fun derivation written => Nat.lt_of_not_le fun fits => ?_
      rw [(accepted derivation.tree).2 ⟨derivation, written, fits, rfl⟩] at parsed
      cases parsed
    | ok tree =>
      obtain ⟨derivation, written, fits, -⟩ := (accepted tree).1 parsed
      refine iff_of_false (fun ⟨misplaced, refused⟩ => nomatch refused) fun deep => ?_
      exact absurd (deep derivation written) (Nat.not_lt.2 fits)
  · intro text lexed condition
    rw [parse_eq_ok_iff]
    constructor
    · rintro ⟨others, tree, found, writes, rfl⟩
      obtain rfl := Option.some.inj (lexed.symm.trans found)
      obtain ⟨derivation, written, fits, rfl⟩ := Derivation.writes_iff.1 writes
      exact ⟨derivation, written, fits, rfl⟩
    · rintro ⟨derivation, written, fits, rfl⟩
      exact ⟨tokens, _, lexed, Derivation.writes_iff.2 ⟨derivation, written, fits, rfl⟩, rfl⟩

/-- Negations of the group `(a || b && c in d)`. -/
def deniedGroup : Nat → Derivation .unary
  | 0 =>
    .group (.or (.conjunct (.operand ['a']))
      (.disjunct (.and (.operand ['b']) (.conjunct (.within ['c'] ['d'])))))
  | levels + 1 => .not (deniedGroup levels)

def deniedCondition (levels : Nat) : Derivation .disjunction :=
  .disjunct (.conjunct (deniedGroup levels))

/-- Sixty-three negations of a group are accepted, and one more is too many. -/
theorem parseTokens_iff_derivation_denied :
    parseTokens (deniedCondition 63).tokens = .ok (deniedCondition 63).tree ∧
      ∃ misplaced, parseTokens (deniedCondition 64).tokens = .error misplaced := by
  obtain ⟨accepted, -⟩ := parseTokens_iff_derivation (deniedCondition 63).tokens
  obtain ⟨-, refused, only, -⟩ := parseTokens_iff_derivation (deniedCondition 64).tokens
  refine ⟨(accepted _).2 ⟨deniedCondition 63, rfl, by decide, rfl⟩, refused.2 ?_⟩
  intro derivation written
  rw [only derivation (deniedCondition 64) written rfl]
  decide

end Condition

end Intake
