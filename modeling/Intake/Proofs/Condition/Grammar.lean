import Intake.Condition.Parser

/-!
# The grammar of conditions

A derivation tells which trees a list of tokens writes, and how deep negations and groups nest in
it. The parser reads exactly what is derived: what it accepts has a derivation, and a derivation is
followed token by token as long as the tokens behind it do not go on with the same phrase.
-/

namespace Intake

namespace Condition

/-- What a phrase of a condition is. -/
inductive Phrase where
  | unary
  | conjunction
  | disjunction

/-- The terms of a phrase that some tokens write with a number of levels left. -/
inductive Derives : Phrase → Nat → List Token → List Tree → Prop
  | single (levels : Nat) (text : List Char) :
    Derives .unary levels [.operand text] [single text]
  | compare (levels : Nat) (left : List Char) (operator : Comparison) (right : List Char) :
    Derives .unary levels [.operand left, .compare operator, .operand right]
      [.compare (Operand.parse left) operator (Operand.parse right)]
  | within (levels : Nat) (needle haystack : List Char) :
    Derives .unary levels [.operand needle, .within, .operand haystack]
      [.within (Operand.parse needle) (Operand.parse haystack)]
  | not {levels : Nat} {tokens : List Token} {term : Tree}
      (inner : Derives .unary levels tokens [term]) :
    Derives .unary (levels + 1) (.not :: tokens) [.not term]
  | group {levels : Nat} {tokens : List Token} {first : Tree} {others : List Tree}
      (inner : Derives .disjunction levels tokens (first :: others)) :
    Derives .unary (levels + 1) (.openGroup :: (tokens ++ [.closeGroup]))
      [collapse .or first others]
  | conjunct {levels : Nat} {tokens : List Token} {term : Tree}
      (only : Derives .unary levels tokens [term]) :
    Derives .conjunction levels tokens [term]
  | and {levels : Nat} {tokens more : List Token} {term : Tree} {others : List Tree}
      (first : Derives .unary levels tokens [term])
      (rest : Derives .conjunction levels more others) :
    Derives .conjunction levels (tokens ++ .and :: more) (term :: others)
  | disjunct {levels : Nat} {tokens : List Token} {first : Tree} {others : List Tree}
      (only : Derives .conjunction levels tokens (first :: others)) :
    Derives .disjunction levels tokens [collapse .and first others]
  | or {levels : Nat} {tokens more : List Token} {first : Tree} {others terms : List Tree}
      (front : Derives .conjunction levels tokens (first :: others))
      (rest : Derives .disjunction levels more terms) :
    Derives .disjunction levels (tokens ++ .or :: more) (collapse .and first others :: terms)

namespace Derives

variable {phrase : Phrase} {levels : Nat} {tokens : List Token} {terms : List Tree}

theorem tokens_ne_nil (derives : Derives phrase levels tokens terms) : tokens ≠ [] := by
  induction derives with
  | conjunct _ ih => exact ih
  | disjunct _ ih => exact ih
  | _ => simp

theorem getLast?_ne_within (derives : Derives phrase levels tokens terms) :
    tokens.getLast? ≠ some .within := by
  have behind : ∀ (front : List Token) (token : Token) (more : List Token), more ≠ [] →
      (front ++ token :: more).getLast? = more.getLast? := by
    intro front token more nonempty
    cases more with
    | nil => exact absurd rfl nonempty
    | cons next others => simp [List.getLast?_append, List.getLast?_cons]
  induction derives with
  | single => simp
  | compare => simp
  | within => simp
  | not inner ih => exact behind [] .not _ inner.tokens_ne_nil ▸ ih
  | @group levels tokens first others inner ih =>
    rw [← List.cons_append, List.getLast?_concat]
    simp
  | conjunct _ ih => exact ih
  | and _ rest _ ih => exact behind _ _ _ rest.tokens_ne_nil ▸ ih
  | disjunct _ ih => exact ih
  | or _ rest _ ih => exact behind _ _ _ rest.tokens_ne_nil ▸ ih

theorem mono (derives : Derives phrase levels tokens terms) {more : Nat} (enough : levels ≤ more) :
    Derives phrase more tokens terms := by
  induction derives generalizing more with
  | single levels text => exact .single more text
  | compare levels left operator right => exact .compare more left operator right
  | within levels needle haystack => exact .within more needle haystack
  | not _ ih =>
    obtain ⟨more, rfl⟩ := Nat.exists_eq_add_of_le' (Nat.le_trans (Nat.le_add_left 1 _) enough)
    exact .not (ih (Nat.le_of_succ_le_succ enough))
  | group _ ih =>
    obtain ⟨more, rfl⟩ := Nat.exists_eq_add_of_le' (Nat.le_trans (Nat.le_add_left 1 _) enough)
    exact .group (ih (Nat.le_of_succ_le_succ enough))
  | conjunct _ ih => exact .conjunct (ih enough)
  | and _ _ first rest => exact .and (first enough) (rest enough)
  | disjunct _ ih => exact .disjunct (ih enough)
  | or _ _ front rest => exact .or (front enough) (rest enough)

end Derives

namespace Phrase

/-- Whether a phrase that is read goes on when a token follows. -/
def goesOn : Phrase → Token → Bool
  | _, .compare _ | _, .within => true
  | .conjunction, .and | .disjunction, .and | .disjunction, .or => true
  | _, _ => false

/-- Whether a phrase is over before some tokens. -/
def EndsBefore (phrase : Phrase) (rest : List Token) : Prop :=
  ∀ token ∈ rest.head?, phrase.goesOn token = false

/-- What the parser makes of the tokens of a phrase. The steps that it needs are told by the number
of tokens: between one token and the next it goes through no more than four functions. -/
def Read (levels : Nat) (tokens : List Token) (terms : List Tree) : Phrase → Prop
  | .unary => ∀ steps position rest, 4 * tokens.length ≤ steps + 3 → EndsBefore .unary rest →
    ∀ term ∈ terms, parseUnary steps levels ⟨position, tokens ++ rest⟩ =
      .ok (term, ⟨position + tokens.length, rest⟩)
  | .conjunction => ∀ steps position rest, EndsBefore .conjunction rest →
    (4 * tokens.length ≤ steps + 2 → ∀ first others, terms = first :: others →
      parseAnd steps levels ⟨position, tokens ++ rest⟩ =
        .ok (collapse .and first others, ⟨position + tokens.length, rest⟩)) ∧
    (4 * tokens.length + 5 ≤ steps →
      parseMoreAnd steps levels ⟨position, .and :: (tokens ++ rest)⟩ =
        .ok (terms, ⟨position + 1 + tokens.length, rest⟩))
  | .disjunction => ∀ steps position rest, EndsBefore .disjunction rest →
    (4 * tokens.length ≤ steps + 1 → ∀ first others, terms = first :: others →
      parseOr steps levels ⟨position, tokens ++ rest⟩ =
        .ok (collapse .or first others, ⟨position + tokens.length, rest⟩)) ∧
    (4 * tokens.length + 5 ≤ steps →
      parseMoreOr steps levels ⟨position, .or :: (tokens ++ rest)⟩ =
        .ok (terms, ⟨position + 1 + tokens.length, rest⟩))

variable {rest : List Token}

theorem endsBefore_nil (phrase : Phrase) : phrase.EndsBefore [] := by
  simp [EndsBefore]

theorem endsBefore_cons {phrase : Phrase} {token : Token} (ends : phrase.goesOn token = false) :
    phrase.EndsBefore (token :: rest) := by
  simpa [EndsBefore] using ends

theorem EndsBefore.ne {phrase : Phrase} (ends : phrase.EndsBefore rest) {token : Token}
    {others : List Token} (further : phrase.goesOn token = true) : rest ≠ token :: others := by
  rintro rfl
  exact absurd further (by simp [ends token rfl])

theorem EndsBefore.conjunction (ends : EndsBefore .disjunction rest) :
    EndsBefore .conjunction rest := by
  intro token first
  have ended := ends token first
  cases token <;> simp_all [goesOn]

theorem EndsBefore.unary (ends : EndsBefore .conjunction rest) : EndsBefore .unary rest := by
  intro token first
  have ended := ends token first
  cases token <;> simp_all [goesOn]

end Phrase

open Phrase

section Ends

variable {rest : List Token} {steps levels position : Nat}

theorem parsePredicate_of_ends (text : List Char) (ends : EndsBefore .unary rest) :
    parsePredicate text ⟨position, rest⟩ = .ok (single text, ⟨position, rest⟩) := by
  rw [parsePredicate]
  split
  · next operator others same => exact absurd same (ends.ne rfl)
  · next others same => exact absurd same (ends.ne rfl)
  · rfl

theorem parseMoreAnd_of_ends (ends : EndsBefore .conjunction rest) :
    parseMoreAnd (steps + 1) levels ⟨position, rest⟩ = .ok ([], ⟨position, rest⟩) := by
  rw [parseMoreAnd]
  split
  · next others same => exact absurd same (ends.ne rfl)
  · rfl

theorem parseMoreOr_of_ends (ends : EndsBefore .disjunction rest) :
    parseMoreOr (steps + 1) levels ⟨position, rest⟩ = .ok ([], ⟨position, rest⟩) := by
  rw [parseMoreOr]
  split
  · next others same => exact absurd same (ends.ne rfl)
  · rfl

end Ends

section Steps

variable {steps levels position : Nat} {rest : List Token} {cursor middle after : Cursor}
  {tail : List Token}

theorem parseUnary_operand (text : List Char) :
    parseUnary (steps + 1) levels ⟨position, .operand text :: rest⟩ =
      parsePredicate text ⟨position + 1, rest⟩ := by
  unfold parseUnary
  cases levels <;> rfl

theorem parseUnary_not {term : Tree}
    (inner : parseUnary steps levels ⟨position + 1, rest⟩ = .ok (term, after)) :
    parseUnary (steps + 1) (levels + 1) ⟨position, .not :: rest⟩ = .ok (.not term, after) := by
  unfold parseUnary
  simp only [Cursor.next, List.head?_cons, List.tail_cons, inner, bind, Except.bind, pure,
    Except.pure]

theorem parseUnary_group {tree : Tree} {next : Nat}
    (inner : parseOr steps levels ⟨position + 1, rest⟩ = .ok (tree, ⟨next, .closeGroup :: tail⟩)) :
    parseUnary (steps + 1) (levels + 1) ⟨position, .openGroup :: rest⟩ =
      .ok (tree, ⟨next + 1, tail⟩) := by
  unfold parseUnary
  simp only [Cursor.next, List.head?_cons, List.tail_cons, inner, bind, Except.bind, pure,
    Except.pure]

theorem parseAnd_of {first : Tree} {others : List Tree}
    (front : parseUnary steps levels cursor = .ok (first, middle))
    (more : parseMoreAnd steps levels middle = .ok (others, after)) :
    parseAnd (steps + 1) levels cursor = .ok (collapse .and first others, after) := by
  simp only [parseAnd, front, more, bind, Except.bind, pure, Except.pure]

theorem parseMoreAnd_of {term : Tree} {others : List Tree}
    (front : parseUnary steps levels ⟨position + 1, rest⟩ = .ok (term, middle))
    (more : parseMoreAnd steps levels middle = .ok (others, after)) :
    parseMoreAnd (steps + 1) levels ⟨position, .and :: rest⟩ = .ok (term :: others, after) := by
  simp only [parseMoreAnd, Cursor.next, List.tail_cons, front, more, bind, Except.bind, pure,
    Except.pure]

theorem parseOr_of {first : Tree} {others : List Tree}
    (front : parseAnd steps levels cursor = .ok (first, middle))
    (more : parseMoreOr steps levels middle = .ok (others, after)) :
    parseOr (steps + 1) levels cursor = .ok (collapse .or first others, after) := by
  simp only [parseOr, front, more, bind, Except.bind, pure, Except.pure]

theorem parseMoreOr_of {term : Tree} {others : List Tree}
    (front : parseAnd steps levels ⟨position + 1, rest⟩ = .ok (term, middle))
    (more : parseMoreOr steps levels middle = .ok (others, after)) :
    parseMoreOr (steps + 1) levels ⟨position, .or :: rest⟩ = .ok (term :: others, after) := by
  simp only [parseMoreOr, Cursor.next, List.tail_cons, front, more, bind, Except.bind, pure,
    Except.pure]

end Steps

section Reading

variable {levels : Nat} {tokens more : List Token} {first term : Tree} {others terms : List Tree}

theorem read_operand {text : List Char}
    (predicate : ∀ position rest, EndsBefore .unary rest →
      parsePredicate text ⟨position + 1, tokens ++ rest⟩ =
        .ok (term, ⟨position + 1 + tokens.length, rest⟩)) :
    Read levels (.operand text :: tokens) [term] .unary := by
  intro steps position rest enough ends read member
  simp only [List.length_cons] at enough
  obtain ⟨steps, rfl⟩ := Nat.exists_eq_add_of_le' (show 1 ≤ steps by omega)
  rw [List.mem_singleton.1 member, List.length_cons, Nat.add_comm tokens.length, ← Nat.add_assoc]
  exact (parseUnary_operand text).trans (predicate position rest ends)

theorem read_not (inner : Read levels tokens [term] .unary) :
    Read (levels + 1) (.not :: tokens) [.not term] .unary := by
  intro steps position rest enough ends negated member
  simp only [List.length_cons] at enough
  obtain ⟨steps, rfl⟩ := Nat.exists_eq_add_of_le' (show 1 ≤ steps by omega)
  have read := inner steps (position + 1) rest (by omega) ends term List.mem_cons_self
  rw [List.mem_singleton.1 member, List.length_cons, Nat.add_comm tokens.length, ← Nat.add_assoc]
  exact parseUnary_not read

theorem read_group (inner : Read levels tokens (first :: others) .disjunction) :
    Read (levels + 1) (.openGroup :: (tokens ++ [.closeGroup])) [collapse .or first others]
      .unary := by
  intro steps position rest enough ends tree member
  simp only [List.length_cons, List.length_append, List.length_nil] at enough
  obtain ⟨steps, rfl⟩ := Nat.exists_eq_add_of_le' (show 1 ≤ steps by omega)
  have read := (inner steps (position + 1) (.closeGroup :: rest) (endsBefore_cons rfl)).1
    (by omega) first others rfl
  have behind : position + (Token.openGroup :: (tokens ++ [.closeGroup])).length =
      position + 1 + tokens.length + 1 := by
    simp only [List.length_cons, List.length_append, List.length_nil]
    omega
  rw [List.mem_singleton.1 member, List.cons_append, List.append_assoc, behind]
  exact parseUnary_group read

/-- The last term of a conjunction, which no `&&` follows. -/
theorem read_conjunct (nonempty : tokens ≠ []) (only : Read levels tokens [term] .unary) :
    Read levels tokens [term] .conjunction := by
  have positive := List.length_pos_iff.2 nonempty
  intro steps position rest ends
  constructor
  · intro enough first others same
    obtain ⟨rfl, rfl⟩ := List.cons.inj same
    obtain ⟨steps, rfl⟩ := Nat.exists_eq_add_of_le' (show 2 ≤ steps by omega)
    have read := only (steps + 1) position rest (by omega) ends.unary term List.mem_cons_self
    exact parseAnd_of read (parseMoreAnd_of_ends ends)
  · intro enough
    obtain ⟨steps, rfl⟩ := Nat.exists_eq_add_of_le' (show 2 ≤ steps by omega)
    have read := only (steps + 1) (position + 1) rest (by omega) ends.unary term List.mem_cons_self
    exact parseMoreAnd_of read (parseMoreAnd_of_ends ends)

theorem length_connected (tokens more : List Token) (start : Nat) (connective : Token) :
    start + (tokens ++ connective :: more).length =
      start + tokens.length + 1 + more.length := by
  rw [List.length_append, List.length_cons]
  omega

theorem read_and (nonempty : tokens ≠ []) (front : Read levels tokens [term] .unary)
    (goesOn : Read levels more others .conjunction) :
    Read levels (tokens ++ .and :: more) (term :: others) .conjunction := by
  have positive := List.length_pos_iff.2 nonempty
  intro steps position rest ends
  -- The steps left for the further terms are counted by the tokens in front of them.
  have length := length_connected tokens more 0 .and
  rw [length_connected, length_connected, List.append_assoc]
  constructor
  · intro enough _ _ same
    obtain ⟨rfl, rfl⟩ := List.cons.inj same
    obtain ⟨steps, rfl⟩ := Nat.exists_eq_add_of_le' (show 1 ≤ steps by omega)
    exact parseAnd_of
      (front steps position _ (by omega) (endsBefore_cons rfl) term List.mem_cons_self)
      ((goesOn steps _ rest ends).2 (by omega))
  · intro enough
    obtain ⟨steps, rfl⟩ := Nat.exists_eq_add_of_le' (show 1 ≤ steps by omega)
    exact parseMoreAnd_of
      (front steps _ _ (by omega) (endsBefore_cons rfl) term List.mem_cons_self)
      ((goesOn steps _ rest ends).2 (by omega))

/-- The last term of a disjunction, which no `||` follows. -/
theorem read_disjunct (nonempty : tokens ≠ [])
    (only : Read levels tokens (first :: others) .conjunction) :
    Read levels tokens [collapse .and first others] .disjunction := by
  have positive := List.length_pos_iff.2 nonempty
  intro steps position rest ends
  constructor
  · intro enough _ _ same
    obtain ⟨rfl, rfl⟩ := List.cons.inj same
    obtain ⟨steps, rfl⟩ := Nat.exists_eq_add_of_le' (show 2 ≤ steps by omega)
    have read := (only (steps + 1) position rest ends.conjunction).1 (by omega) _ _ rfl
    exact parseOr_of read (parseMoreOr_of_ends ends)
  · intro enough
    obtain ⟨steps, rfl⟩ := Nat.exists_eq_add_of_le' (show 2 ≤ steps by omega)
    have read := (only (steps + 1) (position + 1) rest ends.conjunction).1 (by omega) _ _ rfl
    exact parseMoreOr_of read (parseMoreOr_of_ends ends)

theorem read_or (nonempty : tokens ≠ [])
    (front : Read levels tokens (first :: others) .conjunction)
    (goesOn : Read levels more terms .disjunction) :
    Read levels (tokens ++ .or :: more) (collapse .and first others :: terms) .disjunction := by
  have positive := List.length_pos_iff.2 nonempty
  intro steps position rest ends
  have length := length_connected tokens more 0 .or
  rw [length_connected, length_connected, List.append_assoc]
  constructor
  · intro enough _ _ same
    obtain ⟨rfl, rfl⟩ := List.cons.inj same
    obtain ⟨steps, rfl⟩ := Nat.exists_eq_add_of_le' (show 1 ≤ steps by omega)
    exact parseOr_of
      ((front steps position _ (endsBefore_cons rfl)).1 (by omega) _ _ rfl)
      ((goesOn steps _ rest ends).2 (by omega))
  · intro enough
    obtain ⟨steps, rfl⟩ := Nat.exists_eq_add_of_le' (show 1 ≤ steps by omega)
    exact parseMoreOr_of
      ((front steps _ _ (endsBefore_cons rfl)).1 (by omega) _ _ rfl)
      ((goesOn steps _ rest ends).2 (by omega))

end Reading

/-- The parser reads what is derived. -/
theorem Derives.read {phrase : Phrase} {levels : Nat} {tokens : List Token} {terms : List Tree}
    (derives : Derives phrase levels tokens terms) : phrase.Read levels tokens terms := by
  induction derives with
  | single levels text => exact read_operand fun _ _ ends => parsePredicate_of_ends text ends
  | compare levels left operator right => exact read_operand fun _ _ _ => rfl
  | within levels needle haystack => exact read_operand fun _ _ _ => rfl
  | not _ ih => exact read_not ih
  | group _ ih => exact read_group ih
  | conjunct only ih => exact read_conjunct only.tokens_ne_nil ih
  | and first _ ihFirst ihRest => exact read_and first.tokens_ne_nil ihFirst ihRest
  | disjunct only ih => exact read_disjunct only.tokens_ne_nil ih
  | or front _ ihFront ihRest => exact read_or front.tokens_ne_nil ihFront ihRest

theorem bind_eq_ok {ε α β : Type} {first : Except ε α} {next : α → Except ε β} {result : β}
    (ok : (first >>= next) = .ok result) :
    ∃ value, first = .ok value ∧ next value = .ok result := by
  cases first with
  | error error => cases ok
  | ok value => exact ⟨value, rfl, ok⟩

/-- What the parser reads has a derivation. -/
structure Sound (steps : Nat) : Prop where
  unary : ∀ levels cursor term after, parseUnary steps levels cursor = .ok (term, after) →
    ∃ tokens, cursor.rest = tokens ++ after.rest ∧ Derives .unary levels tokens [term]
  conjunction : ∀ levels cursor tree after, parseAnd steps levels cursor = .ok (tree, after) →
    ∃ tokens first others, cursor.rest = tokens ++ after.rest ∧
      Derives .conjunction levels tokens (first :: others) ∧ tree = collapse .and first others
  moreAnd : ∀ levels cursor terms after, parseMoreAnd steps levels cursor = .ok (terms, after) →
    (terms = [] ∧ cursor = after) ∨
      ∃ tokens, cursor.rest = .and :: (tokens ++ after.rest) ∧
        Derives .conjunction levels tokens terms
  disjunction : ∀ levels cursor tree after, parseOr steps levels cursor = .ok (tree, after) →
    ∃ tokens first others, cursor.rest = tokens ++ after.rest ∧
      Derives .disjunction levels tokens (first :: others) ∧ tree = collapse .or first others
  moreOr : ∀ levels cursor terms after, parseMoreOr steps levels cursor = .ok (terms, after) →
    (terms = [] ∧ cursor = after) ∨
      ∃ tokens, cursor.rest = .or :: (tokens ++ after.rest) ∧
        Derives .disjunction levels tokens terms

theorem derives_of_parsePredicate {text : List Char} {levels : Nat} {cursor after : Cursor}
    {term : Tree} (ok : parsePredicate text cursor = .ok (term, after)) :
    ∃ tokens, .operand text :: cursor.rest = tokens ++ after.rest ∧
      Derives .unary levels tokens [term] := by
  obtain ⟨position, rest⟩ := cursor
  unfold parsePredicate at ok
  split at ok
  · next operator others same =>
    obtain rfl : rest = .compare operator :: others := same
    split at ok
    · next right behind found =>
      cases ok
      obtain ⟨first, rfl⟩ := Prod.mk.inj found
      cases others with
      | nil => cases first
      | cons token others =>
        cases first
        exact ⟨_, rfl, .compare levels text operator right⟩
    · cases ok
  · next others same =>
    obtain rfl : rest = .within :: others := same
    split at ok
    · next haystack behind found =>
      cases ok
      obtain ⟨first, rfl⟩ := Prod.mk.inj found
      cases others with
      | nil => cases first
      | cons token others =>
        cases first
        exact ⟨_, rfl, .within levels text haystack⟩
    · cases ok
  · cases ok
    exact ⟨[.operand text], rfl, .single levels text⟩

theorem Sound.unary_succ {steps : Nat} (sound : Sound steps) {levels : Nat}
    {cursor after : Cursor} {term : Tree}
    (ok : parseUnary (steps + 1) levels cursor = .ok (term, after)) :
    ∃ tokens, cursor.rest = tokens ++ after.rest ∧ Derives .unary levels tokens [term] := by
  obtain ⟨position, rest⟩ := cursor
  unfold parseUnary at ok
  cases rest with
  | nil => cases levels <;> cases ok
  | cons token rest =>
    cases token with
    | not =>
      cases levels with
      | zero => cases ok
      | succ levels =>
        obtain ⟨⟨inner, behind⟩, read, same⟩ := bind_eq_ok ok
        cases same
        obtain ⟨tokens, consumed, derives⟩ := sound.unary _ _ _ _ read
        exact ⟨.not :: tokens, congrArg _ consumed, derives.not⟩
    | openGroup =>
      cases levels with
      | zero => cases ok
      | succ levels =>
        obtain ⟨⟨inner, behind⟩, read, closed⟩ := bind_eq_ok ok
        obtain ⟨tokens, first, others, consumed, derives, rfl⟩ :=
          sound.disjunction _ _ _ _ read
        obtain ⟨next, left⟩ := behind
        -- The group is read only if the token behind its tree closes it.
        cases left with
        | nil => cases closed
        | cons token left =>
          cases token with
          | closeGroup =>
            cases closed
            refine ⟨.openGroup :: (tokens ++ [.closeGroup]), ?_, derives.group⟩
            rw [List.cons_append, List.append_assoc]
            exact congrArg _ consumed
          | _ => cases closed
    | operand text =>
      have read : parsePredicate text ⟨position + 1, rest⟩ = .ok (term, after) := by
        cases levels <;> exact ok
      exact derives_of_parsePredicate read
    | _ => cases levels <;> cases ok

section Step

variable {steps levels : Nat} (sound : Sound steps) {cursor after : Cursor}

include sound

theorem Sound.conjunction_succ {tree : Tree}
    (ok : parseAnd (steps + 1) levels cursor = .ok (tree, after)) :
    ∃ tokens first others, cursor.rest = tokens ++ after.rest ∧
      Derives .conjunction levels tokens (first :: others) ∧
        tree = collapse .and first others := by
  rw [parseAnd] at ok
  obtain ⟨⟨term, middle⟩, front, ok⟩ := bind_eq_ok ok
  obtain ⟨⟨others, behind⟩, more, same⟩ := bind_eq_ok ok
  cases same
  obtain ⟨tokens, consumed, derives⟩ := sound.unary _ _ _ _ front
  rcases sound.moreAnd _ _ _ _ more with ⟨rfl, rfl⟩ | ⟨rest, further, goesOn⟩
  · exact ⟨tokens, term, [], consumed, derives.conjunct, rfl⟩
  · refine ⟨tokens ++ .and :: rest, term, others, ?_, derives.and goesOn, rfl⟩
    rw [consumed, further, List.append_assoc, List.cons_append]

theorem Sound.moreAnd_succ {terms : List Tree}
    (ok : parseMoreAnd (steps + 1) levels cursor = .ok (terms, after)) :
    (terms = [] ∧ cursor = after) ∨
      ∃ tokens, cursor.rest = .and :: (tokens ++ after.rest) ∧
        Derives .conjunction levels tokens terms := by
  rw [parseMoreAnd] at ok
  split at ok
  · next left same =>
    obtain ⟨⟨term, middle⟩, front, ok⟩ := bind_eq_ok ok
    obtain ⟨⟨others, behind⟩, more, last⟩ := bind_eq_ok ok
    cases last
    obtain ⟨tokens, consumed, derives⟩ := sound.unary _ _ _ _ front
    have passed : left = tokens ++ middle.rest := by simpa [Cursor.next, same] using consumed
    refine Or.inr ?_
    rcases sound.moreAnd _ _ _ _ more with ⟨rfl, rfl⟩ | ⟨rest, further, goesOn⟩
    · exact ⟨tokens, by rw [same, passed], derives.conjunct⟩
    · refine ⟨tokens ++ .and :: rest, ?_, derives.and goesOn⟩
      rw [same, passed, further, List.append_assoc, List.cons_append]
  · cases ok
    exact Or.inl ⟨rfl, rfl⟩

theorem Sound.disjunction_succ {tree : Tree}
    (ok : parseOr (steps + 1) levels cursor = .ok (tree, after)) :
    ∃ tokens first others, cursor.rest = tokens ++ after.rest ∧
      Derives .disjunction levels tokens (first :: others) ∧
        tree = collapse .or first others := by
  rw [parseOr] at ok
  obtain ⟨⟨term, middle⟩, front, ok⟩ := bind_eq_ok ok
  obtain ⟨⟨terms, behind⟩, more, same⟩ := bind_eq_ok ok
  cases same
  obtain ⟨tokens, first, others, consumed, derives, rfl⟩ := sound.conjunction _ _ _ _ front
  rcases sound.moreOr _ _ _ _ more with ⟨rfl, rfl⟩ | ⟨rest, further, goesOn⟩
  · exact ⟨tokens, _, [], consumed, derives.disjunct, rfl⟩
  · refine ⟨tokens ++ .or :: rest, _, terms, ?_, derives.or goesOn, rfl⟩
    rw [consumed, further, List.append_assoc, List.cons_append]

theorem Sound.moreOr_succ {terms : List Tree}
    (ok : parseMoreOr (steps + 1) levels cursor = .ok (terms, after)) :
    (terms = [] ∧ cursor = after) ∨
      ∃ tokens, cursor.rest = .or :: (tokens ++ after.rest) ∧
        Derives .disjunction levels tokens terms := by
  rw [parseMoreOr] at ok
  split at ok
  · next left same =>
    obtain ⟨⟨term, middle⟩, front, ok⟩ := bind_eq_ok ok
    obtain ⟨⟨terms, behind⟩, more, last⟩ := bind_eq_ok ok
    cases last
    obtain ⟨tokens, first, others, consumed, derives, rfl⟩ := sound.conjunction _ _ _ _ front
    have passed : left = tokens ++ middle.rest := by simpa [Cursor.next, same] using consumed
    refine Or.inr ?_
    rcases sound.moreOr _ _ _ _ more with ⟨rfl, rfl⟩ | ⟨rest, further, goesOn⟩
    · exact ⟨tokens, by rw [same, passed], derives.disjunct⟩
    · refine ⟨tokens ++ .or :: rest, ?_, derives.or goesOn⟩
      rw [same, passed, further, List.append_assoc, List.cons_append]
  · cases ok
    exact Or.inl ⟨rfl, rfl⟩

theorem Sound.step : Sound (steps + 1) := by
  constructor
  case unary => exact fun _ _ _ _ ok => sound.unary_succ ok
  case conjunction => exact fun _ _ _ _ ok => sound.conjunction_succ ok
  case moreAnd => exact fun _ _ _ _ ok => sound.moreAnd_succ ok
  case disjunction => exact fun _ _ _ _ ok => sound.disjunction_succ ok
  case moreOr => exact fun _ _ _ _ ok => sound.moreOr_succ ok

end Step

theorem sound (steps : Nat) : Sound steps := by
  induction steps with
  | zero =>
    constructor
    all_goals
      intro levels cursor result after ok
      simp [parseUnary, parseAnd, parseMoreAnd, parseOr, parseMoreOr] at ok
  | succ steps ih => exact ih.step

/-- The tokens write a tree with a number of levels. -/
def Writes (levels : Nat) (tokens : List Token) (tree : Tree) : Prop :=
  ∃ first others, Derives .disjunction levels tokens (first :: others) ∧
    tree = collapse .or first others

theorem parseTokens_of_writes {tokens : List Token} {tree : Tree}
    (writes : Writes maxNesting tokens tree) : parseTokens tokens = .ok tree := by
  obtain ⟨first, others, derives, rfl⟩ := writes
  have read := (derives.read (stepsFor tokens) 0 [] (endsBefore_nil _)).1
    (by unfold stepsFor; omega) first others rfl
  rw [List.append_nil] at read
  rw [parseTokens, read]
  rfl

theorem writes_of_parseTokens {tokens : List Token} {tree : Tree}
    (ok : parseTokens tokens = .ok tree) : Writes maxNesting tokens tree := by
  unfold parseTokens at ok
  split at ok
  · cases ok
  · next parsed cursor read =>
    split at ok
    · next all =>
      cases ok
      obtain ⟨consumed, first, others, same, derives, rfl⟩ :=
        (sound _).disjunction _ _ _ _ read
      rw [all, List.append_nil] at same
      obtain rfl : tokens = consumed := same
      exact ⟨first, others, derives, rfl⟩
    · cases ok

/-- A text is accepted if its tokens write a tree. -/
theorem parse_eq_ok_iff {text : List Char} {condition : Condition} :
    parse text = .ok condition ↔ ∃ tokens tree, tokens? text = some tokens ∧
      Writes maxNesting tokens tree ∧ condition = ⟨Text.trim text, tree⟩ := by
  constructor
  · intro ok
    unfold parse at ok
    split at ok
    · cases ok
    · cases ok
    · next tokens _ lexed =>
      split at ok
      · cases ok
      · next tree parsed =>
        cases ok
        exact ⟨tokens, tree, lexed, writes_of_parseTokens parsed, rfl⟩
  · rintro ⟨tokens, tree, lexed, writes, rfl⟩
    have parsed := parseTokens_of_writes writes
    obtain ⟨_, _, derives, -⟩ := writes
    cases tokens with
    | nil => exact absurd rfl derives.tokens_ne_nil
    | cons token others => simp only [parse, lexed, parsed]

/-- How deep negations and groups nest behind each token, as the negations that wait for their end
in each open group, the innermost first. -/
def nestingStep : List Nat → Token → List Nat
  | waiting :: outer, .not => (waiting + 1) :: outer
  | groups, .openGroup => 0 :: groups
  | _ :: outer, .closeGroup => outer
  | _ :: outer, .and | _ :: outer, .or => 0 :: outer
  | groups, _ => groups

/-- The levels of nesting at a place: the open groups, of which the outermost is the condition
itself, and the negations that wait. -/
def nestingLevels (groups : List Nat) : Nat :=
  groups.foldr (· + ·) 0 + (groups.length - 1)

/-- The most levels of nesting over some tokens. -/
def nestingFrom (groups : List Nat) : List Token → Nat
  | [] => nestingLevels groups
  | token :: rest => max (nestingLevels groups) (nestingFrom (nestingStep groups token) rest)

/-- How deep negations and groups nest in a list of tokens. -/
def nesting (tokens : List Token) : Nat :=
  nestingFrom [0] tokens

theorem nestingLevels_le_nestingFrom (groups : List Nat) (tokens : List Token) :
    nestingLevels groups ≤ nestingFrom groups tokens := by
  cases tokens with
  | nil => exact Nat.le_refl _
  | cons token rest => exact Nat.le_max_left _ _

theorem nestingFrom_step_le (groups : List Nat) (token : Token) (rest : List Token) :
    nestingFrom (nestingStep groups token) rest ≤ nestingFrom groups (token :: rest) :=
  Nat.le_max_right _ _

section Nesting

variable (waiting : Nat) (outer : List Nat) (rest : List Token)

@[simp] theorem nestingFrom_operand (text : List Char) :
    nestingFrom (waiting :: outer) (.operand text :: rest) = nestingFrom (waiting :: outer) rest :=
  Nat.max_eq_right (nestingLevels_le_nestingFrom _ _)

@[simp] theorem nestingFrom_compare (operator : Comparison) :
    nestingFrom (waiting :: outer) (.compare operator :: rest) =
      nestingFrom (waiting :: outer) rest :=
  Nat.max_eq_right (nestingLevels_le_nestingFrom _ _)

@[simp] theorem nestingFrom_within :
    nestingFrom (waiting :: outer) (.within :: rest) = nestingFrom (waiting :: outer) rest :=
  Nat.max_eq_right (nestingLevels_le_nestingFrom _ _)

theorem nestingLevels_not :
    nestingLevels ((waiting + 1) :: outer) = nestingLevels (waiting :: outer) + 1 := by
  simp only [nestingLevels, List.foldr_cons, List.length_cons]
  omega

theorem nestingLevels_group :
    nestingLevels (0 :: waiting :: outer) = nestingLevels (waiting :: outer) + 1 := by
  simp only [nestingLevels, List.foldr_cons, List.length_cons]
  omega

end Nesting

/-- Whether a phrase needs no more levels than its tokens nest, wherever it stands. The bound counts
from the levels that are open where the phrase starts. Behind the phrase some negations may still
wait for the end of the phrase around it. -/
def NeedsNesting (phrase : Phrase) (tokens : List Token) (terms : List Tree) : Prop :=
  ∀ waiting outer rest bound, (phrase = .unary ∨ waiting = 0) →
    nestingFrom (waiting :: outer) (tokens ++ rest) ≤ nestingLevels (waiting :: outer) + bound →
    Derives phrase bound tokens terms ∧ ∃ left, nestingFrom (left :: outer) rest ≤
      nestingFrom (waiting :: outer) (tokens ++ rest)

namespace NeedsNesting

variable {inner phrase : Phrase} {tokens more : List Token} {terms others all : List Tree}

/-- Operands and operators do not nest. -/
theorem flat (derives : ∀ bound, Derives phrase bound tokens terms)
    (passed : ∀ waiting outer rest, nestingFrom (waiting :: outer) (tokens ++ rest) =
      nestingFrom (waiting :: outer) rest) : NeedsNesting phrase tokens terms := by
  intro waiting outer rest bound _ _
  exact ⟨derives bound, waiting, Nat.le_of_eq (passed waiting outer rest).symm⟩

theorem not {term : Tree} (needs : NeedsNesting .unary tokens [term]) :
    NeedsNesting .unary (.not :: tokens) [.not term] := by
  intro waiting outer rest bound _ fits
  rw [List.cons_append] at fits ⊢
  have passed := nestingFrom_step_le (waiting :: outer) .not (tokens ++ rest)
  have deeper := nestingLevels_le_nestingFrom ((waiting + 1) :: outer) (tokens ++ rest)
  have entered := nestingLevels_not waiting outer
  change nestingFrom ((waiting + 1) :: outer) (tokens ++ rest) ≤ _ at passed
  obtain ⟨bound, rfl⟩ : ∃ less, bound = less + 1 := Nat.exists_eq_add_of_le' (by omega)
  obtain ⟨derives, left, after⟩ := needs (waiting + 1) outer rest bound (Or.inl rfl) (by omega)
  exact ⟨derives.not, left, Nat.le_trans after passed⟩

theorem group {first : Tree} (needs : NeedsNesting .disjunction tokens (first :: others)) :
    NeedsNesting .unary (.openGroup :: (tokens ++ [.closeGroup])) [collapse .or first others] := by
  intro waiting outer rest bound _ fits
  rw [List.cons_append, List.append_assoc, List.singleton_append] at fits ⊢
  have passed := nestingFrom_step_le (waiting :: outer) .openGroup (tokens ++ .closeGroup :: rest)
  have deeper := nestingLevels_le_nestingFrom (0 :: waiting :: outer)
    (tokens ++ .closeGroup :: rest)
  have entered := nestingLevels_group waiting outer
  change nestingFrom (0 :: waiting :: outer) (tokens ++ .closeGroup :: rest) ≤ _ at passed
  obtain ⟨bound, rfl⟩ : ∃ less, bound = less + 1 := Nat.exists_eq_add_of_le' (by omega)
  obtain ⟨derives, left, after⟩ :=
    needs 0 (waiting :: outer) (.closeGroup :: rest) bound (Or.inr rfl) (by omega)
  -- The closing parenthesis forgets the negations that waited inside the group.
  have closed := nestingFrom_step_le (left :: waiting :: outer) .closeGroup rest
  exact ⟨derives.group, waiting, Nat.le_trans closed (Nat.le_trans after passed)⟩

/-- A phrase that is the only term of a connective. -/
theorem only (connects : phrase ≠ .unary)
    (alone : ∀ bound, Derives inner bound tokens terms → Derives phrase bound tokens all)
    (needs : NeedsNesting inner tokens terms) : NeedsNesting phrase tokens all := by
  intro waiting outer rest bound start fits
  have settled : waiting = 0 := start.resolve_left connects
  obtain ⟨derives, left, after⟩ := needs waiting outer rest bound (Or.inr settled) fits
  exact ⟨alone bound derives, left, after⟩

/-- The first term of a connective and the further ones: in front of these no negation waits. -/
theorem joined {connective : Token} (connects : phrase ≠ .unary)
    (settles : ∀ left outer, nestingStep (left :: outer) connective = 0 :: outer)
    (join : ∀ bound, Derives inner bound tokens terms → Derives phrase bound more others →
      Derives phrase bound (tokens ++ connective :: more) all)
    (needs : NeedsNesting inner tokens terms) (needsMore : NeedsNesting phrase more others) :
    NeedsNesting phrase (tokens ++ connective :: more) all := by
  intro waiting outer rest bound start fits
  have settled : waiting = 0 := start.resolve_left connects
  rw [List.append_assoc, List.cons_append] at fits ⊢
  obtain ⟨first, left, between⟩ := needs waiting outer _ bound (Or.inr settled) fits
  have step := nestingFrom_step_le (left :: outer) connective (more ++ rest)
  rw [settles] at step
  have passed := Nat.le_trans step between
  subst settled
  obtain ⟨derives, last, after⟩ :=
    needsMore 0 outer rest bound (Or.inr rfl) (Nat.le_trans passed fits)
  exact ⟨join bound first derives, last, Nat.le_trans after passed⟩

end NeedsNesting

theorem Derives.needsNesting {phrase : Phrase} {levels : Nat} {tokens : List Token}
    {terms : List Tree} (derives : Derives phrase levels tokens terms) :
    NeedsNesting phrase tokens terms := by
  induction derives with
  | single levels text => exact .flat (fun bound => .single bound text) (by simp)
  | compare levels left operator right =>
    exact .flat (fun bound => .compare bound left operator right) (by simp)
  | within levels needle haystack =>
    exact .flat (fun bound => .within bound needle haystack) (by simp)
  | not _ ih => exact ih.not
  | group _ ih => exact ih.group
  | conjunct _ ih => exact ih.only nofun fun _ only => only.conjunct
  | and _ _ ihFirst ihRest =>
    exact ihFirst.joined nofun (fun _ _ => rfl) (fun _ first rest => first.and rest) ihRest
  | disjunct _ ih => exact ih.only nofun fun _ only => only.disjunct
  | or _ _ ihFront ihRest =>
    exact ihFront.joined nofun (fun _ _ => rfl) (fun _ front rest => front.or rest) ihRest

/-- A tree that is written with any number of levels is written with as many as its tokens nest. -/
theorem Writes.of_nesting {levels bound : Nat} {tokens : List Token} {tree : Tree}
    (writes : Writes levels tokens tree) (fits : nesting tokens ≤ bound) :
    Writes bound tokens tree := by
  obtain ⟨first, others, derives, same⟩ := writes
  rw [nesting, ← List.append_nil tokens] at fits
  have enough : nestingFrom [0] (tokens ++ []) ≤ nestingLevels [0] + bound :=
    Nat.le_trans fits (Nat.le_add_left _ _)
  exact ⟨first, others, (derives.needsNesting 0 [] [] bound (Or.inr rfl) enough).1, same⟩

end Condition

end Intake
