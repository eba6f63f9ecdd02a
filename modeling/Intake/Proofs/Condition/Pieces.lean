import Intake.Proofs.Condition.Groups
import Intake.Proofs.Text.Cuts
import Mathlib.Data.List.Forall2

/-!
# What becomes of a condition text

The characters of a text are marked by whether they stand in a group. A group starts at a quotation
mark, a square or curly bracket, or a parenthesis behind a name, and a text has one marking. The
tokens of a text cut it into pieces: the tokens of the skeleton as they are written, on characters
without a mark, and the runs of characters between them, of which the operands are trimmed.
-/

namespace Intake

namespace Condition

open Nesting Text

/-- Whether a character behind another one starts a group of an operand. -/
def opensGroup (previous : Option Char) (character : Char) : Bool :=
  isQuote character || character == '[' || character == '{' ||
    (character == '(' && endsWithName previous.toList)

/-- The characters of a text, each with whether it stands in a group. -/
inductive Marked : Option Char → List (Char × Bool) → Prop
  | nil {previous : Option Char} : Marked previous []
  | outside {previous : Option Char} {character : Char} {rest : List (Char × Bool)}
      (plain : opensGroup previous character = false) (marked : Marked (some character) rest) :
      Marked previous ((character, false) :: rest)
  | inside {previous : Option Char} {first : Char} {others : List Char} {rest : List (Char × Bool)}
      (opens : opensGroup previous first = true) (group : IsGroup (first :: others))
      (marked : Marked (first :: others).getLast? rest) :
      Marked previous ((first :: others).map (·, true) ++ rest)

theorem map_fst_map (mark : Bool) (text : List Char) :
    (text.map (·, mark)).map Prod.fst = text := by
  rw [List.map_map]
  exact List.map_id text

/-- A text is marked in one way. -/
theorem Marked.unique {previous : Option Char} {marks others : List (Char × Bool)}
    (marked : Marked previous marks) (otherMarked : Marked previous others)
    (same : marks.map Prod.fst = others.map Prod.fst) : marks = others := by
  induction marked generalizing others with
  | nil =>
    rw [List.map_nil, eq_comm, List.map_eq_nil_iff] at same
    exact same.symm
  | @outside previous character rest plain marked ih =>
    cases otherMarked with
    | nil => cases same
    | outside otherPlain otherMarked =>
      obtain ⟨rfl, sameRest⟩ := List.cons.inj same
      rw [ih otherMarked sameRest]
    | inside opens group otherMarked =>
      obtain ⟨rfl, -⟩ := List.cons.inj same
      rw [plain] at opens
      cases opens
  | @inside previous first tail rest opens group marked ih =>
    cases otherMarked with
    | nil => cases same
    | outside plain otherMarked =>
      obtain ⟨rfl, -⟩ := List.cons.inj same
      rw [plain] at opens
      cases opens
    | inside otherOpens otherGroup otherMarked =>
      rw [List.map_append, List.map_append, map_fst_map, map_fst_map] at same
      obtain ⟨sameGroup, sameRest⟩ := group.unique otherGroup same
      obtain ⟨rfl, rfl⟩ := List.cons.inj sameGroup
      rw [ih otherMarked sameRest]

/-- The ways to write a token, the first one being its own text. -/
def Token.spellings : Token → List (List Char)
  | .or => ["||".toList]
  | .and => ["&&".toList]
  | .not => ["!".toList]
  | .openGroup => ["(".toList]
  | .closeGroup => [")".toList]
  | .within => ["in".toList, "In".toList, "iN".toList, "IN".toList]
  | .compare .equal => ["==".toList, "===".toList]
  | .compare .notEqual => ["!=".toList, "!==".toList]
  | .compare operator => [operator.text.toList]
  | .operand text => [text]

/-- A piece of a marked text. -/
inductive Piece where
  /-- A token of the skeleton, on characters outside of all groups. -/
  | skeleton (token : Token) (spelling : List Char)
  /-- The characters between two tokens of the skeleton. -/
  | run (marks : List (Char × Bool))

namespace Piece

def marks : Piece → List (Char × Bool)
  | skeleton _ spelling => spelling.map (·, false)
  | run marks => marks

def tokens : Piece → List Token
  | skeleton token _ => [token]
  | run marks =>
    let operand := trim (marks.map Prod.fst)
    if operand = [] then [] else [.operand operand]

/-- Whether a token of the skeleton is written as one can write it. -/
def IsSpelled : Piece → Prop
  | skeleton token spelling => spelling ∈ token.spellings ∧ ∀ text, token ≠ .operand text
  | run _ => True

end Piece

/-- How a marked text is cut into pieces with these tokens. -/
structure CutInto (marks : List (Char × Bool)) (tokens : List Token) (pieces : List Piece) :
    Prop where
  marks : marks = pieces.flatMap Piece.marks
  tokens : tokens = pieces.flatMap Piece.tokens
  spelled : ∀ piece ∈ pieces, piece.IsSpelled

theorem opensGroup_eq {previous : Option Char} {chunk : List Char} {character : Char}
    (name : character = '(' → endsWithName previous.toList = endsWithName chunk) :
    opensGroup previous character = opensOperandGroup chunk character := by
  rw [opensGroup, opensOperandGroup]
  by_cases parenthesis : character = '('
  · rw [name parenthesis]
  · simp only [beq_eq_false_iff_ne.2 parenthesis, Bool.false_and]

theorem opensGroup_of_not_mem {character : Char} (unmarked : character ∉ marks)
    (previous : Option Char) : opensGroup previous character = false :=
  (opensGroup_eq fun _ => rfl).trans (opensOperandGroup_of_not_mem unmarked)

/-- Whether a character is one of the tokens that are not words, without the opening parenthesis. -/
def isOperatorMark (character : Char) : Bool :=
  character == ')' || character == '|' || character == '&' || character == '!' ||
    character == '=' || character == '<' || character == '>'

theorem cases_of_isOperatorMark {character : Char} (mark : isOperatorMark character = true)
    (previous : Option Char) :
    opensGroup previous character = false ∧ endsWithName [character] = false := by
  simp only [isOperatorMark, Bool.or_eq_true, beq_iff_eq] at mark
  rcases mark with (((((rfl | rfl) | rfl) | rfl) | rfl) | rfl) | rfl <;> exact ⟨rfl, by decide⟩

/-- Where a token of the skeleton is written: on characters outside of all groups, behind the white
space that belongs to a word `in`. -/
structure StandsAt (previous : Option Char) (token : Token) (blanks spelling behind : List Char) :
    Prop where
  blank : isBlankText blanks = true
  spelled : (Piece.skeleton token spelling).IsSpelled
  /-- A parenthesis behind the token is not that of a call. -/
  noCall : behind.head? = some '(' → endsWithName spelling.getLast?.toList = false
  marked : ∀ rest, Marked spelling.getLast? rest →
    Marked previous ((blanks ++ spelling).map (·, false) ++ rest)

theorem marked_operator {spelling : List Char} (plain : spelling.all isOperatorMark = true)
    (previous : Option Char) {rest : List (Char × Bool)}
    (marked : Marked (spelling.getLast?.or previous) rest) :
    Marked previous (spelling.map (·, false) ++ rest) := by
  induction spelling generalizing previous with
  | nil => exact marked
  | cons mark others ih =>
    rw [List.all_cons, Bool.and_eq_true] at plain
    refine .outside (cases_of_isOperatorMark plain.1 previous).1 (ih plain.2 _ ?_)
    cases others with
    | nil => exact marked
    | cons second others => exact marked

theorem standsAt_operator {previous : Option Char} {token : Token} {spelling : List Char}
    (spelled : (Piece.skeleton token spelling).IsSpelled) (nonempty : spelling ≠ [])
    (plain : spelling.all isOperatorMark = true) (behind : List Char) :
    StandsAt previous token [] spelling behind := by
  obtain ⟨front, last, rfl⟩ := (List.eq_nil_or_concat' spelling).resolve_left nonempty
  refine ⟨rfl, spelled, ?_, ?_⟩
  · intro _
    rw [List.getLast?_concat]
    exact (cases_of_isOperatorMark (List.all_eq_true.1 plain last (by simp)) none).2
  · intro rest marked
    rw [List.getLast?_concat] at marked
    refine marked_operator plain previous ?_
    rwa [List.getLast?_concat]

/-- The white space in front of a word `in` belongs to it, and so does none of what is behind it. -/
theorem exists_standsAt_in {text : List Char} (word : startsWithIn text = true)
    {previous : Option Char} :
    ∃ blanks spelling behind, text = blanks ++ (spelling ++ behind) ∧
      3 = blanks.length + spelling.length ∧ StandsAt previous .within blanks spelling behind := by
  obtain ⟨space, first, second, next, others, rfl, isSpace, isFirst, isSecond⟩ :=
    exists_of_startsWithIn word
  have nextBlank : Character.isBlank next = true := by
    simp only [startsWithIn, Bool.and_eq_true] at word
    exact word.2
  refine ⟨[space], [first, second], next :: others, rfl, rfl, ?_⟩
  have letters : [first, second] ∈ Token.within.spellings ∧ first ∉ Condition.marks ∧
      second ∉ Condition.marks := by
    rcases isFirst with rfl | rfl <;> rcases isSecond with rfl | rfl <;> decide
  obtain ⟨spelled, firstPlain, secondPlain⟩ := letters
  refine ⟨by simpa [isBlankText] using isSpace, ⟨spelled, by simp⟩, ?_, ?_⟩
  · intro parenthesis
    obtain rfl := Option.some.inj parenthesis
    exact absurd nextBlank (by decide)
  · intro rest marked
    exact .outside (opensGroup_of_not_mem (not_mem_marks_of_isBlank isSpace) previous)
      (.outside (opensGroup_of_not_mem firstPlain _)
        (.outside (opensGroup_of_not_mem secondPlain _) marked))

/-- The tokens that are made of operator marks, as they are written. -/
def operators : List (Token × List Char) :=
  [(.closeGroup, [')']), (.or, ['|', '|']), (.and, ['&', '&']), (.not, ['!']),
    (.compare .notEqual, ['!', '=', '=']), (.compare .notEqual, ['!', '=']),
    (.compare .equal, ['=', '=', '=']), (.compare .equal, ['=', '=']),
    (.compare .greaterOrEqual, ['>', '=']), (.compare .lessOrEqual, ['<', '=']),
    (.compare .greater, ['>']), (.compare .less, ['<'])]

theorem standsAt_of_mem_operators {previous : Option Char} {token : Token} {spelling : List Char}
    (listed : (token, spelling) ∈ operators) (behind : List Char) :
    StandsAt previous token [] spelling behind := by
  have all : ∀ pair ∈ operators, pair.2 ∈ pair.1.spellings ∧ pair.2 ≠ [] ∧
      pair.2.all isOperatorMark = true := by decide
  obtain ⟨spelled, nonempty, plain⟩ := all _ listed
  have skeleton : ∀ text, token ≠ .operand text := by
    rintro text rfl
    simp [operators] at listed
  exact standsAt_operator ⟨spelled, skeleton⟩ nonempty plain behind

/-- A parenthesis that does not stand behind a name opens a group of the condition. -/
theorem standsAt_openGroup {previous : Option Char} (group : endsWithName previous.toList = false)
    (behind : List Char) : StandsAt previous .openGroup [] ['('] behind := by
  refine ⟨rfl, ⟨by decide, by simp⟩, fun _ => by decide, ?_⟩
  intro rest marked
  refine .outside ?_ marked
  simp [opensGroup, isQuote, group]

/-- A token is a parenthesis that does not stand behind a name, a word `in`, or made of operator
marks. -/
theorem tokenAt?_cases {chunk text : List Char} {token : Token} {width : Nat}
    (found : tokenAt? chunk text = some (token, width)) :
    (∃ behind, text = '(' :: behind ∧ endsWithName chunk = false ∧ token = .openGroup ∧ width = 1) ∨
      (startsWithIn text = true ∧ token = .within ∧ width = 3) ∨
      (token, text.take width) ∈ operators := by
  unfold tokenAt? at found
  split at found
  case h_1 behind =>
    split at found
    · cases found
    · next group =>
      cases found
      exact Or.inl ⟨behind, rfl, Bool.eq_false_iff.2 group, rfl, rfl⟩
  case h_7 =>
    split at found
    · cases found
      exact Or.inr (Or.inr (by simp [operators]))
    · cases found
  case h_14 =>
    split at found
    · next word =>
      rw [Bool.and_eq_true] at word
      cases found
      exact Or.inr (Or.inl ⟨word.1, rfl, rfl⟩)
    · cases found
  all_goals
    cases found
    exact Or.inr (Or.inr (by simp [operators]))

/-- A token that is recognised stands in the text. -/
theorem exists_standsAt {chunk text : List Char} {token : Token} {width : Nat}
    (found : tokenAt? chunk text = some (token, width)) {previous : Option Char}
    (name : text.head? = some '(' → endsWithName previous.toList = endsWithName chunk) :
    ∃ blanks spelling behind, text = blanks ++ (spelling ++ behind) ∧
      width = blanks.length + spelling.length ∧ StandsAt previous token blanks spelling behind := by
  rcases tokenAt?_cases found with ⟨behind, rfl, group, rfl, rfl⟩ | ⟨word, rfl, rfl⟩ | listed
  · exact ⟨[], ['('], behind, rfl, rfl, standsAt_openGroup ((name rfl).trans group) behind⟩
  · exact exists_standsAt_in word
  · refine ⟨[], text.take width, text.drop width, (List.take_append_drop width text).symm, ?_,
      standsAt_of_mem_operators listed _⟩
    rw [List.length_take_of_le (width_le_of_tokenAt? found), List.length_nil, Nat.zero_add]

theorem spelling_ne_nil {token : Token} {spelling : List Char}
    (spelled : (Piece.skeleton token spelling).IsSpelled) : spelling ≠ [] := by
  obtain ⟨listed, skeleton⟩ := spelled
  rintro rfl
  cases token with
  | operand text => exact skeleton text rfl
  | compare operator => cases operator <;> exact absurd listed (by decide)
  | or | and | not | openGroup | closeGroup | within => exact absurd listed (by decide)

/-- The characters of a token are passed over. -/
theorem tokensFrom?_skip (front behind : List Char) :
    tokensFrom? front.length none [] (front ++ behind) = tokensFrom? 0 none [] behind := by
  induction front with
  | nil => rfl
  | cons character others ih => exact ih

/-- A group that is opened in a text with tokens ends in it, and becomes part of the run. -/
theorem exists_endsWith_of_tokensFrom? {nesting : Nesting} {chunk text : List Char}
    {tokens : List Token} (lexed : tokensFrom? 0 (some nesting) chunk text = some tokens) :
    ∃ inside last behind, text = inside ++ last :: behind ∧ EndsWith nesting inside last ∧
      tokensFrom? 0 none ((inside ++ [last]).reverse ++ chunk) behind = some tokens := by
  induction text generalizing nesting chunk with
  | nil => cases lexed
  | cons character rest ih =>
    cases finished : groupOver (nesting.step character) with
    | true =>
      simp only [tokensFrom?, finished, ↓reduceIte] at lexed
      exact ⟨[], character, rest, rfl, ⟨trivial, finished⟩, lexed⟩
    | false =>
      simp only [tokensFrom?, finished, Bool.false_eq_true, ↓reduceIte] at lexed
      obtain ⟨inside, last, behind, rfl, ends, lexedBehind⟩ := ih lexed
      refine ⟨character :: inside, last, behind, rfl, ⟨⟨finished, ends.stays⟩, ends.closes⟩, ?_⟩
      simpa using lexedBehind

theorem pending_eq_tokens {run : List (Char × Bool)} {chunk : List Char}
    (same : run.map Prod.fst = chunk.reverse) : pending chunk = (Piece.run run).tokens := by
  rw [pending, Piece.tokens, same]

/-- Whether a text behind a run can be marked and cut into pieces with these tokens. -/
def IsCut (previous : Option Char) (run : List (Char × Bool)) (text : List Char)
    (tokens : List Token) : Prop :=
  ∃ marks pieces, Marked previous marks ∧ marks.map Prod.fst = text ∧
    CutInto (run ++ marks) tokens pieces

section Cut

variable {previous : Option Char} {run : List (Char × Bool)} {chunk : List Char}
  {tokens : List Token}

theorem isCut_nil (same : run.map Prod.fst = chunk.reverse) :
    IsCut previous run [] (pending chunk) := by
  refine ⟨[], [.run run], .nil, rfl, by simp [Piece.marks], ?_, by simp [Piece.IsSpelled]⟩
  simp [pending_eq_tokens same]

theorem IsCut.outside {character : Char} {rest : List Char}
    (plain : opensGroup previous character = false)
    (cut : IsCut (some character) (run ++ [(character, false)]) rest tokens) :
    IsCut previous run (character :: rest) tokens := by
  obtain ⟨marks, pieces, marked, rfl, cut⟩ := cut
  refine ⟨_, pieces, .outside plain marked, rfl, ?_⟩
  rwa [List.append_assoc] at cut

theorem IsCut.inside {first : Char} {others behind : List Char}
    (opens : opensGroup previous first = true) (group : IsGroup (first :: others))
    (cut : IsCut (first :: others).getLast? (run ++ (first :: others).map (·, true)) behind
      tokens) :
    IsCut previous run (first :: others ++ behind) tokens := by
  obtain ⟨marks, pieces, marked, rfl, cut⟩ := cut
  refine ⟨_, pieces, .inside opens group marked, ?_, ?_⟩
  · rw [List.map_append, map_fst_map]
  · rwa [← List.append_assoc]

/-- A token of the skeleton ends the run in front of it, and another run starts behind it. -/
theorem IsCut.skeleton {token : Token} {blanks spelling behind : List Char}
    (same : run.map Prod.fst = chunk.reverse)
    (stands : StandsAt previous token blanks spelling behind)
    (cut : IsCut spelling.getLast? [] behind tokens) :
    IsCut previous run (blanks ++ (spelling ++ behind)) (pending chunk ++ token :: tokens) := by
  obtain ⟨marks, pieces, marked, rfl, cut⟩ := cut
  refine ⟨_, .run (run ++ blanks.map (·, false)) :: .skeleton token spelling :: pieces,
    stands.marked marks marked, ?_, ?_, ?_, ?_⟩
  · rw [List.map_append, map_fst_map, List.append_assoc]
  · rw [List.flatMap_cons, List.flatMap_cons, ← cut.marks]
    simp [Piece.marks]
  · have longer :
        (run ++ blanks.map (·, false)).map Prod.fst = (blanks.reverse ++ chunk).reverse := by
      rw [List.map_append, map_fst_map, same, List.reverse_append, List.reverse_reverse]
    have reversed : isBlankText blanks.reverse = true := by
      rw [isBlankText_reverse]
      exact stands.blank
    rw [List.flatMap_cons, List.flatMap_cons, ← cut.tokens, ← pending_eq_tokens longer,
      pending_blank_append chunk reversed]
    rfl
  · rw [List.forall_mem_cons, List.forall_mem_cons]
    exact ⟨trivial, stands.spelled, cut.spelled⟩

end Cut

theorem mark_of_opensGroup {previous : Option Char} {character : Char}
    (opens : opensGroup previous character = true) :
    isQuote character = true ∨ isOpening character = true := by
  simp only [opensGroup, Bool.or_eq_true, beq_iff_eq, Bool.and_eq_true] at opens
  rcases opens with ((quote | rfl) | rfl) | ⟨rfl, -⟩
  · exact Or.inl quote
  all_goals exact Or.inr rfl

/-- From a mark that opens a group the reader takes the group, and it goes on behind it. -/
theorem exists_group_of_tokensFrom? {chunk rest : List Char} {first : Char} {tokens : List Token}
    (opens : opensOperandGroup chunk first = true)
    (mark : isQuote first = true ∨ isOpening first = true)
    (lexed : tokensFrom? 0 none chunk (first :: rest) = some tokens) :
    ∃ others behind, rest = others ++ behind ∧ IsGroup (first :: others) ∧
      endsWithName (first :: others).getLast?.toList =
        endsWithName ((first :: others).reverse ++ chunk) ∧
        tokensFrom? 0 none ((first :: others).reverse ++ chunk) behind = some tokens := by
  rw [tokensFrom?_of_opens opens] at lexed
  obtain ⟨inside, last, behind, rfl, ends, lexedBehind⟩ := exists_endsWith_of_tokensFrom? lexed
  refine ⟨inside ++ [last], behind, by simp, isGroup_of_endsWith mark ends, ?_, ?_⟩
  · rw [← List.cons_append, List.getLast?_concat, List.reverse_concat]
    rfl
  · rw [List.reverse_cons, List.append_assoc]
    exact lexedBehind

/-- The token that the reader takes at a place stands there, and it goes on behind the token. -/
theorem exists_standsAt_of_tokensFrom? {chunk rest : List Char} {character : Char} {token : Token}
    {width : Nat} (found : tokenAt? chunk (character :: rest) = some (token, width))
    {previous : Option Char}
    (name : (character :: rest).head? = some '(' →
      endsWithName previous.toList = endsWithName chunk)
    {tokens : List Token} (lexed : tokensFrom? (width - 1) none [] rest = some tokens) :
    ∃ blanks spelling behind, character :: rest = blanks ++ (spelling ++ behind) ∧
      behind.length < (character :: rest).length ∧ StandsAt previous token blanks spelling behind ∧
        tokensFrom? 0 none [] behind = some tokens := by
  obtain ⟨blanks, spelling, behind, split, rfl, stands⟩ := exists_standsAt found name
  obtain ⟨first, others, taken⟩ : ∃ first others, blanks ++ spelling = first :: others :=
    List.exists_cons_of_ne_nil
      (List.append_ne_nil_of_right_ne_nil _ (spelling_ne_nil stands.spelled))
  have width : blanks.length + spelling.length - 1 = others.length := by
    rw [← List.length_append, taken, List.length_cons, Nat.add_sub_cancel]
  have whole : character :: rest = first :: others ++ behind := by
    rw [split, ← List.append_assoc, taken]
  refine ⟨blanks, spelling, behind, split, ?_, stands, ?_⟩
  · rw [whole]
    simp only [List.length_append, List.length_cons]
    omega
  · obtain ⟨rfl, rfl⟩ := List.cons.inj whole
    rwa [width, List.append_eq, tokensFrom?_skip] at lexed

/-- A text with tokens is marked, and cut into pieces with the run in front of it. -/
theorem isCut_of_tokensFrom? {text chunk : List Char} {previous : Option Char} {tokens : List Token}
    {run : List (Char × Bool)} (same : run.map Prod.fst = chunk.reverse)
    (name : text.head? = some '(' → endsWithName previous.toList = endsWithName chunk)
    (lexed : tokensFrom? 0 none chunk text = some tokens) : IsCut previous run text tokens := by
  -- Groups and tokens are taken in one step, so the induction is on the length.
  induction size : text.length using Nat.strong_induction_on
    generalizing text chunk previous tokens run with
  | _ length ih =>
  subst size
  cases text with
  | nil =>
    obtain rfl : pending chunk = tokens := by simpa [tokensFrom?] using lexed
    exact isCut_nil same
  | cons character rest =>
    have opensSame := opensGroup_eq fun parenthesis : character = '(' =>
      name (congrArg some parenthesis)
    cases opens : opensOperandGroup chunk character with
    | true =>
      have mark := mark_of_opensGroup (opensSame.trans opens)
      obtain ⟨others, behind, rfl, group, nameBehind, lexedBehind⟩ :=
        exists_group_of_tokensFrom? opens mark lexed
      have longer : (run ++ (character :: others).map (·, true)).map Prod.fst =
          ((character :: others).reverse ++ chunk).reverse := by
        rw [List.map_append, map_fst_map, same, List.reverse_append, List.reverse_reverse]
      have shorter : behind.length < (character :: (others ++ behind)).length := by
        simp only [List.length_cons, List.length_append]
        omega
      have cut := ih behind.length shorter longer (fun _ => nameBehind) lexedBehind rfl
      exact .inside (opensSame.trans opens) group cut
    | false =>
      cases found : tokenAt? chunk (character :: rest) with
      | none =>
        rw [tokensFrom?_of_none opens found] at lexed
        have longer :
            (run ++ [(character, false)]).map Prod.fst = (character :: chunk).reverse := by
          rw [List.map_append, same, List.reverse_cons]
          rfl
        have nameBehind :
            endsWithName (some character).toList = endsWithName (character :: chunk) := rfl
        refine .outside (opensSame.trans opens) ?_
        exact ih rest.length (Nat.lt_succ_self _) longer (fun _ => nameBehind) lexed rfl
      | some token =>
        obtain ⟨token, width⟩ := token
        rw [tokensFrom?_of_token opens found, Option.map_eq_some_iff] at lexed
        obtain ⟨inner, lexedBehind, rfl⟩ := lexed
        obtain ⟨blanks, spelling, behind, split, shorter, stands, lexedBehind⟩ :=
          exists_standsAt_of_tokensFrom? found name lexedBehind
        have start : ([] : List (Char × Bool)).map Prod.fst = ([] : List Char).reverse := rfl
        have cut := ih behind.length shorter start stands.noCall lexedBehind rfl
        rw [split]
        exact .skeleton same stands cut

/-- The characters of a text without its white space. -/
def visible (text : List Char) : List Char :=
  text.filter fun character => !Character.isBlank character

theorem visible_append (first second : List Char) :
    visible (first ++ second) = visible first ++ visible second :=
  List.filter_append first second

theorem visible_of_blank {blanks : List Char} (blank : isBlankText blanks = true) :
    visible blanks = [] := by
  rw [visible, List.filter_eq_nil_iff]
  intro character member
  simp [List.all_eq_true.1 blank character member]

theorem visible_trim (text : List Char) : visible (trim text) = visible text := by
  obtain ⟨before, after, beforeBlank, afterBlank, same⟩ := exists_margins text
  conv_rhs => rw [same]
  rw [visible_append, visible_append, visible_of_blank beforeBlank, visible_of_blank afterBlank,
    List.nil_append, List.append_nil]

/-- What the tokens of a text are to the text. -/
structure TokensOf (text : List Char) (tokens : List Token) : Prop where
  /-- Without white space the text is that of its tokens, one after the other. -/
  whole : ∃ written : List (List Char),
    List.Forall₂ (fun token spelling => spelling ∈ token.spellings) tokens written ∧
      visible written.flatten = visible text
  operands : ∀ operand, .operand operand ∈ tokens →
    operand ≠ [] ∧ trim operand = operand ∧ operand <:+: text
  /-- All tokens but operands stand on characters outside of the groups of the text. -/
  outside : ∃ marks, Marked none marks ∧ marks.map Prod.fst = text ∧
    (∀ others, Marked none others → others.map Prod.fst = text → others = marks) ∧
      ∃ pieces, CutInto marks tokens pieces

section Pieces

variable {marks : List (Char × Bool)} {tokens : List Token} {pieces : List Piece}

theorem exists_written (spelled : ∀ piece ∈ pieces, piece.IsSpelled) :
    ∃ written : List (List Char), List.Forall₂ (fun token spelling => spelling ∈ token.spellings)
        (pieces.flatMap Piece.tokens) written ∧
      visible written.flatten = visible ((pieces.flatMap Piece.marks).map Prod.fst) := by
  induction pieces with
  | nil => exact ⟨[], .nil, rfl⟩
  | cons piece others ih =>
    rw [List.forall_mem_cons] at spelled
    obtain ⟨written, each, same⟩ := ih spelled.2
    rw [List.flatMap_cons, List.flatMap_cons, List.map_append, visible_append]
    cases piece with
    | skeleton token spelling =>
      refine ⟨spelling :: written, .cons spelled.1.1 each, ?_⟩
      rw [List.flatten_cons, visible_append, same, Piece.marks, map_fst_map]
    | run marks =>
      rw [Piece.tokens, Piece.marks, ← visible_trim]
      split_ifs with empty
      · exact ⟨written, each, by rw [empty, same]; rfl⟩
      · refine ⟨_ :: written, .cons (List.mem_singleton_self _) each, ?_⟩
        rw [List.flatten_cons, visible_append, same]

theorem CutInto.operand (cut : CutInto marks tokens pieces) {operand : List Char}
    (member : .operand operand ∈ tokens) :
    operand ≠ [] ∧ trim operand = operand ∧ operand <:+: marks.map Prod.fst := by
  rw [cut.tokens, List.mem_flatMap] at member
  obtain ⟨piece, listed, member⟩ := member
  cases piece with
  | skeleton token spelling =>
    exact absurd (List.mem_singleton.1 member).symm ((cut.spelled _ listed).2 operand)
  | run run =>
    simp only [Piece.tokens] at member
    split_ifs at member with empty
    · cases member
    · obtain rfl := Token.operand.inj (List.mem_singleton.1 member)
      obtain ⟨earlier, later, rfl⟩ := List.append_of_mem listed
      have trimmed := trim_infix (run.map Prod.fst)
      refine ⟨empty, trim_trim _, trimmed.trans ?_⟩
      rw [cut.marks, List.flatMap_append, List.flatMap_cons]
      simp only [List.map_append, Piece.marks]
      exact ⟨_, _, (List.append_assoc _ _ _)⟩

end Pieces

/-- The tokens of a text make up the text, and none but operands reaches into a group. -/
theorem tokensOf_of_tokens? {text : List Char} {tokens : List Token}
    (lexed : tokens? text = some tokens) : TokensOf text tokens := by
  have start : endsWithName (none : Option Char).toList = endsWithName [] := rfl
  obtain ⟨marks, pieces, marked, rfl, cut⟩ : IsCut none [] text tokens :=
    isCut_of_tokensFrom? rfl (fun _ => start) lexed
  rw [List.nil_append] at cut
  refine ⟨?_, fun operand => cut.operand, marks, marked, rfl, ?_, pieces, cut⟩
  · rw [cut.tokens, cut.marks]
    exact exists_written cut.spelled
  · exact fun others otherMarked same => otherMarked.unique marked same

/-- Operators in quotes, in a list and in a call, and a word `in` with a capital letter. -/
theorem tokensOf_of_tokens?_quoted :
    let text := "role('a || b')  In [x, '!'] && n!==1".toList
    let tokens : List Token := [.operand "role('a || b')".toList, .within,
      .operand "[x, '!']".toList, .and, .operand "n".toList, .compare .notEqual,
      .operand "1".toList]
    tokens? text = some tokens ∧ TokensOf text tokens := by
  intro text tokens
  have lexed : tokens? text = some tokens := by decide +kernel
  exact ⟨lexed, tokensOf_of_tokens? lexed⟩

end Condition

end Intake
