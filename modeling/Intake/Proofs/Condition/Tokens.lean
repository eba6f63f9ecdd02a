import Intake.Condition.Token
import Intake.Proofs.Text.Classes
import Intake.Proofs.Text.Runs
import Mathlib.Data.List.Basic

/-!
# Tokens of parts of a text

A token is recognised by at most four characters. So the tokens of a text that is put in
parentheses do not depend on what stands around it: nothing that is looked at behind the text
continues one of its tokens. Neither does white space around a text change its tokens, unless it
makes the last word of the text an `in` that looks for a list.
-/

namespace Intake

namespace Condition

open Text

/-- The token at a place by the character there and the ones behind it. -/
theorem tokenAt?_cons (chunk : List Char) (character : Char) (rest : List Char) :
    tokenAt? chunk (character :: rest) =
      if character = '(' then if endsWithName chunk then none else some (.openGroup, 1)
      else if character = ')' then some (.closeGroup, 1)
      else if character = '|' ∧ rest.head? = some '|' then some (.or, 2)
      else if character = '&' ∧ rest.head? = some '&' then some (.and, 2)
      else if character = '!' ∧ rest.head? = some '=' then
        some (.compare .notEqual, if rest.tail.head? = some '=' then 3 else 2)
      else if character = '!' then if isBlankText chunk then some (.not, 1) else none
      else if character = '=' ∧ rest.head? = some '=' then
        some (.compare .equal, if rest.tail.head? = some '=' then 3 else 2)
      else if character = '>' then
        some (if rest.head? = some '=' then (.compare .greaterOrEqual, 2)
          else (.compare .greater, 1))
      else if character = '<' then
        some (if rest.head? = some '=' then (.compare .lessOrEqual, 2) else (.compare .less, 1))
      else if startsWithIn (character :: rest) && !isBlankText chunk then some (.within, 3)
      else none := by
  have apart : ∀ first second : Char,
      (∀ tail, character :: rest = first :: second :: tail → False) →
        ¬ (character = first ∧ rest.head? = some second) := by
    rintro first second other ⟨same, next⟩
    obtain ⟨tail, next⟩ := List.head?_eq_some_iff.1 next
    exact other tail (by rw [same, next])
  unfold tokenAt?
  split
  case h_14 noOpen noClose noOr noAnd _ _ noNot _ noEqual _ _ noGreater noLess =>
    rw [if_neg (apart _ _ noOr), if_neg (apart _ _ noAnd), if_neg (apart _ _ noEqual)]
    simp_all
  all_goals simp_all [List.head?_eq_some_iff]

theorem exists_of_startsWithIn {text : List Char} (word : startsWithIn text = true) :
    ∃ space first second next others, text = space :: first :: second :: next :: others ∧
      Character.isBlank space = true ∧ (first = 'i' ∨ first = 'I') ∧
        (second = 'n' ∨ second = 'N') := by
  unfold startsWithIn at word
  split at word
  · next space first second next others =>
    simp only [Bool.and_eq_true, Bool.or_eq_true, beq_iff_eq] at word
    exact ⟨space, first, second, next, others, rfl, word.1.1.1, word.1.1.2, word.1.2⟩
  · simp at word

theorem length_of_startsWithIn {text : List Char} (word : startsWithIn text = true) :
    4 ≤ text.length := by
  obtain ⟨space, first, second, next, others, rfl, -⟩ := exists_of_startsWithIn word
  simp

theorem width_le_of_tokenAt? {chunk text : List Char} {token : Token} {width : Nat}
    (found : tokenAt? chunk text = some (token, width)) : width ≤ text.length := by
  unfold tokenAt? at found
  split at found
  case h_14 =>
    split at found
    · next word =>
      have long := length_of_startsWithIn (by simpa using And.left (by simpa using word))
      cases found
      omega
    · cases found
  case h_1 =>
    split at found
    · cases found
    · cases found
      simp
  case h_7 =>
    split at found
    · cases found
      simp
    · cases found
  all_goals
    cases found
    simp

/-- The characters that can be the second or the third one of a token. -/
def continuesToken (character : Char) : Bool :=
  character == '|' || character == '&' || character == '='

/-- What follows a text does not change its first token, unless it continues the token. -/
theorem tokenAt?_append (chunk : List Char) {text rest : List Char} (nonempty : text ≠ [])
    (stops : Stops continuesToken rest)
    (noWord : startsWithIn (text ++ rest) = startsWithIn text) :
    tokenAt? chunk (text ++ rest) = tokenAt? chunk text := by
  have marks : ∀ mark, continuesToken mark = true → rest.head? ≠ some mark := by
    intro mark continues next
    exact absurd continues (by simp [stops mark next])
  have bar := marks '|' rfl
  have ampersand := marks '&' rfl
  have equals := marks '=' rfl
  match text, nonempty with
  | [character], _ =>
    rw [List.singleton_append] at noWord ⊢
    simp [tokenAt?_cons, noWord, bar, ampersand, equals]
  | [character, second], _ =>
    simp only [List.cons_append, List.nil_append] at noWord ⊢
    simp [tokenAt?_cons, noWord, equals]
  | character :: second :: third :: others, _ =>
    simp only [List.cons_append] at noWord ⊢
    simp [tokenAt?_cons, noWord]

/-- The characters that tokens and the groups of operands are made of. -/
def marks : List Char :=
  ['(', ')', '[', ']', '{', '}', '\'', '"', '|', '&', '!', '=', '<', '>']

theorem not_mem_marks {isMember : Char → Bool} (none : marks.any isMember = false)
    {character : Char} (member : isMember character = true) : character ∉ marks := by
  intro marked
  exact List.any_eq_false.1 none character marked member

theorem not_mem_marks_of_isBlank {character : Char} (blank : Character.isBlank character = true) :
    character ∉ marks :=
  not_mem_marks rfl blank

theorem opensOperandGroup_of_not_mem {chunk : List Char} {character : Char}
    (unmarked : character ∉ marks) : opensOperandGroup chunk character = false := by
  simp only [marks, List.mem_cons, not_or] at unmarked
  simp [opensOperandGroup, Nesting.isQuote, unmarked]

theorem tokenAt?_of_not_mem (chunk : List Char) {character : Char} (unmarked : character ∉ marks)
    (rest : List Char) :
    tokenAt? chunk (character :: rest) =
      if startsWithIn (character :: rest) && !isBlankText chunk then some (.within, 3)
      else none := by
  simp only [marks, List.mem_cons, not_or] at unmarked
  simp only [tokenAt?_cons, unmarked, false_and, ↓reduceIte]

section Steps

variable {chunk rest : List Char} {character : Char}

theorem tokensFrom?_of_opens (opens : opensOperandGroup chunk character = true) :
    tokensFrom? 0 none chunk (character :: rest) =
      tokensFrom? 0 (some (({} : Nesting).step character)) (character :: chunk) rest := by
  rw [tokensFrom?]
  simp only [opens, ↓reduceIte]

theorem tokensFrom?_of_token (plain : opensOperandGroup chunk character = false) {token : Token}
    {width : Nat} (found : tokenAt? chunk (character :: rest) = some (token, width)) :
    tokensFrom? 0 none chunk (character :: rest) =
      (tokensFrom? (width - 1) none [] rest).map fun tokens =>
        pending chunk ++ token :: tokens := by
  rw [tokensFrom?]
  simp only [plain, found, Bool.false_eq_true, ↓reduceIte]

theorem tokensFrom?_of_none (plain : opensOperandGroup chunk character = false)
    (none : tokenAt? chunk (character :: rest) = none) :
    tokensFrom? 0 .none chunk (character :: rest) =
      tokensFrom? 0 .none (character :: chunk) rest := by
  rw [tokensFrom?]
  simp only [plain, none, Bool.false_eq_true, ↓reduceIte]

theorem tokensFrom?_of_not_mem (unmarked : character ∉ marks)
    (noWord : startsWithIn (character :: rest) = true → isBlankText chunk = true) :
    tokensFrom? 0 none chunk (character :: rest) =
      tokensFrom? 0 none (character :: chunk) rest := by
  refine tokensFrom?_of_none (opensOperandGroup_of_not_mem unmarked) ?_
  rw [tokenAt?_of_not_mem chunk unmarked]
  simpa using noWord

end Steps

theorem startsWithIn_append_close (text rest : List Char) (nonempty : text ≠ []) :
    startsWithIn (text ++ ')' :: rest) = startsWithIn text := by
  have visible : Character.isBlank ')' = false := rfl
  match text, nonempty with
  | [first], _ => rcases rest with _ | ⟨second, _ | ⟨third, rest⟩⟩ <;> simp [startsWithIn]
  | [first, second], _ => cases rest <;> simp [startsWithIn]
  | [first, second, third], _ => simp [startsWithIn, visible]
  | first :: second :: third :: fourth :: others, _ => simp [startsWithIn]

/-- The tokens of a text that a parenthesis closes are its own. -/
theorem tokensFrom?_append_close {text : List Char} {skip : Nat} {group : Option Nesting}
    {chunk : List Char} {tokens : List Token} (within : skip ≤ text.length)
    (lexed : tokensFrom? skip group chunk text = some tokens) (rest : List Char) :
    tokensFrom? skip group chunk (text ++ ')' :: rest) =
      (tokensFrom? 0 none [] rest).map fun more => tokens ++ .closeGroup :: more := by
  induction text generalizing skip group chunk tokens with
  | nil =>
    obtain rfl : skip = 0 := by simpa using within
    cases group with
    | some nesting => simp [tokensFrom?] at lexed
    | none =>
      obtain rfl : pending chunk = tokens := by simpa [tokensFrom?] using lexed
      have close : tokenAt? chunk (')' :: rest) = some (.closeGroup, 1) := rfl
      exact tokensFrom?_of_token rfl close
  | cons character text ih =>
    cases skip with
    | succ skip => exact ih (Nat.le_of_succ_le_succ within) lexed
    | zero =>
      cases group with
      | some nesting => exact ih (Nat.zero_le _) lexed
      | none =>
        rw [List.cons_append]
        cases opens : opensOperandGroup chunk character with
        | true =>
          rw [tokensFrom?_of_opens opens] at lexed ⊢
          exact ih (Nat.zero_le _) lexed
        | false =>
          -- The parenthesis may be looked at, but it continues no token that starts before it.
          have same : tokenAt? chunk (character :: (text ++ ')' :: rest)) =
              tokenAt? chunk (character :: text) :=
            tokenAt?_append chunk (List.cons_ne_nil character text) (stops_cons rfl)
              (startsWithIn_append_close _ rest (List.cons_ne_nil character text))
          cases found : tokenAt? chunk (character :: text) with
          | none =>
            rw [tokensFrom?_of_none opens found] at lexed
            rw [tokensFrom?_of_none opens (same.trans found)]
            exact ih (Nat.zero_le _) lexed
          | some token =>
            obtain ⟨token, width⟩ := token
            have bounded := width_le_of_tokenAt? found
            rw [tokensFrom?_of_token opens found, Option.map_eq_some_iff] at lexed
            obtain ⟨inner, lexed, rfl⟩ := lexed
            rw [tokensFrom?_of_token opens (same.trans found),
              ih (by simp only [List.length_cons] at bounded; omega) lexed, Option.map_map]
            congr 1
            funext more
            simp

@[simp] theorem pending_nil : pending [] = [] :=
  rfl

theorem pending_append_blank (chunk : List Char) {blanks : List Char}
    (blank : isBlankText blanks = true) : pending (chunk ++ blanks) = pending chunk := by
  have reversed : isBlankText blanks.reverse = true := by rwa [isBlankText_reverse]
  rw [pending, List.reverse_append, trim_blank_append reversed, pending]

theorem pending_blank_append (chunk : List Char) {blanks : List Char}
    (blank : isBlankText blanks = true) : pending (blanks ++ chunk) = pending chunk := by
  have reversed : isBlankText blanks.reverse = true := by rwa [isBlankText_reverse]
  rw [pending, List.reverse_append, trim_append_blank reversed, pending]

theorem endsWithName_append_blank (chunk : List Char) {blanks : List Char}
    (blank : isBlankText blanks = true) :
    endsWithName (chunk ++ blanks) = endsWithName chunk := by
  cases chunk with
  | cons last others => rfl
  | nil =>
    cases blanks with
    | nil => rfl
    | cons first others =>
      have space : Character.isBlank first = true := by
        simpa [isBlankText] using List.all_eq_true.1 blank first List.mem_cons_self
      have notMark : first ≠ '_' := by
        rintro rfl
        exact absurd space (by decide)
      simp [endsWithName, Character.not_isAlphanumeric_of_isBlank space, notMark]

/-- White space at the start of a run of characters does not matter. -/
theorem tokensFrom?_append_blank (text : List Char) (skip : Nat) (group : Option Nesting)
    (chunk : List Char) {blanks : List Char} (blank : isBlankText blanks = true) :
    tokensFrom? skip group (chunk ++ blanks) text = tokensFrom? skip group chunk text := by
  induction text generalizing skip group chunk with
  | nil => rw [tokensFrom?, tokensFrom?, pending_append_blank chunk blank]
  | cons character text ih =>
    cases skip with
    | succ skip => exact ih skip group chunk
    | zero =>
      cases group with
      | some nesting => exact ih 0 _ (character :: chunk)
      | none =>
        have opens : opensOperandGroup (chunk ++ blanks) character =
            opensOperandGroup chunk character := by
          simp only [opensOperandGroup, endsWithName_append_blank chunk blank]
        have token : tokenAt? (chunk ++ blanks) (character :: text) =
            tokenAt? chunk (character :: text) := by
          simp only [tokenAt?_cons, endsWithName_append_blank chunk blank, isBlankText_append,
            blank, Bool.and_true]
        simp only [tokensFrom?, opens, token, pending_append_blank chunk blank]
        split
        · exact ih 0 _ (character :: chunk)
        · split
          · rfl
          · exact ih 0 none (character :: chunk)

/-- White space in front of a text has no tokens. -/
theorem tokens?_blank_append (text : List Char) {blanks : List Char}
    (blank : isBlankText blanks = true) : tokens? (blanks ++ text) = tokens? text := by
  have pushed : ∀ chunk, isBlankText chunk = true →
      tokensFrom? 0 none chunk (blanks ++ text) = tokens? text := by
    induction blanks with
    | nil =>
      intro chunk chunkBlank
      exact tokensFrom?_append_blank text 0 none [] chunkBlank
    | cons first others ih =>
      intro chunk chunkBlank
      have spaces := List.all_eq_true.1 blank
      have space := spaces first List.mem_cons_self
      rw [List.cons_append, tokensFrom?_of_not_mem (not_mem_marks_of_isBlank space)
        fun _ => chunkBlank]
      refine ih (List.all_eq_true.2 fun other member =>
        spaces other (List.mem_cons_of_mem _ member))
        (first :: chunk) ?_
      simpa [isBlankText, space] using chunkBlank
  exact pushed [] rfl

/-- The state inside a group that is not over. -/
structure InGroup (nesting : Nesting) : Prop where
  goesOn : groupOver nesting = false
  quote : ∀ mark ∈ nesting.quote, mark ∈ marks

theorem mem_marks_of_isQuote {character : Char} (quote : Nesting.isQuote character = true) :
    character ∈ marks := by
  simp only [Nesting.isQuote, Bool.or_eq_true, beq_iff_eq] at quote
  rcases quote with rfl | rfl <;> decide

theorem inGroup_of_opens {chunk : List Char} {character : Char}
    (opens : opensOperandGroup chunk character = true) :
    InGroup (({} : Nesting).step character) := by
  cases quote : Nesting.isQuote character with
  | true =>
    constructor
    · simp [Nesting.step, quote, groupOver]
    · simpa [Nesting.step, quote] using mem_marks_of_isQuote quote
  | false =>
    have bracket : Nesting.isOpening character = true := by
      simp only [opensOperandGroup, quote, Bool.false_or, Bool.or_eq_true, beq_iff_eq,
        Bool.and_eq_true] at opens
      rcases opens with (rfl | rfl) | ⟨rfl, -⟩ <;> rfl
    constructor
    · simp [Nesting.step, quote, bracket, groupOver]
    · simp [Nesting.step, quote]

theorem InGroup.step {nesting : Nesting} (inGroup : InGroup nesting) {character : Char}
    (goesOn : groupOver (nesting.step character) = false) : InGroup (nesting.step character) := by
  refine ⟨goesOn, ?_⟩
  intro mark member
  cases quoted : nesting.quote with
  | some quote =>
    simp only [Nesting.step, quoted, Option.mem_def] at member
    split at member
    · cases member
    · exact inGroup.quote mark (quoted.trans member)
  | none =>
    simp only [Nesting.step, quoted, Option.mem_def] at member
    split at member
    · next quote =>
      cases member
      exact mem_marks_of_isQuote quote
    · cases member

/-- A character without a meaning of its own does not close a group. -/
theorem InGroup.step_of_not_mem {nesting : Nesting} (inGroup : InGroup nesting) {character : Char}
    (unmarked : character ∉ marks) : InGroup (nesting.step character) := by
  refine inGroup.step ?_
  have goesOn := inGroup.goesOn
  cases quoted : nesting.quote with
  | some quote =>
    have different : character ≠ quote := by
      rintro rfl
      exact unmarked (inGroup.quote character quoted)
    simp [Nesting.step, quoted, different, groupOver]
  | none =>
    simp only [marks, List.mem_cons, not_or] at unmarked
    simpa [Nesting.step, quoted, groupOver, Nesting.isQuote, Nesting.isOpening,
      Nesting.isClosing, unmarked] using goesOn

/-- A word `in` that white space behind a text ends is the end of the text. -/
theorem startsWithIn_append_blank {text blanks : List Char} (nonempty : text ≠ [])
    (blank : isBlankText blanks = true) (word : startsWithIn (text ++ blanks) = true) :
    startsWithIn text = true ∨ text.length = 3 := by
  have spaces := List.all_eq_true.1 blank
  obtain ⟨space, first, second, next, others, same, -, isFirst, isSecond⟩ :=
    exists_of_startsWithIn word
  have letters : first ∉ blanks ∧ second ∉ blanks := by
    constructor
    · intro member
      have isSpace := spaces first member
      rcases isFirst with rfl | rfl <;> exact absurd isSpace (by decide)
    · intro member
      have isSpace := spaces second member
      rcases isSecond with rfl | rfl <;> exact absurd isSpace (by decide)
  match text, nonempty with
  | [_], _ =>
    obtain ⟨rfl, rfl⟩ := List.cons.inj same
    simp at letters
  | [_, _], _ =>
    simp only [List.cons_append, List.nil_append, List.cons.injEq] at same
    obtain ⟨rfl, rfl, rfl⟩ := same
    simp at letters
  | [_, _, _], _ => exact Or.inr rfl
  | _ :: _ :: _ :: _ :: _, _ => exact Or.inl (by simpa [startsWithIn] using word)

theorem stops_continuesToken_of_blank {blanks : List Char} (blank : isBlankText blanks = true) :
    Stops continuesToken blanks := by
  intro character first
  have space := List.all_eq_true.1 blank character (List.mem_of_head? first)
  rw [Bool.eq_false_iff]
  intro continues
  simp only [continuesToken, Bool.or_eq_true, beq_iff_eq] at continues
  rcases continues with (rfl | rfl) | rfl <;> exact absurd space (by decide)

theorem startsWithIn_append_of_startsWithIn {text : List Char} (word : startsWithIn text = true)
    (rest : List Char) : startsWithIn (text ++ rest) = true := by
  obtain ⟨space, first, second, next, others, rfl, -⟩ := exists_of_startsWithIn word
  simpa [startsWithIn] using word

/-- White space behind a text does not change its first token, unless the text is a word `in`. -/
theorem tokenAt?_append_blank (chunk : List Char) {text blanks : List Char} (nonempty : text ≠ [])
    (blank : isBlankText blanks = true) :
    tokenAt? chunk (text ++ blanks) = tokenAt? chunk text ∨
      tokenAt? chunk (text ++ blanks) = some (.within, 3) ∧ text.length = 3 := by
  have same := tokenAt?_append chunk nonempty (stops_continuesToken_of_blank blank)
  cases long : startsWithIn (text ++ blanks) with
  | false =>
    have short : startsWithIn text = false := by
      rw [Bool.eq_false_iff]
      intro word
      simp [startsWithIn_append_of_startsWithIn word] at long
    exact Or.inl (same (long.trans short.symm))
  | true =>
    rcases startsWithIn_append_blank nonempty blank long with word | length
    · exact Or.inl (same (long.trans word.symm))
    · obtain ⟨space, first, second, rfl⟩ := List.length_eq_three.1 length
      obtain ⟨_, _, _, _, _, begins, isSpace, -⟩ := exists_of_startsWithIn long
      obtain ⟨rfl, -⟩ := List.cons.inj begins
      have unmarked := not_mem_marks_of_isBlank isSpace
      rw [List.cons_append] at long ⊢
      rw [tokenAt?_of_not_mem chunk unmarked, tokenAt?_of_not_mem chunk unmarked, long]
      cases isBlankText chunk with
      | true => exact Or.inl (by simp)
      | false => exact Or.inr ⟨by simp, rfl⟩

theorem tokensFrom?_blank (group : Option Nesting) (inGroup : ∀ nesting ∈ group, InGroup nesting)
    (chunk : List Char) {blanks : List Char} (blank : isBlankText blanks = true) :
    tokensFrom? 0 group chunk blanks = tokensFrom? 0 group chunk [] := by
  induction blanks generalizing group chunk with
  | nil => rfl
  | cons first others ih =>
    have spaces := List.all_eq_true.1 blank
    have space := spaces first List.mem_cons_self
    have othersBlank : isBlankText others = true :=
      List.all_eq_true.2 fun other member => spaces other (List.mem_cons_of_mem _ member)
    have unmarked := not_mem_marks_of_isBlank space
    cases group with
    | some nesting =>
      have next := (inGroup nesting rfl).step_of_not_mem unmarked
      have goesOn : tokensFrom? 0 (some nesting) chunk (first :: others) =
          tokensFrom? 0 (some (nesting.step first)) (first :: chunk) others := by
        simp only [tokensFrom?, next.goesOn, Bool.false_eq_true, ↓reduceIte]
      rw [goesOn, ih _ (by simpa using next) _ othersBlank]
      rfl
    | none =>
      have noWord : startsWithIn (first :: others) = false := by
        rw [Bool.eq_false_iff]
        intro word
        obtain ⟨_, letter, _, _, _, same, -, isLetter, -⟩ := exists_of_startsWithIn word
        have isSpace := spaces letter (by simp [same])
        rcases isLetter with rfl | rfl <;> exact absurd isSpace (by decide)
      rw [tokensFrom?_of_not_mem unmarked (by simp [noWord]), ih _ (by simp) _ othersBlank,
        tokensFrom?, tokensFrom?, ← List.singleton_append,
        pending_blank_append chunk (by simpa [isBlankText] using space)]

theorem pending_of_not_blank {chunk : List Char} (solid : isBlankText chunk = false) :
    pending chunk = [.operand (trim chunk.reverse)] := by
  rw [pending, if_neg]
  intro empty
  have blank := isBlankText_of_trim_eq_nil empty
  rw [isBlankText_reverse, solid] at blank
  cases blank

theorem pending_cases (chunk : List Char) :
    isBlankText chunk = true ∧ pending chunk = [] ∨ ∃ text, pending chunk = [.operand text] := by
  cases blank : isBlankText chunk with
  | true => exact Or.inl ⟨rfl, by simpa using pending_append_blank [] blank⟩
  | false => exact Or.inr ⟨_, pending_of_not_blank blank⟩

/-- Only white space has no tokens. -/
theorem isBlankText_of_tokensFrom? {text : List Char} {skip : Nat} {group : Option Nesting}
    {chunk : List Char} (lexed : tokensFrom? skip group chunk text = some []) :
    isBlankText chunk = true ∧ isBlankText (text.drop skip) = true := by
  have pushed : ∀ {character : Char} {chunk rest : List Char},
      isBlankText (character :: chunk) = true ∧ isBlankText (rest.drop 0) = true →
        isBlankText chunk = true ∧ isBlankText ((character :: rest).drop 0) = true := by
    intro character chunk rest
    simp only [isBlankText, List.all_cons, Bool.and_eq_true, List.drop_zero]
    exact fun both => ⟨both.1.2, both.1.1, both.2⟩
  induction text generalizing skip group chunk with
  | nil =>
    rw [tokensFrom?] at lexed
    split at lexed
    · cases lexed
    · rcases pending_cases chunk with ⟨blank, -⟩ | ⟨operand, found⟩
      · exact ⟨blank, by simp [isBlankText]⟩
      · simp [found] at lexed
  | cons character text ih =>
    cases skip with
    | succ skip => exact ih lexed
    | zero =>
      cases group with
      | some nesting => exact pushed (ih lexed)
      | none =>
        cases opens : opensOperandGroup chunk character with
        | true =>
          rw [tokensFrom?_of_opens opens] at lexed
          exact pushed (ih lexed)
        | false =>
          cases found : tokenAt? chunk (character :: text) with
          | none =>
            rw [tokensFrom?_of_none opens found] at lexed
            exact pushed (ih lexed)
          | some token =>
            rw [tokensFrom?_of_token opens found] at lexed
            simp at lexed

theorem startsWithIn_of_tokenAt? {chunk text : List Char} {width : Nat}
    (found : tokenAt? chunk text = some (.within, width)) :
    startsWithIn text = true ∧ isBlankText chunk = false ∧ width = 3 := by
  fun_cases tokenAt? chunk text <;> simp_all [tokenAt?]

/-- The tokens of a text, and those with white space behind it: the same, and no `in` at their end,
or the white space has made an `in` of the last word of an operand. -/
def AgreeUpToIn (short long : Option (List Token)) : Prop :=
  (short = long ∧ ∀ tokens ∈ long, tokens.getLast? ≠ some .within) ∨
    ∃ front operand longer, long = some (front ++ [.operand operand, .within]) ∧
      short = some (front ++ [.operand longer])

theorem AgreeUpToIn.prepend {short long : Option (List Token)} (agree : AgreeUpToIn short long)
    (front : List Token) {token : Token} (further : token = .within → long ≠ some []) :
    AgreeUpToIn (short.map fun tokens => front ++ token :: tokens)
      (long.map fun tokens => front ++ token :: tokens) := by
  rcases agree with ⟨rfl, last⟩ | ⟨middle, operand, longer, rfl, rfl⟩
  · refine Or.inl ⟨rfl, ?_⟩
    intro tokens member
    obtain ⟨inner, found, rfl⟩ := Option.map_eq_some_iff.1 member
    rcases List.eq_nil_or_concat' inner with rfl | ⟨start, final, rfl⟩
    · simpa using fun same => further same found
    · have innerLast := last _ found
      rw [List.getLast?_concat] at innerLast
      rw [← List.cons_append, ← List.append_assoc, List.getLast?_concat]
      exact innerLast
  · exact Or.inr ⟨front ++ token :: middle, operand, longer, by simp, by simp⟩

/-- White space has made an `in` of the last word of an operand, and no token can follow it. -/
theorem agree_of_lastWord {chunk blanks : List Char} {character first second : Char}
    (opens : opensOperandGroup chunk character = false) (blank : isBlankText blanks = true)
    (word : tokenAt? chunk (character :: ([first, second] ++ blanks)) = some (.within, 3)) :
    AgreeUpToIn (tokensFrom? 0 none chunk [character, first, second])
      (tokensFrom? 0 none chunk (character :: ([first, second] ++ blanks))) := by
  obtain ⟨starts, solid, -⟩ := startsWithIn_of_tokenAt? word
  obtain ⟨_, _, _, _, _, letters, isSpace, isFirst, isSecond⟩ := exists_of_startsWithIn starts
  simp only [List.cons_append, List.cons.injEq] at letters
  obtain ⟨rfl, rfl, rfl, -⟩ := letters
  have unmarkedFirst : first ∉ marks := by rcases isFirst with rfl | rfl <;> decide
  have unmarkedSecond : second ∉ marks := by rcases isSecond with rfl | rfl <;> decide
  have whole : isBlankText (second :: first :: character :: chunk) = false := by
    simp only [isBlankText, List.all_cons] at solid ⊢
    simp [solid]
  have behind : tokensFrom? 2 none [] ([first, second] ++ blanks) = some [] :=
    tokensFrom?_blank none (by simp) [] blank
  refine Or.inr ⟨[], trim chunk.reverse, trim (second :: first :: character :: chunk).reverse,
    ?_, ?_⟩
  · rw [tokensFrom?_of_token opens word, behind, pending_of_not_blank solid]
    rfl
  · rw [tokensFrom?_of_not_mem (not_mem_marks_of_isBlank isSpace) (by simp [startsWithIn]),
      tokensFrom?_of_not_mem unmarkedFirst (by simp [startsWithIn]),
      tokensFrom?_of_not_mem unmarkedSecond (by simp [startsWithIn]), tokensFrom?,
      pending_of_not_blank whole]
    rfl

/-- A word `in` of a text has white space behind it, and more than that if the text does not end
with white space. -/
theorem tokensFrom?_ne_nil_of_within {chunk text : List Char} {character : Char} {width : Nat}
    (found : tokenAt? chunk (character :: text) = some (.within, width))
    (solid : ∀ last ∈ text.getLast?, Character.isBlank last = false) (behind : List Char) :
    tokensFrom? (width - 1) none [] (text ++ behind) ≠ some [] := by
  intro nothing
  obtain ⟨starts, -, rfl⟩ := startsWithIn_of_tokenAt? found
  have long := length_of_startsWithIn starts
  obtain ⟨start, last, rfl⟩ : ∃ start last, text = start ++ [last] := by
    rcases List.eq_nil_or_concat' text with rfl | cut
    · simp at long
    · exact cut
  have fits : 2 ≤ start.length := by
    simp at long
    omega
  have member : last ∈ (start ++ [last] ++ behind).drop 2 := by
    rw [List.append_assoc, List.drop_append_of_le_length fits]
    simp
  have space := List.all_eq_true.1 (isBlankText_of_tokensFrom? nothing).2 last member
  rw [solid last (by simp)] at space
  cases space

/-- Whether white space behind a text changes none of its tokens, wherever a reader of the text has
come to, unless it makes a last word `in` one. -/
def AgreesBefore (blanks text : List Char) : Prop :=
  ∀ {skip : Nat} {group : Option Nesting} {chunk : List Char}, skip ≤ text.length →
    (∀ nesting ∈ group, InGroup nesting) →
      AgreeUpToIn (tokensFrom? skip group chunk text)
        (tokensFrom? skip group chunk (text ++ blanks))

section Agree

variable {blanks text chunk : List Char} {character : Char}

theorem agreesBefore_nil (blank : isBlankText blanks = true) : AgreesBefore blanks [] := by
  intro skip group chunk within inGroup
  obtain rfl : skip = 0 := by simpa using within
  rw [List.nil_append, tokensFrom?_blank group inGroup chunk blank, tokensFrom?]
  refine Or.inl ⟨rfl, ?_⟩
  split
  · simp
  · rcases pending_cases chunk with ⟨-, found⟩ | ⟨operand, found⟩ <;> simp [found]

theorem AgreesBefore.of_group (agrees : AgreesBefore blanks text) {nesting : Nesting}
    (inGroup : InGroup nesting) :
    AgreeUpToIn (tokensFrom? 0 (some nesting) chunk (character :: text))
      (tokensFrom? 0 (some nesting) chunk (character :: (text ++ blanks))) := by
  refine agrees (Nat.zero_le _) ?_
  intro next member
  split at member
  · cases member
  · next goesOn =>
    cases member
    exact inGroup.step (by simpa using goesOn)

/-- A token at the front of a text is the same with white space behind it. -/
theorem AgreesBefore.of_token (agrees : AgreesBefore blanks text)
    (solid : ∀ last ∈ text.getLast?, Character.isBlank last = false) {token : Token × Nat}
    (opens : opensOperandGroup chunk character = false)
    (found : tokenAt? chunk (character :: text) = some token)
    (foundLonger : tokenAt? chunk (character :: (text ++ blanks)) = some token) :
    AgreeUpToIn (tokensFrom? 0 none chunk (character :: text))
      (tokensFrom? 0 none chunk (character :: (text ++ blanks))) := by
  obtain ⟨token, width⟩ := token
  have bounded : width - 1 ≤ text.length := Nat.sub_le_of_le_add (width_le_of_tokenAt? found)
  rw [tokensFrom?_of_token opens found, tokensFrom?_of_token opens foundLonger]
  apply (agrees bounded (by simp)).prepend
  rintro rfl
  exact tokensFrom?_ne_nil_of_within found solid blanks

theorem AgreesBefore.of_not_opens (agrees : AgreesBefore blanks text)
    (solid : ∀ last ∈ text.getLast?, Character.isBlank last = false)
    (blank : isBlankText blanks = true) (opens : opensOperandGroup chunk character = false) :
    AgreeUpToIn (tokensFrom? 0 none chunk (character :: text))
      (tokensFrom? 0 none chunk (character :: (text ++ blanks))) := by
  rcases tokenAt?_append_blank chunk (List.cons_ne_nil character text) blank with
    same | ⟨word, length⟩
  · rw [List.cons_append] at same
    cases found : tokenAt? chunk (character :: text) with
    | none =>
      rw [tokensFrom?_of_none opens found, tokensFrom?_of_none opens (same.trans found)]
      exact agrees (Nat.zero_le _) (by simp)
    | some token => exact agrees.of_token solid opens found (same.trans found)
  · obtain ⟨first, second, rfl⟩ := List.length_eq_two.1 (Nat.succ.inj length)
    exact agree_of_lastWord opens blank word

end Agree

/-- White space behind a text does not change its tokens, unless it makes a last word `in` one. -/
theorem agreesBefore {blanks text : List Char} (blank : isBlankText blanks = true)
    (solid : ∀ last ∈ text.getLast?, Character.isBlank last = false) :
    AgreesBefore blanks text := by
  induction text with
  | nil => exact agreesBefore_nil blank
  | cons character text ih =>
    have solidRest : ∀ last ∈ text.getLast?, Character.isBlank last = false := by
      intro last member
      apply solid
      rw [List.getLast?_cons, Option.mem_def.1 member]
      rfl
    have agrees : AgreesBefore blanks text := ih solidRest
    intro skip group chunk within inGroup
    cases skip with
    | succ skip => exact agrees (Nat.le_of_succ_le_succ within) inGroup
    | zero =>
      cases group with
      | some nesting => exact agrees.of_group (inGroup nesting rfl)
      | none =>
        cases opens : opensOperandGroup chunk character with
        | true =>
          rw [List.cons_append, tokensFrom?_of_opens opens, tokensFrom?_of_opens opens]
          exact agrees (Nat.zero_le _) (by simpa using inGroup_of_opens opens)
        | false => exact agrees.of_not_opens solidRest blank opens

theorem tokens?_trim_agree (text : List Char) :
    AgreeUpToIn (tokens? (trim text)) (tokens? text) := by
  obtain ⟨before, after, beforeBlank, afterBlank, same⟩ := exists_margins text
  have whole : tokens? text = tokens? (trim text ++ after) :=
    calc
      tokens? text = tokens? (before ++ (trim text ++ after)) := by rw [← List.append_assoc, ← same]
      _ = tokens? (trim text ++ after) := tokens?_blank_append _ beforeBlank
  rw [whole]
  exact agreesBefore afterBlank (fun last => not_isBlank_of_mem_getLast?_trim) (Nat.zero_le _)
    (by simp)

/-- White space around a text does not change its tokens, unless it makes a last word `in` one. -/
theorem tokens?_trim {text : List Char} {tokens : List Token} (lexed : tokens? text = some tokens)
    (last : tokens.getLast? ≠ some .within) : tokens? (trim text) = some tokens := by
  rcases tokens?_trim_agree text with ⟨same, -⟩ | ⟨front, operand, longer, long, -⟩
  · exact same.trans lexed
  · obtain rfl := Option.some.inj (lexed.symm.trans long)
    simp at last

end Condition

end Intake
