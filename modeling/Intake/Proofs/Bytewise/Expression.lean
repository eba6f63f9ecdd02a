import Intake.Bytewise.Expression
import Intake.Proofs.Bytewise.Slice
import Intake.Proofs.Template.Expression
import Intake.Proofs.Value.Fold

/-!
# Slices of block expressions

The marks around a literal are one byte each, so what is sliced from between them lies between
characters. Every text is read as the tree that it writes.
-/

namespace Intake

namespace Bytewise

theorem unquote_eq (text : List Char) : unquote text = .ok (Text.unquote? text) := by
  rw [unquote]
  cases text with
  | nil => rfl
  | cons quote rest =>
    have single := head?_bytes_eq_some_iff (show '\''.utf8Size = 1 from rfl) (quote :: rest)
    have double := head?_bytes_eq_some_iff (show '"'.utf8Size = 1 from rfl) (quote :: rest)
    rw [List.head?_cons, Option.some.injEq] at single double
    simp only [single, double]
    split
    · next holds =>
      obtain ⟨long, mark, ends⟩ := holds
      have narrow : quote.utf8Size = 1 := by rcases mark with rfl | rfl <;> rfl
      have last : (quote :: rest).getLast? = some quote := by
        rw [← getLast?_bytes_eq_some_iff narrow, ← ends, head?_bytes_eq_some_iff narrow]
        rfl
      rcases List.eq_nil_or_concat' rest with rfl | ⟨inside, final, rfl⟩
      · simp [narrow] at long
      · rw [← List.cons_append, List.getLast?_concat, Option.some.injEq] at last
        subst last
        rw [slice_inner narrow narrow, Text.unquote?, List.getLast?_concat, if_pos ⟨mark, rfl⟩,
          List.dropLast_concat]
        rfl
    · next fails =>
      rw [Text.unquote?, if_neg]
      rintro ⟨mark, last⟩
      have narrow : quote.utf8Size = 1 := by rcases mark with rfl | rfl <;> rfl
      obtain ⟨inside, rfl⟩ := List.getLast?_eq_some_iff.1 last
      refine fails ⟨?_, mark, ?_⟩
      · simp only [size_cons, size_append, narrow]
        omega
      · rw [(head?_bytes_eq_some_iff narrow _).2 rfl, eq_comm, getLast?_bytes_eq_some_iff narrow,
          ← List.cons_append, List.getLast?_concat]

theorem enclosed_eq {first last : Char} (narrowFirst : first.utf8Size = 1)
    (narrowLast : last.utf8Size = 1) (distinct : first ≠ last) (text : List Char) :
    enclosed first last text = .ok (Text.enclosed? first last text) := by
  rw [enclosed]
  cases text with
  | nil => rfl
  | cons character rest =>
    simp only [List.head?_cons, Option.some.injEq, Text.enclosed?]
    rcases List.eq_nil_or_concat' rest with rfl | ⟨inside, final, rfl⟩
    · have single : ¬ (character = first ∧ [character].getLast? = some last) := by
        rintro ⟨rfl, same⟩
        exact distinct (by simpa using same)
      rw [if_neg single, if_neg (by simp)]
    · rw [← List.cons_append, List.getLast?_concat, List.getLast?_concat, List.dropLast_concat]
      split
      · next holds =>
        obtain ⟨rfl, same⟩ := holds
        cases same
        rw [List.cons_append, slice_inner narrowFirst narrowLast]
        rfl
      · rfl

theorem literalKey_eq (text : List Char) : literalKey text = .ok (Expression.literalKey text) := by
  rw [literalKey, unquote_eq]
  rfl

theorem mapM_attach {α β : Type} (step : α → Guarded β) (items : List α) :
    (items.attach.mapM fun item => step item.1) = items.mapM step := by
  rw [List.mapM_subtype fun _ _ => rfl, List.unattach_attach]

theorem parse_unfolded (text : List Char) :
    parse text =
      match Text.splitOnce? ['?', '?'] (Text.trim text) with
      | some (left, right) => return .coalesce (← parse left) (← parsePart (Text.trim right))
      | none =>
        if '~' ∈ Text.trim text then
          Expression.concat <$> (Text.pieces '~' (Text.trim text)).mapM fun piece =>
            parsePart (Text.trim piece)
        else if '(' ∈ Text.trim text ∧ ')' ∈ Text.trim text then
          match Expression.callParts? (Text.trim text) with
          | some (name, inside) =>
            Expression.call (String.ofList name) <$>
              (Expression.literalItems inside).mapM fun item => parseArgument (Text.trim item)
          | none => return .unreadable
        else
          match Text.unquote? (Text.trim text) with
          | some inside => return .literal inside
          | none =>
            match Numeral.textValue? (Text.trim text) with
            | some value => return .literal value.display
            | none => return .path (Text.trim text) := by
  rw [parse]
  split
  · next found => rw [found]
  · next found =>
    rw [found]
    simp only [dite_eq_ite]
    split
    · simp
    · split
      · split
        · next called => simp [called]
        · next called => rw [called]
      · rw [unquote_eq]
        rfl

theorem parseArgument_unfolded (text : List Char) :
    parseArgument text =
      match Text.unquote? text with
      | some inside => return .value (.ofChars inside)
      | none =>
        match Text.enclosed? '{' '}' text with
        | some content =>
          Argument.object <$> (Expression.literalPairs content).mapM fun pair =>
            return (Expression.literalKey pair.1, ← parseArgument (Text.trim pair.2))
        | none =>
          match Text.enclosed? '[' ']' text with
          | some content =>
            Argument.array <$> (Expression.literalItems content).mapM fun item =>
              parseArgument (Text.trim item)
          | none =>
            match Numeral.textValue? text with
            | some value => return .value value
            | none =>
              if text = "true".toList then return .value (.bool true)
              else if text = "false".toList then return .value (.bool false)
              else if text = "null".toList then return .value .null
              else Argument.rendered <$> parse text := by
  have braces := enclosed_eq (show '{'.utf8Size = 1 from rfl) (show '}'.utf8Size = 1 from rfl)
    (by decide) text
  have brackets := enclosed_eq (show '['.utf8Size = 1 from rfl) (show ']'.utf8Size = 1 from rfl)
    (by decide) text
  rw [parseArgument, unquote_eq]
  cases quoted : Text.unquote? text with
  | some inside => rfl
  | none =>
    simp only [bind, Except.bind]
    split
    · next stopped => cases braces.symm.trans stopped
    · next found =>
      rw [Except.ok.inj (braces.symm.trans found)]
      simp only [literalKey_eq]
      exact congrArg (Argument.object <$> ·) (mapM_attach (fun pair : List Char × List Char =>
        return (Expression.literalKey pair.1, ← parseArgument (Text.trim pair.2))) _)
    · next found =>
      simp only [Except.ok.inj (braces.symm.trans found)]
      split
      · next stopped => cases brackets.symm.trans stopped
      · next found =>
        rw [Except.ok.inj (brackets.symm.trans found)]
        exact congrArg (Argument.array <$> ·)
          (mapM_attach (fun item => parseArgument (Text.trim item)) _)
      · next found =>
        cases Numeral.textValue? text <;> simp only [Except.ok.inj (brackets.symm.trans found)]

section Parts

variable {text : List Char}

theorem parse_of_splitOnce? {left right : List Char}
    (found : Text.splitOnce? ['?', '?'] (Text.trim text) = some (left, right))
    (readLeft : parse left = .ok (Expression.parse left))
    (readRight : parsePart (Text.trim right) = .ok (Expression.parsePart (Text.trim right))) :
    parse text = .ok (Expression.parse text) := by
  rw [parse_unfolded, Expression.parse_unfolded, found]
  simp only [readLeft, readRight]
  rfl

theorem parse_of_pieces (found : Text.splitOnce? ['?', '?'] (Text.trim text) = none)
    (present : '~' ∈ Text.trim text)
    (read : ∀ piece ∈ Text.pieces '~' (Text.trim text),
      parsePart (Text.trim piece) = .ok (Expression.parsePart (Text.trim piece))) :
    parse text = .ok (Expression.parse text) := by
  rw [parse_unfolded, Expression.parse_unfolded, found]
  simp only [if_pos present]
  rw [mapM_eq_ok read]
  rfl

theorem parse_of_callParts? {name inside : List Char}
    (found : Text.splitOnce? ['?', '?'] (Text.trim text) = none)
    (absent : '~' ∉ Text.trim text) (marks : '(' ∈ Text.trim text ∧ ')' ∈ Text.trim text)
    (called : Expression.callParts? (Text.trim text) = some (name, inside))
    (read : ∀ item ∈ Expression.literalItems inside,
      parseArgument (Text.trim item) = .ok (Expression.parseArgument (Text.trim item))) :
    parse text = .ok (Expression.parse text) := by
  rw [parse_unfolded, Expression.parse_unfolded, found]
  simp only [if_neg absent, if_pos marks, called]
  rw [mapM_eq_ok read]
  rfl

theorem parseArgument_of_braces {content : List Char} (unquoted : Text.unquote? text = none)
    (braces : Text.enclosed? '{' '}' text = some content)
    (read : ∀ pair ∈ Expression.literalPairs content,
      parseArgument (Text.trim pair.2) = .ok (Expression.parseArgument (Text.trim pair.2))) :
    parseArgument text = .ok (Expression.parseArgument text) := by
  have fields : ∀ pair ∈ Expression.literalPairs content,
      (return (Expression.literalKey pair.1, ← parseArgument (Text.trim pair.2)) :
          Guarded (String × Argument)) =
        .ok (Expression.literalKey pair.1, Expression.parseArgument (Text.trim pair.2)) := by
    intro pair member
    rw [read pair member]
    rfl
  rw [parseArgument_unfolded, Expression.parseArgument_unfolded, unquoted, braces]
  simp only
  rw [mapM_eq_ok fields]
  rfl

theorem parseArgument_of_brackets {content : List Char} (unquoted : Text.unquote? text = none)
    (braces : Text.enclosed? '{' '}' text = none)
    (brackets : Text.enclosed? '[' ']' text = some content)
    (read : ∀ item ∈ Expression.literalItems content,
      parseArgument (Text.trim item) = .ok (Expression.parseArgument (Text.trim item))) :
    parseArgument text = .ok (Expression.parseArgument text) := by
  rw [parseArgument_unfolded, Expression.parseArgument_unfolded, unquoted, braces, brackets]
  simp only
  rw [mapM_eq_ok read]
  rfl

theorem parsePart_of_parse (read : parse text = .ok (Expression.parse text)) :
    parsePart text = .ok (Expression.parsePart text) := by
  rw [parsePart, Expression.parsePart, unquote_eq]
  cases Text.unquote? text with
  | none => exact read
  | some inside => rfl

end Parts

theorem parse_eq_all :
    (∀ text, parse text = .ok (Expression.parse text)) ∧
      (∀ text, parseArgument text = .ok (Expression.parseArgument text)) ∧
      ∀ text, parsePart text = .ok (Expression.parsePart text) := by
  apply Expression.parse.mutual_induct
  case case1 =>
    intro text left right found readLeft readRight
    exact parse_of_splitOnce? found readLeft readRight
  case case2 =>
    intro text found present read
    exact parse_of_pieces found present fun piece member => read ⟨piece, member⟩
  case case3 =>
    intro text found absent marks name inside called read
    exact parse_of_callParts? found absent marks called fun item member => read ⟨item, member⟩
  case case9 =>
    intro text unquoted content braces read
    exact parseArgument_of_braces unquoted braces fun pair member => read ⟨pair, member⟩
  case case10 =>
    intro text unquoted braces content brackets read
    exact parseArgument_of_brackets unquoted braces brackets fun item member => read ⟨item, member⟩
  case case15 =>
    intro text unquoted braces brackets notNumeric notTrue notFalse notNull read
    rw [parseArgument_unfolded, Expression.parseArgument_unfolded, unquoted, braces, brackets,
      notNumeric]
    simp only [if_neg notTrue, if_neg notFalse, if_neg notNull, read]
    rfl
  case case16 =>
    intro text inside quoted
    rw [parsePart, Expression.parsePart, unquote_eq, quoted]
    rfl
  case case17 =>
    intro text unquoted read
    exact parsePart_of_parse read
  case case4 | case5 | case6 | case7 =>
    intros
    rw [parse_unfolded, Expression.parse_unfolded]
    simp only [*]
    rfl
  case case8 | case11 | case12 | case13 | case14 =>
    intros
    rw [parseArgument_unfolded, Expression.parseArgument_unfolded]
    simp only [*]
    rfl

/-- Every slice of a block's inside is taken between characters, and the tree is the one that the
text writes. -/
theorem parse_eq (text : List Char) : parse text = .ok (Expression.parse text) :=
  parse_eq_all.1 text

end Bytewise

end Intake
