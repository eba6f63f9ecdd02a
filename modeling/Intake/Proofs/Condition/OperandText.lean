import Intake.Condition.Parser
import Intake.Proofs.Condition.Tokens
import Intake.Proofs.Number.Digits
import Intake.Proofs.Text.Balance

/-!
# Operands as text

Literals, paths and lists of them are printed as a condition writes them. The text of such an
operand is taken whole by the reader of tokens, whatever a quoted text in it contains, and reads
back as the operand.
-/

namespace Intake

namespace Condition

open Text Nesting

/-- Whether a text is taken whole into the run of characters in front of it. -/
def Absorbed (text : List Char) : Prop :=
  ∀ chunk rest, tokensFrom? 0 none chunk (text ++ rest) =
    tokensFrom? 0 none (text.reverse ++ chunk) rest

/-- Whether a character can stand in a word: an operand without marks, white space and commas. -/
def isSolid (character : Char) : Bool :=
  !marks.contains character && !Character.isBlank character && character != ','

theorem isSolid_iff {character : Char} :
    isSolid character = true ↔
      character ∉ marks ∧ Character.isBlank character = false ∧ character ≠ ',' := by
  simp [isSolid, and_assoc]

theorem isMark_eq_false_of_not_mem {character : Char} (unmarked : character ∉ marks) :
    isMark character = false := by
  simp only [marks, List.mem_cons, not_or] at unmarked
  simp [isMark, isQuote, isOpening, isClosing, unmarked]

/-- No token starts in a word. -/
theorem absorbed_of_solid {text : List Char} (solid : text.all isSolid = true) :
    Absorbed text := by
  induction text with
  | nil => exact fun _ _ => rfl
  | cons character others ih =>
    rw [List.all_cons, Bool.and_eq_true, isSolid_iff] at solid
    obtain ⟨⟨unmarked, notBlank, -⟩, othersSolid⟩ := solid
    intro chunk rest
    have noWord : startsWithIn (character :: (others ++ rest)) = true →
        isBlankText chunk = true := by
      intro word
      obtain ⟨space, _, _, _, _, same, blank, -⟩ := exists_of_startsWithIn word
      obtain ⟨rfl, -⟩ := List.cons.inj same
      rw [notBlank] at blank
      cases blank
    rw [List.cons_append, tokensFrom?_of_not_mem unmarked noWord, ih othersSolid]
    simp

theorem groupOver_of_deep {nesting : Nesting} (deep : 0 < nesting.depth) :
    groupOver nesting = false := by
  have notOver : ¬ nesting.depth ≤ 0 := by omega
  simp [groupOver, notOver]

theorem groupOver_of_quoted {nesting : Nesting} {quote : Char}
    (quoted : nesting.quote = some quote) :
    groupOver nesting = false := by
  simp [groupOver, quoted]

/-- Whether a group is open behind each character of a text. -/
def StaysOpen (nesting : Nesting) : List Char → Prop
  | [] => True
  | character :: rest =>
    groupOver (nesting.step character) = false ∧ StaysOpen (nesting.step character) rest

theorem staysOpen_of_staysAbove {nesting : Nesting} {floor : Int} (positive : 0 < floor)
    {text : List Char} (above : StaysAbove floor nesting text) : StaysOpen nesting text := by
  induction text generalizing nesting with
  | nil => trivial
  | cons character rest ih =>
    have deep := above.2.start
    exact ⟨groupOver_of_deep (by omega), ih above.2⟩

theorem staysOpen_of_quoted {nesting : Nesting} {quote : Char}
    (quoted : nesting.quote = some quote) {content : List Char} (clean : quote ∉ content) :
    StaysOpen nesting content := by
  induction content generalizing nesting with
  | nil => trivial
  | cons character rest ih =>
    rw [List.mem_cons, not_or] at clean
    have next : (nesting.step character).quote = some quote := by
      simp [step, quoted, Ne.symm clean.1]
    exact ⟨groupOver_of_quoted next, ih next clean.2⟩

theorem tokensFrom?_of_staysOpen {nesting : Nesting} {text : List Char}
    (staysOpen : StaysOpen nesting text) (chunk rest : List Char) :
    tokensFrom? 0 (some nesting) chunk (text ++ rest) =
      tokensFrom? 0 (some (nesting.after text)) (text.reverse ++ chunk) rest := by
  induction text generalizing nesting chunk with
  | nil => rfl
  | cons character others ih =>
    have goesOn : tokensFrom? 0 (some nesting) chunk (character :: (others ++ rest)) =
        tokensFrom? 0 (some (nesting.step character)) (character :: chunk) (others ++ rest) := by
      simp only [tokensFrom?, staysOpen.1, Bool.false_eq_true, ↓reduceIte]
    rw [List.cons_append, goesOn, ih staysOpen.2]
    simp

theorem tokensFrom?_group {chunk : List Char} {first last : Char} {inside : List Char}
    (opens : opensOperandGroup chunk first = true)
    (staysOpen : StaysOpen (({} : Nesting).step first) inside)
    (closes : groupOver (((({} : Nesting).step first).after inside).step last) = true)
    (rest : List Char) :
    tokensFrom? 0 none chunk (first :: (inside ++ [last]) ++ rest) =
      tokensFrom? 0 none ((first :: (inside ++ [last])).reverse ++ chunk) rest := by
  have closed : ∀ taken,
      tokensFrom? 0 (some ((({} : Nesting).step first).after inside)) taken (last :: rest) =
        tokensFrom? 0 none (last :: taken) rest := by
    intro taken
    simp only [tokensFrom?, closes, ↓reduceIte]
  rw [List.cons_append, List.append_assoc, List.singleton_append, tokensFrom?_of_opens opens,
    tokensFrom?_of_staysOpen staysOpen, closed]
  simp

theorem tokensFrom?_brackets {chunk : List Char} {first last : Char} {inside : List Char}
    (opens : opensOperandGroup chunk first = true) (opening : isOpening first = true)
    (closing : isClosing last = true) (balanced : Balanced inside) (rest : List Char) :
    tokensFrom? 0 none chunk (first :: (inside ++ [last]) ++ rest) =
      tokensFrom? 0 none ((first :: (inside ++ [last])).reverse ++ chunk) rest := by
  obtain ⟨above, -, -, finish, depth⟩ := balanced.bracketed opening closing {} rfl
  refine tokensFrom?_group opens (staysOpen_of_staysAbove (by decide) above) ?_ rest
  simp [groupOver, finish, depth]

theorem absorbed_quoted {quote : Char} (isQuoted : isQuote quote = true) {content : List Char}
    (clean : quote ∉ content) (plain : '\\' ∉ content) :
    Absorbed (quote :: (content ++ [quote])) := by
  intro chunk rest
  obtain ⟨-, -, finish, depth⟩ := quoted_content isQuoted clean plain {} rfl
  have opens : opensOperandGroup chunk quote = true := by simp [opensOperandGroup, isQuoted]
  have outside : ({} : Nesting).quote = none := rfl
  have quoted := (step_of_isQuote outside isQuoted).1
  refine tokensFrom?_group opens (staysOpen_of_quoted quoted clean) ?_ rest
  simp [groupOver, finish, depth]

theorem pending_reverse {text : List Char} (kept : trim text = text) (nonempty : text ≠ []) :
    pending text.reverse = [.operand text] := by
  simp [pending, kept, nonempty]

end Condition

namespace Operand

open Text

/-- The text of a literal; a text stands in single quotes. -/
def literalText : Value → List Char
  | .text content => '\'' :: (content.toList ++ ['\''])
  | .number number => number.displayText
  | .bool true => "true".toList
  | .bool false => "false".toList
  | _ => "null".toList

mutual

def text : Operand → List Char
  | .literal value => literalText value
  | .list items => '[' :: (joined ", ".toList (texts items) ++ [']'])
  | .path content => content
  | .expression content => content

def texts : List Operand → List (List Char)
  | [] => []
  | item :: others => item.text :: texts others

end

/-- The words that are literals although they look like paths. -/
def literalWords : List (List Char) :=
  ["true".toList, "false".toList, "null".toList]

/-- Literals without quotation marks and backslashes in them, paths, and lists of such operands. -/
inductive Plain : Operand → Prop
  | text (content : String) (clean : '\'' ∉ content.toList) (plain : '\\' ∉ content.toList) :
    Plain (.literal (.text content))
  | integer (value : Int) (fits : Number.fitsSigned value = true) :
    Plain (.literal (.ofInt value))
  | bool (value : Bool) : Plain (.literal (.bool value))
  | null : Plain (.literal .null)
  | path (content : List Char) (isPath : isPath content = true)
      (notWord : content ∉ literalWords) : Plain (.path content)
  | list (items : List Operand) (plain : ∀ item ∈ items, Plain item) : Plain (.list items)

/-- A text that is taken whole wherever an operand can stand and writes the operand. -/
structure Written (operand : Operand) (content : List Char) : Prop where
  nonempty : content ≠ []
  starts : Stops Character.isBlank content
  finishes : Stops Character.isBlank content.reverse
  whole : Whole ',' content
  absorbed : Condition.Absorbed content
  parsed : parse content = operand
  notCall : Condition.emptyCall? content = none

theorem texts_eq_map (items : List Operand) : texts items = items.map text := by
  induction items with
  | nil => rfl
  | cons item others ih => rw [texts, ih, List.map_cons]

theorem parse_of_literal {content : List Char} (kept : trim content = content) {value : Value}
    (found : literal? content = some value) : parse content = .literal value := by
  simp only [parse, kept, found]

theorem parse_of_path {content : List Char} (kept : trim content = content)
    (noLiteral : literal? content = none) (noList : listParts? content = none)
    (isPath : isPath content = true) : parse content = .path content := by
  rw [parse]
  simp only [kept, noLiteral]
  split
  · next parts found => simp [kept, noList] at found
  · exact if_pos isPath

theorem parse_of_expression {content : List Char} (kept : trim content = content)
    (noLiteral : literal? content = none) (noList : listParts? content = none)
    (noPath : isPath content = false) : parse content = .expression content := by
  rw [parse]
  simp only [kept, noLiteral]
  split
  · next parts found => simp [kept, noList] at found
  · simp [noPath]

theorem parse_of_list {content : List Char} (kept : trim content = content)
    (noLiteral : literal? content = none) {parts : List (List Char)}
    (found : listParts? content = some parts) :
    parse content = .list (parts.map parse) := by
  rw [parse]
  simp only [kept, noLiteral]
  split
  · next others same =>
    rw [kept, found, Option.some.injEq] at same
    subst same
    simp
  · next none => simp [kept, found] at none

theorem parse_trim (content : List Char) : parse (trim content) = parse content := by
  rw [parse, parse, trim_trim]

theorem parse_blank_append {blanks : List Char} (blank : isBlankText blanks = true)
    (content : List Char) : parse (blanks ++ content) = parse content := by
  rw [← parse_trim, trim_blank_append blank, parse_trim]

theorem literal?_eq_none {content : List Char} (unquoted : unquote? content = none)
    (noNumber : Numeral.textValue? content = none) (notWord : content ∉ literalWords) :
    literal? content = none := by
  simp only [literalWords, List.mem_cons, List.not_mem_nil, or_false, not_or] at notWord
  simp only [literal?, unquoted, noNumber, notWord, ↓reduceIte]

theorem literal?_of_first {first : Char} (unquoted : first ≠ '\'' ∧ first ≠ '"')
    (unsigned : first ≠ '+' ∧ first ≠ '-') (noPoint : first ≠ '.')
    (noDigit : Character.isDecimalDigit first = false) {rest : List Char}
    (kept : trim (first :: rest) = first :: rest) (notWord : first :: rest ∉ literalWords) :
    literal? (first :: rest) = none := by
  have noNumber := Numeral.textValue?_of_first unsigned noPoint noDigit kept
  exact literal?_eq_none (by simp [unquote?, unquoted]) noNumber notWord

theorem emptyCall?_of_not_mem {content : List Char} (absent : '(' ∉ content) :
    Condition.emptyCall? content = none := by
  cases found : afterPrefix? "empty".toList content with
  | none => rw [Condition.emptyCall?, found, Option.bind_none]
  | some after =>
    rw [Condition.emptyCall?, found, Option.bind_some]
    cases after with
    | nil => rfl
    | cons first rest =>
      have different : first ≠ '(' := by
        rintro rfl
        rw [eq_append_of_afterPrefix? found] at absent
        simp at absent
      simp [enclosed?, different]

/-- A word is taken whole wherever an operand can stand. -/
theorem written_of_word {operand : Operand} {content : List Char} (nonempty : content ≠ [])
    (solid : content.all Condition.isSolid = true)
    (parsed : trim content = content → parse content = operand) : Written operand content := by
  have word : ∀ character ∈ content, character ∉ Condition.marks ∧
      Character.isBlank character = false ∧ character ≠ ',' :=
    fun character member => Condition.isSolid_iff.1 (List.all_eq_true.1 solid character member)
  have visible : ∀ character ∈ content, Character.isBlank character = false :=
    fun character member => (word character member).2.1
  have starts : Stops Character.isBlank content := stops_of_forall visible
  have finishes : Stops Character.isBlank content.reverse :=
    stops_of_forall fun character member => visible character (List.mem_reverse.1 member)
  have unmarked : ∀ character ∈ content, Nesting.isMark character = false :=
    fun character member => Condition.isMark_eq_false_of_not_mem (word character member).1
  refine ⟨nonempty, starts, finishes, ?_, ?_, parsed (trim_of_stops starts finishes), ?_⟩
  · exact whole_of_plain unmarked fun member => (word _ member).2.2 rfl
  · exact Condition.absorbed_of_solid solid
  · exact emptyCall?_of_not_mem fun member => (word _ member).1 (by decide)

theorem written_quoted (content : String) (clean : '\'' ∉ content.toList)
    (plain : '\\' ∉ content.toList) :
    Written (.literal (.text content)) (literalText (.text content)) := by
  have quoted : Nesting.isQuote '\'' = true := rfl
  have starts : Stops Character.isBlank ('\'' :: (content.toList ++ ['\''])) :=
    stops_cons (by decide)
  have finishes : Stops Character.isBlank ('\'' :: (content.toList ++ ['\''])).reverse := by
    rw [List.reverse_cons, List.reverse_append]
    exact stops_cons (by decide)
  have found : literal? ('\'' :: (content.toList ++ ['\''])) = some (.text content) := by
    simp [literal?, unquote?, Value.ofChars]
  refine ⟨List.cons_ne_nil _ _, starts, finishes, whole_quoted quoted clean plain,
    Condition.absorbed_quoted quoted clean plain, ?_, rfl⟩
  exact parse_of_literal (trim_of_stops starts finishes) found

theorem characters_ofInt {value : Int} {character : Char}
    (member : character ∈ Decimal.ofInt value) : character = '-' ∨ character.isDigit = true := by
  rw [Decimal.ofInt] at member
  split at member
  · rcases List.mem_cons.1 member with same | digit
    · exact Or.inl same
    · exact Or.inr (Decimal.isDigit_of_mem_digits digit)
  · exact Or.inr (Decimal.isDigit_of_mem_digits member)

theorem unquote?_ofInt (value : Int) : unquote? (Decimal.ofInt value) = none := by
  cases written : Decimal.ofInt value with
  | nil => rfl
  | cons first rest =>
    have member : first ∈ Decimal.ofInt value := by
      rw [written]
      exact List.mem_cons_self
    have unquoted : ¬ (first = '\'' ∨ first = '"') := by
      rintro (rfl | rfl)
      · exact absurd (characters_ofInt member) (by decide)
      · exact absurd (characters_ofInt member) (by decide)
    simp [unquote?, unquoted]

theorem written_integer {value : Int} (fits : Number.fitsSigned value = true) :
    Written (.literal (.ofInt value)) (literalText (.ofInt value)) := by
  change Written _ (Decimal.ofInt value)
  have nonempty : Decimal.ofInt value ≠ [] := by
    rw [Decimal.ofInt]
    split
    · exact List.cons_ne_nil _ _
    · exact Decimal.digits_ne_nil _
  refine written_of_word nonempty (List.all_eq_true.2 ?_) ?_
  · intro character member
    rw [Condition.isSolid_iff]
    rcases characters_ofInt member with rfl | digit
    · exact ⟨by decide, rfl, by decide⟩
    · refine ⟨Condition.not_mem_marks rfl digit, Character.not_isBlank_of_isDigit digit, ?_⟩
      rintro rfl
      exact absurd digit (by decide)
  · intro kept
    exact parse_of_literal kept (by rw [literal?, unquote?_ofInt, Numeral.textValue?_ofInt fits])

theorem written_bool (value : Bool) :
    Written (.literal (.bool value)) (literalText (.bool value)) := by
  cases value with
  | true => exact written_of_word (by decide) rfl fun kept => parse_of_literal kept rfl
  | false => exact written_of_word (by decide) rfl fun kept => parse_of_literal kept rfl

theorem written_null : Written (.literal .null) (literalText .null) :=
  written_of_word (by decide) rfl fun kept => parse_of_literal kept rfl

/-- A path starts like a name and goes on with points and characters of segments. -/
theorem characters_of_isPath {content : List Char} (path : isPath content = true) :
    ∃ first rest, content = first :: rest ∧ startsPath first = true ∧
      ∀ character ∈ rest, character = '.' ∨ continuesSegment character = true := by
  have whole := joined_pieces '.' content
  unfold isPath at path
  split at path
  · next first rest segments pieces =>
    simp only [Bool.and_eq_true, List.all_eq_true, Bool.not_eq_true'] at path
    obtain ⟨⟨starts, name⟩, others⟩ := path
    rw [pieces] at whole
    have ofSegments : ∀ character ∈ joined ['.'] segments,
        character = '.' ∨ continuesSegment character = true := by
      intro character member
      rcases mem_joined member with point | ⟨segment, inside, found⟩
      · exact Or.inl (List.mem_singleton.1 point)
      · exact Or.inr ((others segment inside).2 character found)
    have ofName : ∀ character ∈ rest, continuesSegment character = true := by
      intro character member
      rw [continuesSegment, name character member, Bool.true_or]
    cases segments with
    | nil => exact ⟨first, rest, whole.symm, starts, fun _ member => Or.inr (ofName _ member)⟩
    | cons segment more =>
      refine ⟨first, rest ++ '.' :: joined ['.'] (segment :: more), ?_, starts, ?_⟩
      · rw [← whole]
        simp [joined]
      · intro character member
        rcases List.mem_append.1 member with inName | behind
        · exact Or.inr (ofName character inName)
        · rcases List.mem_cons.1 behind with point | inSegments
          · exact Or.inl point
          · exact ofSegments character inSegments
  · cases path

theorem continuesSegment_of_startsPath {character : Char} (starts : startsPath character = true) :
    continuesSegment character = true := by
  simp only [startsPath, Bool.or_eq_true, beq_iff_eq] at starts
  rcases starts with (letter | rfl) | rfl
  · rw [continuesSegment, continuesName, Character.isWord_of_isAlpha letter, Bool.true_or,
      Bool.true_or]
  · rfl
  · rfl

theorem not_isDecimalDigit_of_startsPath {character : Char}
    (starts : startsPath character = true) : Character.isDecimalDigit character = false := by
  simp only [startsPath, Bool.or_eq_true, beq_iff_eq] at starts
  rcases starts with (letter | rfl) | rfl
  · exact Character.not_isDecimalDigit_of_isAlpha letter
  · rfl
  · rfl

theorem isSolid_of_continuesSegment {character : Char}
    (inside : continuesSegment character = true) : Condition.isSolid character = true := by
  refine Condition.isSolid_iff.2 ⟨Condition.not_mem_marks rfl inside, ?_, ?_⟩
  · simp only [continuesSegment, continuesName, Bool.or_eq_true, beq_iff_eq] at inside
    rcases inside with (word | rfl) | rfl
    · exact Character.not_isBlank_of_isWord word
    · rfl
    · rfl
  · rintro rfl
    exact absurd inside (by decide)

theorem segment_of_mem {content : List Char} (path : isPath content = true) {character : Char}
    (member : character ∈ content) : character = '.' ∨ continuesSegment character = true := by
  obtain ⟨first, rest, rfl, starts, follows⟩ := characters_of_isPath path
  rcases List.mem_cons.1 member with rfl | behind
  · exact Or.inr (continuesSegment_of_startsPath starts)
  · exact follows character behind

theorem isSolid_of_isPath {content : List Char} (path : isPath content = true) :
    content.all Condition.isSolid = true := by
  refine List.all_eq_true.2 fun character member => ?_
  rcases segment_of_mem path member with rfl | inside
  · rfl
  · exact isSolid_of_continuesSegment inside

theorem written_path {content : List Char} (path : isPath content = true)
    (notWord : content ∉ literalWords) : Written (.path content) content := by
  have solid := isSolid_of_isPath path
  obtain ⟨first, rest, rfl, starts, -⟩ := characters_of_isPath path
  refine written_of_word (List.cons_ne_nil _ _) solid fun kept => ?_
  have outside : ∀ {character}, startsPath character = false → first ≠ character :=
    ne_of_isMember starts
  have noLiteral : literal? (first :: rest) = none :=
    literal?_of_first ⟨outside rfl, outside rfl⟩ ⟨outside rfl, outside rfl⟩ (outside rfl)
      (not_isDecimalDigit_of_startsPath starts) kept notWord
  have bracket : first ≠ '[' := outside rfl
  have noList : listParts? (first :: rest) = none := by
    simp [listParts?, enclosed?, bracket]
  exact parse_of_path kept noLiteral noList path

theorem Written.listable {operand : Operand} {content : List Char}
    (written : Written operand content) : Listable content :=
  ⟨written.nonempty, written.starts, written.finishes, written.whole⟩

theorem listable_texts {items : List Operand} (written : ∀ item ∈ items, Written item item.text) :
    ∀ content ∈ texts items, Listable content := by
  rw [texts_eq_map]
  intro content member
  obtain ⟨item, inside, rfl⟩ := List.mem_map.1 member
  exact (written item inside).listable

theorem listParts?_of_written {first : Operand} {others : List Operand}
    (written : ∀ item ∈ first :: others, Written item item.text) :
    listParts? (text (.list (first :: others))) =
      some (first.text :: others.map fun item => ' ' :: item.text) := by
  have listable := listable_texts written
  rw [texts] at listable
  rw [listParts?, text, enclosed?_brackets, Option.map_some, texts, isBlankText_listed listable,
    splitTopLevel_listed listable, texts_eq_map, List.map_map]
  rfl

theorem written_list {items : List Operand} (written : ∀ item ∈ items, Written item item.text) :
    Written (.list items) (text (.list items)) := by
  have balanced : Balanced (joined ", ".toList (texts items)) :=
    balanced_listed (listable_texts written)
  have starts : Stops Character.isBlank (text (.list items)) := by
    rw [text]
    exact stops_cons (by decide)
  have finishes : Stops Character.isBlank (text (.list items)).reverse := by
    rw [text, List.reverse_cons, List.reverse_append]
    exact stops_cons (by decide)
  have kept := trim_of_stops starts finishes
  have noLiteral : literal? (text (.list items)) = none := by
    rw [text] at kept ⊢
    exact literal?_of_first (by decide) (by decide) (by decide) (by decide) kept
      (by simp [literalWords])
  refine ⟨by rw [text]; exact List.cons_ne_nil _ _, starts, finishes, ?_, ?_, ?_, ?_⟩
  · rw [text]
    exact whole_brackets balanced rfl rfl
  · intro chunk rest
    rw [text]
    exact Condition.tokensFrom?_brackets (by simp [Condition.opensOperandGroup]) rfl rfl balanced
      rest
  · cases items with
    | nil =>
      have found : listParts? (text (.list [])) = some [] := rfl
      rw [parse_of_list kept noLiteral found, List.map_nil]
    | cons first others =>
      have same : ∀ item ∈ others, parse (' ' :: item.text) = item := by
        intro item inside
        have space : isBlankText [' '] = true := rfl
        have parsed := (written item (List.mem_cons_of_mem _ inside)).parsed
        exact (parse_blank_append space item.text).trans parsed
      rw [parse_of_list kept noLiteral (listParts?_of_written written), List.map_cons,
        (written first List.mem_cons_self).parsed, List.map_map]
      exact congrArg (fun rest => Operand.list (first :: rest))
        ((List.map_congr_left same).trans (List.map_id others))
  · rw [text]
    rfl

/-- The text of a plain operand writes it wherever an operand can stand. -/
theorem Plain.written {operand : Operand} (plain : operand.Plain) :
    Written operand operand.text := by
  induction plain with
  | text content clean plain => exact written_quoted content clean plain
  | integer value fits => exact written_integer fits
  | bool value => exact written_bool value
  | null => exact written_null
  | path content path notWord => exact written_path path notWord
  | list items _ ih => exact written_list ih

end Operand

end Intake
