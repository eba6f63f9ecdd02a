import Intake.Proofs.Condition.OperandText
import Intake.Proofs.Template.Literal
import Intake.Proofs.Value.Fold

/-!
# Values as the arguments of a call

Null, booleans, integers and texts are written as literals, and lists and objects of them in
brackets and braces, to any depth. A call reads back the values that were written: whatever a text
in quotes contains, nothing in it is taken for a separator, a bracket or a colon.
-/

namespace Intake

open Text Nesting

namespace Text

/-- A text that brings no operator into a text that it is put into. -/
structure Inert (text : List Char) : Prop where
  noTilde : '~' ∉ text
  noFallback : ∀ rest, splitOnce? ['?', '?'] rest = none →
    splitOnce? ['?', '?'] (text ++ rest) = none

theorem Inert.append {first second : List Char} (firstInert : Inert first)
    (secondInert : Inert second) : Inert (first ++ second) where
  noTilde := by simp [firstInert.noTilde, secondInert.noTilde]
  noFallback rest unopened := by
    rw [List.append_assoc]
    exact firstInert.noFallback _ (secondInert.noFallback rest unopened)

theorem inert_of_not_mem {text : List Char} (noTilde : '~' ∉ text) (noMark : '?' ∉ text) :
    Inert text where
  noTilde := noTilde
  noFallback rest unopened := by
    rw [splitOnce?_pair_eq_none_iff] at unopened ⊢
    induction text with
    | nil => exact unopened
    | cons character others ih =>
      rw [List.mem_cons, not_or] at noTilde noMark
      rw [List.cons_append, List.isChain_cons]
      exact ⟨fun _ _ both => noMark.1 both.1.symm, ih noTilde.2 noMark.2⟩

/-- A text in single quotes is set apart from what stands around it. -/
theorem inert_quoted {content : List Char} (noTilde : '~' ∉ content)
    (noFallback : splitOnce? ['?', '?'] content = none) :
    Inert (Expression.quotedText '\'' content) where
  noTilde := by rwa [Expression.mem_quotedText_iff (by decide)]
  noFallback rest unopened := by
    rw [splitOnce?_pair_eq_none_iff] at noFallback unopened ⊢
    have mark : ('\'' :: rest).IsChain fun left right => ¬ (left = '?' ∧ right = '?') :=
      List.isChain_cons.2 ⟨by simp, unopened⟩
    have split : Expression.quotedText '\'' content ++ rest =
        '\'' :: (content ++ '\'' :: rest) := by
      simp [Expression.quotedText]
    rw [split]
    exact List.isChain_cons.2 ⟨by simp, List.isChain_append.2 ⟨noFallback, mark, by simp⟩⟩

theorem Inert.splitOnce?_eq_none {text : List Char} (inert : Inert text) :
    splitOnce? ['?', '?'] text = none := by
  have whole := inert.noFallback [] rfl
  rwa [List.append_nil] at whole

theorem inert_joined {separator : List Char} (inert : Inert separator) {parts : List (List Char)}
    (partsInert : ∀ part ∈ parts, Inert part) : Inert (joined separator parts) :=
  joined_of_append (inert_of_not_mem List.not_mem_nil List.not_mem_nil) Inert.append inert
    partsInert

end Text

namespace Value

/-- A text that can stand in single quotes in a call. -/
def isQuotable (content : List Char) : Bool :=
  !content.contains '\'' && !content.contains '\\' && !content.contains '~' &&
    !contains ['?', '?'] content

/-- Whether a name needs no quotes in a call: it is a word, in which dollar signs may be. -/
def isPlainName (name : String) : Bool :=
  !name.toList.isEmpty && name.toList.all Operand.continuesName

def isWritableLeaf : Value → Bool
  | text content => isQuotable content.toList
  | number (.integer value) => Number.fitsSigned value
  | number (.float _) => false
  | _ => true

/-- Whether a value can be written as an argument: its texts have no single quotes, backslashes and
operators, its numbers are integers of a signed word, and its names are different words. -/
def isWritable : Value → Bool :=
  fold isWritableLeaf (fun items => items.all id) fun fields =>
    decide (Fields.names fields).Nodup && fields.all fun field => isPlainName field.1 && field.2

def fieldText (field : String × List Char) : List Char :=
  field.1.toList ++ ':' :: ' ' :: field.2

/-- A value as it is written in a call. -/
def argumentText : Value → List Char :=
  fold Operand.literalText (fun items => '[' :: (joined ", ".toList items ++ [']']))
    fun fields => '{' :: (joined ", ".toList (fields.map fieldText) ++ ['}'])

section Parts

variable {items : List Value} {fields : Fields Value}

theorem isWritable_array :
    (array items).isWritable = true ↔ ∀ item ∈ items, item.isWritable = true := by
  simp [isWritable]

theorem isWritable_object :
    (object fields).isWritable = true ↔
      (Fields.names fields).Nodup ∧
        ∀ field ∈ fields, isPlainName field.1 = true ∧ field.2.isWritable = true := by
  simp [isWritable, Fields.names, Function.comp_def]

theorem argumentText_array :
    (array items).argumentText =
      '[' :: (joined ", ".toList (items.map argumentText) ++ [']']) := by
  simp [argumentText]

theorem argumentText_object :
    (object fields).argumentText =
      '{' :: (joined ", ".toList
        (fields.map fun field => fieldText (field.1, field.2.argumentText)) ++ ['}']) := by
  simp [argumentText, Function.comp_def]

end Parts

end Value

namespace Expression

open Value

theorem literalPairs_eq_filterMap (content : List Char) :
    literalPairs content = (literalItems content).filterMap (splitAt? ':') := by
  rw [literalPairs, literalItems]
  split <;> rfl

theorem trim_space (text : List Char) : trim (' ' :: text) = trim text :=
  trim_blank_append (show isBlankText [' '] = true from rfl) text

/-- The space in front of an item does not matter for what ignores it. -/
theorem map_literalItems {α : Type} {read : List Char → α}
    (spaced : ∀ part, read (' ' :: part) = read part) {parts : List (List Char)}
    (listable : ∀ part ∈ parts, Listable part) :
    (literalItems (joined ", ".toList parts)).map read = parts.map read := by
  cases parts with
  | nil => rfl
  | cons first others =>
    rw [literalItems, isBlankText_listed listable, splitTopLevel_listed listable]
    simp [spaced]

theorem map_parseArgument_literalItems {parts : List (List Char)}
    (listable : ∀ part ∈ parts, Listable part) :
    (literalItems (joined ", ".toList parts)).map (fun item => parseArgument (trim item)) =
      parts.map parseArgument := by
  have spaced : ∀ part, parseArgument (trim (' ' :: part)) = parseArgument (trim part) :=
    fun part => by rw [trim_space]
  rw [map_literalItems spaced listable]
  exact List.map_congr_left fun part member => by rw [(listable part member).trim_eq]

theorem filterMap_literalItems {α : Type} {read : List Char → Option α}
    (spaced : ∀ part, read (' ' :: part) = read part) {parts : List (List Char)}
    (listable : ∀ part ∈ parts, Listable part) :
    (literalItems (joined ", ".toList parts)).filterMap read = parts.filterMap read := by
  have mapped := congrArg (List.filterMap id) (map_literalItems spaced listable)
  rwa [List.filterMap_map, List.filterMap_map] at mapped

/-- A name and the argument behind the first colon. -/
def readPair (part : List Char) : Option (String × Argument) :=
  (splitAt? ':' part).map fun pair => (literalKey pair.1, parseArgument (trim pair.2))

theorem readPair_space (part : List Char) : readPair (' ' :: part) = readPair part := by
  have skipped : splitAt? ':' (' ' :: part) =
      (splitAt? ':' part).map fun pair => (' ' :: pair.1, pair.2) := by
    rw [splitAt?, if_neg (by decide)]
  rw [readPair, skipped, Option.map_map, readPair]
  refine congrArg (Option.map · _) (funext fun pair => ?_)
  simp only [Function.comp_apply, literalKey, trim_space]

theorem parseArgument_brackets (content : List Char) :
    parseArgument ('[' :: (content ++ [']'])) =
      .array ((literalItems content).map fun item => parseArgument (trim item)) := by
  have unquoted : unquote? ('[' :: (content ++ [']'])) = none := by simp [unquote?]
  have noObject : enclosed? '{' '}' ('[' :: (content ++ [']'])) = none := by simp [enclosed?]
  rw [parseArgument_unfolded, unquoted, noObject, enclosed?_brackets]

theorem parseArgument_braces (content : List Char) :
    parseArgument ('{' :: (content ++ ['}'])) =
      .object ((literalItems content).filterMap readPair) := by
  have unquoted : unquote? ('{' :: (content ++ ['}'])) = none := by simp [unquote?]
  rw [parseArgument_unfolded, unquoted, enclosed?_brackets]
  simp only [literalPairs_eq_filterMap, List.map_filterMap]
  rfl

/-- A text that stands for a value wherever a call has it as an argument. -/
structure IsArgument (value : Value) (text : List Char) : Prop where
  listable : Listable text
  inert : Inert text
  read : ∀ (renderer : Renderer) (context : Context),
    renderer.argumentValue context (parseArgument text) = value

section Arguments

variable {value : Value} {items : List Value} {fields : Fields Value}

theorem isArgument_text {content : String} (quotable : isQuotable content.toList = true) :
    IsArgument (.text content) (argumentText (.text content)) := by
  simp only [isQuotable, Bool.and_eq_true, Bool.not_eq_true', List.contains_eq_mem,
    decide_eq_false_iff_not, Text.contains, Option.isSome_eq_false_iff, Option.isNone_iff_eq_none]
    at quotable
  obtain ⟨⟨⟨clean, plain⟩, noTilde⟩, noFallback⟩ := quotable
  change IsArgument _ (quotedText '\'' content.toList)
  refine ⟨(Operand.written_quoted content clean plain).listable, ?_, ?_⟩
  · exact inert_quoted noTilde noFallback
  · intro renderer context
    rw [parseArgument_unfolded, unquote?_quotedText rfl, Renderer.argumentValue, Value.ofChars,
      String.ofList_toList]

theorem isArgument_integer {integer : Int} (fits : Number.fitsSigned integer = true) :
    IsArgument (.ofInt integer) (argumentText (.ofInt integer)) := by
  change IsArgument _ (Decimal.ofInt integer)
  have absent : ∀ character, character ≠ '-' → character.isDigit = false →
      character ∉ Decimal.ofInt integer := by
    intro character notSign notDigit member
    rcases Operand.characters_ofInt member with same | digit
    · exact notSign same
    · rw [digit] at notDigit
      cases notDigit
  refine ⟨(Operand.written_integer fits).listable, ?_, ?_⟩
  · exact inert_of_not_mem (absent '~' (by decide) rfl) (absent '?' (by decide) rfl)
  · intro renderer context
    rw [parseArgument_unfolded, Operand.unquote?_ofInt,
      enclosed?_of_not_mem (absent '{' (by decide) rfl),
      enclosed?_of_not_mem (absent '[' (by decide) rfl), Numeral.textValue?_ofInt fits]
    rfl

theorem isArgument_bool (truth : Bool) : IsArgument (.bool truth) (argumentText (.bool truth)) := by
  refine ⟨(Operand.written_bool truth).listable, ?_, ?_⟩
  · cases truth <;> exact inert_of_not_mem (by decide) (by decide)
  · intro renderer context
    cases truth <;> rw [parseArgument_unfolded] <;> rfl

theorem isArgument_null : IsArgument .null (argumentText .null) := by
  refine ⟨Operand.written_null.listable, inert_of_not_mem (by decide) (by decide), ?_⟩
  intro renderer context
  rw [parseArgument_unfolded]
  rfl

/-- A list or an object in a call, with its parts in their texts. -/
theorem listable_brackets {first last : Char} (opening : isOpening first = true)
    (closing : isClosing last = true) (firstVisible : Character.isBlank first = false)
    (lastVisible : Character.isBlank last = false) {parts : List (List Char)}
    (listable : ∀ part ∈ parts, Listable part) :
    Listable (first :: (joined ", ".toList parts ++ [last])) := by
  refine ⟨List.cons_ne_nil _ _, stops_cons firstVisible, ?_,
    whole_brackets (balanced_listed listable) opening closing⟩
  rw [List.reverse_cons, List.reverse_append]
  exact stops_cons lastVisible

theorem inert_brackets {first last : Char} (firstInert : Inert [first]) (lastInert : Inert [last])
    {parts : List (List Char)} (inert : ∀ part ∈ parts, Inert part) :
    Inert (first :: (joined ", ".toList parts ++ [last])) := by
  have separator : Inert ", ".toList := inert_of_not_mem (by decide) (by decide)
  exact firstInert.append ((inert_joined separator inert).append lastInert)

theorem isArgument_array (each : ∀ item ∈ items, IsArgument item item.argumentText) :
    IsArgument (.array items) (argumentText (.array items)) := by
  have listable : ∀ part ∈ items.map argumentText, Listable part :=
    List.forall_mem_map.2 fun item member => (each item member).listable
  have inert : ∀ part ∈ items.map argumentText, Inert part :=
    List.forall_mem_map.2 fun item member => (each item member).inert
  rw [argumentText_array]
  refine ⟨listable_brackets rfl rfl rfl rfl listable, ?_, ?_⟩
  · exact inert_brackets (inert_of_not_mem (by decide) (by decide))
      (inert_of_not_mem (by decide) (by decide)) inert
  · intro renderer context
    rw [parseArgument_brackets, map_parseArgument_literalItems listable, Renderer.argumentValue,
      Renderer.argumentValues_eq_map, List.map_map, List.map_map]
    refine congrArg Value.array (map_eq_self fun item member => ?_)
    exact (each item member).read renderer context

section Names

variable {name : String} (plain : isPlainName name = true)

include plain

theorem ne_nil_of_isPlainName : name.toList ≠ [] := by
  simp only [isPlainName, Bool.and_eq_true, Bool.not_eq_true', List.isEmpty_eq_false_iff] at plain
  exact plain.1

theorem isSolid_of_isPlainName {character : Char} (member : character ∈ name.toList) :
    Condition.isSolid character = true := by
  simp only [isPlainName, Bool.and_eq_true] at plain
  have inside := List.all_eq_true.1 plain.2 character member
  exact Operand.isSolid_of_continuesSegment (by rw [Operand.continuesSegment, inside, Bool.true_or])

theorem not_mem_of_isPlainName {character : Char}
    (outside : Operand.continuesName character = false) : character ∉ name.toList := by
  simp only [isPlainName, Bool.and_eq_true] at plain
  exact not_mem_of_all plain.2 outside

theorem not_isBlank_of_isPlainName {character : Char} (member : character ∈ name.toList) :
    Character.isBlank character = false :=
  (Condition.isSolid_iff.1 (isSolid_of_isPlainName plain member)).2.1

/-- A name without quotes is its own key. -/
theorem literalKey_of_isPlainName : literalKey name.toList = name := by
  have kept : trim name.toList = name.toList :=
    trim_of_not_blank fun _ member => not_isBlank_of_isPlainName plain member
  have unquoted : unquote? name.toList = none := by
    refine unquote?_of_not_mem fun mark isMark => not_mem_of_isPlainName plain ?_
    rcases mark_cases isMark with rfl | rfl <;> rfl
  simp only [literalKey, kept, unquoted, Option.getD_none, String.ofList_toList]

theorem readPair_fieldText {text : List Char} (listable : Listable text) :
    readPair (fieldText (name, text)) = some (name, parseArgument text) := by
  have split : splitAt? ':' (fieldText (name, text)) = some (name.toList, ' ' :: text) :=
    splitAt?_eq_some_iff.2 ⟨rfl, not_mem_of_isPlainName plain rfl⟩
  rw [readPair, split, Option.map_some, literalKey_of_isPlainName plain, trim_space,
    listable.trim_eq]

theorem listable_fieldText {text : List Char} (listable : Listable text) :
    Listable (fieldText (name, text)) := by
  have colon : fieldText (name, text) = name.toList ++ ([':', ' '] ++ text) := rfl
  have unmarked : ∀ character ∈ name.toList, isMark character = false := fun character member =>
    Condition.isMark_eq_false_of_not_mem
      (Condition.isSolid_iff.1 (isSolid_of_isPlainName plain member)).1
  have nameWhole : Whole ',' name.toList :=
    whole_of_plain unmarked (not_mem_of_isPlainName plain rfl)
  have colonWhole : Whole ',' [':', ' '] :=
    whole_of_plain (List.forall_mem_cons.2 ⟨rfl, List.forall_mem_singleton.2 rfl⟩) (by decide)
  rw [colon]
  refine ⟨by simp, stops_append (ne_nil_of_isPlainName plain)
    (fun _ member => not_isBlank_of_isPlainName plain member) _, ?_,
    nameWhole.append (colonWhole.append listable.whole)⟩
  rw [← List.append_assoc, List.reverse_append]
  exact listable.finishes.append (by simpa using listable.nonempty) _

theorem inert_fieldText {text : List Char} (inert : Inert text) :
    Inert (fieldText (name, text)) := by
  have nameInert : Inert name.toList :=
    inert_of_not_mem (not_mem_of_isPlainName plain rfl) (not_mem_of_isPlainName plain rfl)
  have colonInert : Inert [':', ' '] := inert_of_not_mem (by decide) (by decide)
  exact nameInert.append (colonInert.append inert)

end Names

theorem isArgument_object (distinct : (Fields.names fields).Nodup)
    (each : ∀ field ∈ fields,
      isPlainName field.1 = true ∧ IsArgument field.2 field.2.argumentText) :
    IsArgument (.object fields) (argumentText (.object fields)) := by
  let parts := fields.map fun field => fieldText (field.1, field.2.argumentText)
  have listable : ∀ part ∈ parts, Listable part := List.forall_mem_map.2 fun field member =>
    listable_fieldText (each field member).1 (each field member).2.listable
  have inert : ∀ part ∈ parts, Inert part := List.forall_mem_map.2 fun field member =>
    inert_fieldText (each field member).1 (each field member).2.inert
  rw [argumentText_object]
  refine ⟨listable_brackets rfl rfl rfl rfl listable, ?_, ?_⟩
  · exact inert_brackets (inert_of_not_mem (by decide) (by decide))
      (inert_of_not_mem (by decide) (by decide)) inert
  · intro renderer context
    have pairs : parts.filterMap readPair =
        fields.map fun field => (field.1, parseArgument field.2.argumentText) := by
      rw [List.filterMap_map, ← List.filterMap_eq_map]
      refine List.filterMap_congr fun field member => ?_
      exact readPair_fieldText (each field member).1 (each field member).2.listable
    have values : (fields.map fun field => (field.1, parseArgument field.2.argumentText)).map
        (fun field => (field.1, renderer.argumentValue context field.2)) = fields := by
      rw [List.map_map]
      refine map_eq_self fun field member => ?_
      simp only [Function.comp_apply, (each field member).2.read]
    rw [parseArgument_braces, filterMap_literalItems readPair_space listable, pairs,
      Renderer.argumentValue, Renderer.argumentFields_eq_map, values,
      Fields.ofPairs_of_nodup distinct]

/-- Every value that can be written is read back from its text. -/
theorem isArgument_argumentText (writable : value.isWritable = true) :
    IsArgument value value.argumentText := by
  induction value using Value.memberInduction with
  | null => exact isArgument_null
  | bool truth => exact isArgument_bool truth
  | number number =>
    cases number with
    | integer integer => exact isArgument_integer writable
    | float float => cases writable
  | text content => exact isArgument_text writable
  | array items ih =>
    rw [isWritable_array] at writable
    exact isArgument_array fun item member => ih item member (writable item member)
  | object fields ih =>
    rw [isWritable_object] at writable
    exact isArgument_object writable.1 fun field member =>
      ⟨(writable.2 field member).1, ih field member (writable.2 field member).2⟩

/-- What is shown of a call: its result, or nothing when it fails. -/
def resultText : Except CallError Value → List Char
  | .ok value => value.display
  | .error _ => []

/-- A call with its arguments as they are written. -/
def applied (name : List Char) (parts : List (List Char)) : List Char :=
  name ++ '(' :: (joined ", ".toList parts ++ [')'])

/-- A call with its arguments as literals. -/
def writtenCall (name : List Char) (arguments : List Value) : List Char :=
  name ++ '(' :: (joined ", ".toList (arguments.map argumentText) ++ [')'])

section Call

variable {name : List Char} (nonempty : name ≠ []) (word : name.all Character.isWord = true)
  {parts : List (List Char)} {arguments : List Value}

include nonempty word in
theorem callParts?_applied :
    callParts? (applied name parts) = some (name, joined ", ".toList parts) := by
  have stops : Stops Character.isWord ('(' :: (joined ", ".toList parts ++ [')'])) :=
    stops_cons rfl
  have members := List.all_eq_true.1 word
  rw [callParts?, applied, takeWhile_run members stops, dropWhile_run members stops,
    enclosed?_brackets]
  exact if_neg nonempty

include nonempty word in
theorem trim_applied : trim (applied name parts) = applied name parts := by
  apply trim_of_stops
  · exact stops_append nonempty
      (fun character member =>
        Character.not_isBlank_of_isWord (List.all_eq_true.1 word character member)) _
  · rw [applied, ← List.cons_append, ← List.append_assoc, List.reverse_concat]
    exact stops_cons rfl

include nonempty word in
/-- A call is read as one whatever its arguments are, as long as they can stand in a list and bring
no operator with them. -/
theorem parse_applied (listable : ∀ part ∈ parts, Listable part)
    (inert : ∀ part ∈ parts, Inert part) :
    parse (applied name parts) = .call (String.ofList name) (parts.map parseArgument) := by
  have nameInert : Inert name :=
    inert_of_not_mem (not_mem_of_all word rfl) (not_mem_of_all word rfl)
  have whole : Inert (applied name parts) :=
    nameInert.append (inert_brackets (inert_of_not_mem (by decide) (by decide))
      (inert_of_not_mem (by decide) (by decide)) inert)
  have parentheses : '(' ∈ applied name parts ∧ ')' ∈ applied name parts := by
    simp [applied]
  rw [parse_unfolded, trim_applied nonempty word, whole.splitOnce?_eq_none]
  simp only [whole.noTilde, parentheses, and_self, ↓reduceIte,
    callParts?_applied nonempty word, map_parseArgument_literalItems listable]

include nonempty word in
theorem parse_writtenCall (writable : ∀ argument ∈ arguments, argument.isWritable = true) :
    parse (writtenCall name arguments) =
      .call (String.ofList name)
        (arguments.map fun argument => parseArgument argument.argumentText) := by
  have listable : ∀ part ∈ arguments.map argumentText, Listable part :=
    List.forall_mem_map.2 fun argument member =>
      (isArgument_argumentText (writable argument member)).listable
  have inert : ∀ part ∈ arguments.map argumentText, Inert part :=
    List.forall_mem_map.2 fun argument member =>
      (isArgument_argumentText (writable argument member)).inert
  refine (parse_applied nonempty word listable inert).trans ?_
  rw [List.map_map]
  rfl

include nonempty word in
/-- A call of a known function with literals calls it with the values that they write. -/
theorem evaluate_writtenCall (writable : ∀ argument ∈ arguments, argument.isWritable = true)
    (renderer : Renderer) (context : Context) {function : Callable}
    (known : renderer.function? context (String.ofList name) = some function) :
    renderer.evaluate (writtenCall name arguments) context = resultText (function arguments) := by
  have values : (arguments.map fun argument => parseArgument argument.argumentText).map
      (renderer.argumentValue context) = arguments := by
    rw [List.map_map]
    refine map_eq_self fun argument member => ?_
    exact (isArgument_argumentText (writable argument member)).read renderer context
  rw [Renderer.evaluate, parse_writtenCall nonempty word writable, Renderer.evaluateTree,
    renderer.argumentValues_eq_map, values, Renderer.callText, known]
  rfl

end Call

/-- A function that answers what it is called with. -/
def echo : Callable :=
  fun arguments => .ok (.array arguments)

theorem evaluate_writtenCall_echo :
    let name := "echo".toList
    let arguments := [.text "a, b: {c} (\"d\")", .array [.ofInt (-5), .null, .text "]"],
      .object [("x_1", .bool true), ("y", .object []), ("z", .array [])]]
    let context : Context := { base := [], functions := [("echo", echo)] }
    name ≠ [] ∧ name.all Character.isWord = true ∧
      (∀ argument ∈ arguments, argument.isWritable = true) ∧
      ({} : Renderer).function? context (String.ofList name) = some echo ∧
      writtenCall name arguments =
        "echo('a, b: {c} (\"d\")', [-5, null, ']'], {x_1: true, y: {}, z: []})".toList ∧
      ({} : Renderer).evaluate (writtenCall name arguments) context =
        (Value.array arguments).display := by
  intro name arguments context
  have nonempty : name ≠ [] := by decide
  have word : name.all Character.isWord = true := by decide +kernel
  have writable : ∀ argument ∈ arguments, argument.isWritable = true := by decide +kernel
  have known : ({} : Renderer).function? context (String.ofList name) = some echo := rfl
  exact ⟨nonempty, word, writable, known, by decide +kernel,
    evaluate_writtenCall nonempty word writable {} context known⟩

end Arguments

end Expression

end Intake
