import Intake.Proofs.Markup.Precedence

/-!
# Comparisons with a quoted text

The operator of a comparison is looked for without regard to quotation marks, one operator after the
other in a fixed order. So a quoted text is compared as it was written unless an operator that is
looked for earlier stands in it. In that case the first such operator cuts the quoted text in two,
and the pieces on either side of it are compared instead.
-/

namespace Intake

namespace Processor

open Character Text Markup

/-- A character of the operators. -/
def isOperatorCharacter (character : Char) : Bool :=
  character == '=' || character == '!' || character == '>' || character == '<'

/-- A comparison of what stands on its left side with a text in single quotes. -/
structure QuotedComparison where
  left : List Char
  before : List Char
  operator : Operator
  after : List Char
  content : List Char
  left_nonempty : left ≠ []
  left_inside : IsInside left
  left_plain : ∀ character ∈ left, isOperatorCharacter character = false
  left_double : '"' ∉ left
  left_single : '\'' ∉ left
  before_gap : IsGap before
  after_gap : IsGap after
  content_nonempty : content ≠ []
  content_line : '\n' ∉ content
  content_unclosed : Unclosed content
  content_unquoted : '"' ∉ content
  /-- The operators that are looked for before this one. -/
  earlier : List Operator
  later : List Operator
  placed : operators = earlier ++ operator :: later

/-- The sides of an operator in a quoted text. The operator is passed over where an equals sign
follows it. -/
def Operator.cut? (operator : Operator) (content : List Char) : Option (List Char × List Char) :=
  (splitOnce? operator.text content).filter fun sides => (trimStart sides.2).head? ≠ some '='

namespace QuotedComparison

variable (comparison : QuotedComparison)

/-- The comparison up to its quoted text. -/
def lead : List Char :=
  comparison.left ++ (comparison.before ++ (comparison.operator.text ++ comparison.after))

def quoted : List Char :=
  '\'' :: (comparison.content ++ ['\''])

def text : List Char :=
  comparison.lead ++ comparison.quoted

/-- The first of the earlier operators that cuts the quoted text, with the two sides. -/
def firstCut? : Option (Operator × List Char × List Char) :=
  comparison.earlier.findSome? fun operator =>
    (operator.cut? comparison.content).map fun sides => (operator, sides)

/-- What stands left of an operator within the quotes. -/
def leftOf (before : List Char) : List Char :=
  trim (comparison.lead ++ '\'' :: before)

end QuotedComparison

/-- What stands right of an operator within the quotes. -/
def rightOf (after : List Char) : List Char :=
  trimStart after ++ ['\'']

theorem trim_closing_quote (after : List Char) : trim (after ++ ['\'']) = rightOf after := by
  have ends : Stops isBlank (trimStart after ++ ['\'']).reverse := by
    rw [List.reverse_append]
    exact stops_cons (by decide)
  cases written : isBlankText after with
  | true =>
    rw [rightOf, trimStart_of_blank written, trim_blank_append written]
    rfl
  | false => rw [trim, trimStart_append written, trimEnd_of_stops ends, rightOf]

section Operators

theorem text_of_mem_operators {operator : Operator} (member : operator ∈ operators) :
    operator.text ≠ [] ∧ ∀ character ∈ operator.text, isOperatorCharacter character = true := by
  have each : (operators.map Operator.text).all (fun text =>
      text ≠ [] && text.all isOperatorCharacter) = true := by decide
  simpa using List.all_eq_true.1 each operator.text (List.mem_map_of_mem member)

/-- No operator stands in one that is looked for later. -/
theorem pairwise_operators :
    operators.Pairwise fun earlier later => splitOnce? earlier.text later.text = none := by
  have texts : (operators.map Operator.text).Pairwise fun earlier later =>
      splitOnce? earlier later = none := by decide
  exact List.pairwise_map.1 texts

theorem not_mem_operator {operator : Operator} (member : operator ∈ operators) {character : Char}
    (other : isOperatorCharacter character = false) : character ∉ operator.text := by
  intro inside
  rw [(text_of_mem_operators member).2 character inside] at other
  cases other

theorem isOperatorCharacter_iff {character : Char} :
    isOperatorCharacter character = true ↔
      character = '=' ∨ character = '!' ∨ character = '>' ∨ character = '<' := by
  simp [isOperatorCharacter, or_assoc]

theorem not_isOperatorCharacter_of_isBlank {character : Char} (blank : isBlank character = true) :
    isOperatorCharacter character = false := by
  rw [← Bool.not_eq_true, isOperatorCharacter_iff]
  rintro (rfl | rfl | rfl | rfl) <;> exact absurd blank (by decide)

theorem not_isOperatorCharacter_of_mem_path {path : List Char}
    (plain : path.all isPathCharacter = true) :
    ∀ character ∈ path, isOperatorCharacter character = false := by
  intro character inPath
  have isPlain := List.all_eq_true.1 plain character inPath
  rw [← Bool.not_eq_true, isOperatorCharacter_iff]
  rintro (rfl | rfl | rfl | rfl) <;> exact absurd isPlain (by decide)

theorem splitOnce?_operator_of_plain {operator : Operator} (member : operator ∈ operators)
    {front : List Char} (plain : ∀ character ∈ front, isOperatorCharacter character = false)
    (rest : List Char) :
    splitOnce? operator.text (front ++ rest) =
      (splitOnce? operator.text rest).map fun parts => (front ++ parts.1, parts.2) := by
  obtain ⟨nonempty, marks⟩ := text_of_mem_operators member
  obtain ⟨first, others, same⟩ := List.exists_cons_of_ne_nil nonempty
  rw [same] at marks ⊢
  apply splitOnce?_append_front
  intro inside
  have mark := marks first List.mem_cons_self
  rw [plain first inside] at mark
  cases mark

end Operators

namespace QuotedComparison

variable (comparison : QuotedComparison)

theorem member : comparison.operator ∈ operators := by
  rw [comparison.placed]
  simp

theorem earlier_member {operator : Operator} (isEarlier : operator ∈ comparison.earlier) :
    operator ∈ operators ∧ splitOnce? operator.text comparison.operator.text = none := by
  have pairwise := pairwise_operators
  rw [comparison.placed] at pairwise ⊢
  refine ⟨List.mem_append_left _ isEarlier, ?_⟩
  exact (List.pairwise_append.1 pairwise).2.2 operator isEarlier _ List.mem_cons_self

theorem plain_front {character : Char} (inside : character ∈ comparison.left ++ comparison.before) :
    isOperatorCharacter character = false := by
  rcases List.mem_append.1 inside with inLeft | inGap
  · exact comparison.left_plain character inLeft
  · exact not_isOperatorCharacter_of_isBlank
      (List.all_eq_true.1 comparison.before_gap.blank character inGap)

theorem plain_after {character : Char} (inside : character ∈ comparison.after) :
    isOperatorCharacter character = false :=
  not_isOperatorCharacter_of_isBlank
    (List.all_eq_true.1 comparison.after_gap.blank character inside)

/-- Outside the quotes an earlier operator does not occur. -/
theorem splitOnce?_lead {operator : Operator} (isEarlier : operator ∈ comparison.earlier) :
    splitOnce? operator.text comparison.lead = none := by
  obtain ⟨isOperator, apart⟩ := comparison.earlier_member isEarlier
  have behind : splitOnce? operator.text (comparison.operator.text ++ comparison.after) = none := by
    cases gap : comparison.after with
    | nil => rw [List.append_nil, apart]
    | cons blank others =>
      have plain : ∀ character ∈ blank :: others, isOperatorCharacter character = false :=
        fun character inside => comparison.plain_after (gap ▸ inside)
      have none : splitOnce? operator.text others = none := by
        have split := splitOnce?_operator_of_plain isOperator
          (fun character inside => plain character (List.mem_cons_of_mem _ inside)) []
        have empty : splitOnce? operator.text [] = none := by
          simp [splitOnce?, (text_of_mem_operators isOperator).1]
        rwa [List.append_nil, empty, Option.map_none] at split
      rw [splitOnce?_append_barrier (not_mem_operator isOperator (plain blank List.mem_cons_self))
        (text_of_mem_operators isOperator).1, apart, none]
      rfl
  rw [lead, ← List.append_assoc,
    splitOnce?_operator_of_plain isOperator (fun _ inside => comparison.plain_front inside),
    behind, Option.map_none]

/-- An earlier operator is found exactly where it stands in the quoted text. -/
theorem splitOnce?_text {operator : Operator} (isEarlier : operator ∈ comparison.earlier) :
    splitOnce? operator.text comparison.text =
      (splitOnce? operator.text comparison.content).map fun sides =>
        (comparison.lead ++ '\'' :: sides.1, sides.2 ++ ['\'']) := by
  obtain ⟨isOperator, -⟩ := comparison.earlier_member isEarlier
  have nonempty := (text_of_mem_operators isOperator).1
  have foreign : '\'' ∉ operator.text := not_mem_operator isOperator (by decide)
  have empty : splitOnce? operator.text [] = none := by simp [splitOnce?, nonempty]
  rw [text, quoted, splitOnce?_append_barrier foreign nonempty,
    comparison.splitOnce?_lead isEarlier, splitOnce?_append_barrier foreign nonempty, empty]
  simp only [Option.map_none, Option.none_or, Option.or_none, Option.map_map]
  rfl

theorem leftOf_ne_nil (before : List Char) : comparison.leftOf before ≠ [] := by
  intro empty
  have blank := isBlankText_of_trim_eq_nil empty
  rw [isBlankText_append, Bool.and_eq_true] at blank
  cases blank.2

theorem sidesOf?_earlier {operator : Operator} (isEarlier : operator ∈ comparison.earlier) :
    sidesOf? operator.text comparison.text =
      (operator.cut? comparison.content).map fun sides =>
        (comparison.leftOf sides.1, rightOf sides.2) := by
  rw [sidesOf?, comparison.splitOnce?_text isEarlier, Operator.cut?]
  cases splitOnce? operator.text comparison.content with
  | none => rfl
  | some sides =>
    obtain ⟨before, after⟩ := sides
    have left : trim (comparison.lead ++ '\'' :: before) ≠ [] := comparison.leftOf_ne_nil before
    have right : rightOf after ≠ [] := by simp [rightOf]
    have first : (rightOf after).head? = some '=' ↔ (trimStart after).head? = some '=' := by
      cases start : trimStart after <;> simp [rightOf, start]
    simp only [Option.map_some, trim_closing_quote, left, right, first, false_or,
      Option.filter_some]
    split <;> simp_all [leftOf]

theorem trim_quoted : trim comparison.quoted = comparison.quoted := by
  have ends : Stops isBlank comparison.quoted.reverse := by
    rw [quoted, ← List.cons_append, List.reverse_append]
    exact stops_cons (by decide)
  exact trim_of_stops (stops_cons (by decide)) ends

/-- The operator itself is found in front of the quotes. -/
theorem sidesOf?_operator :
    sidesOf? comparison.operator.text comparison.text =
      some (comparison.left, comparison.quoted) := by
  obtain ⟨nonempty, marks⟩ := text_of_mem_operators comparison.member
  obtain ⟨first, others, same⟩ := List.exists_cons_of_ne_nil nonempty
  have absent : first ∉ comparison.left ++ comparison.before := by
    intro inside
    have mark := marks first (same ▸ List.mem_cons_self)
    rw [comparison.plain_front inside] at mark
    cases mark
  have split : splitOnce? comparison.operator.text comparison.text =
      some (comparison.left ++ comparison.before, comparison.after ++ comparison.quoted) := by
    have whole : comparison.text = (comparison.left ++ comparison.before) ++
        (comparison.operator.text ++ (comparison.after ++ comparison.quoted)) := by
      simp [text, lead]
    rw [whole, same]
    exact splitOnce?_append_of_not_mem absent others _
  have left : trim (comparison.left ++ comparison.before) = comparison.left := by
    rw [trim_append_blank comparison.before_gap.blank,
      trim_of_stops comparison.left_inside.starts comparison.left_inside.ends]
  have right : trim (comparison.after ++ comparison.quoted) = comparison.quoted := by
    rw [trim_blank_append comparison.after_gap.blank, comparison.trim_quoted]
  rw [sidesOf?, split]
  simp only [left, right]
  rw [if_neg]
  simp [comparison.left_nonempty, quoted]

/-- The comparison that is read: the one that was written, unless an earlier operator cuts the
quoted text. -/
theorem comparison?_text :
    comparison? comparison.text =
      (comparison.firstCut?.map fun cut =>
        (cut.1, comparison.leftOf cut.2.1, rightOf cut.2.2)).or
        (some (comparison.operator, comparison.left, comparison.quoted)) := by
  have earlier : (comparison.earlier.findSome? fun operator =>
      (sidesOf? operator.text comparison.text).map fun sides => (operator, sides)) =
        comparison.firstCut?.map fun cut =>
          (cut.1, comparison.leftOf cut.2.1, rightOf cut.2.2) := by
    rw [firstCut?, List.map_findSome?, ← List.head?_filterMap, ← List.head?_filterMap]
    congr 1
    apply List.filterMap_congr
    intro operator isEarlier
    rw [comparison.sidesOf?_earlier isEarlier, Function.comp_apply, Option.map_map, Option.map_map]
    rfl
  rw [comparison?, comparison.placed, List.findSome?_append, earlier, List.findSome?_cons,
    comparison.sidesOf?_operator]
  rfl

/-- A quoted text is itself on the right side of a comparison. -/
theorem resolveValue_quoted (context : Value) :
    resolveValue context comparison.quoted = .ofChars comparison.content := by
  have noNumber : Numeral.textValue? comparison.quoted = none :=
    Numeral.textValue?_of_first (by decide) (by decide) (by decide) comparison.trim_quoted
  have inside : looselyQuoted? comparison.quoted = some comparison.content := by
    simp [quoted, looselyQuoted?, comparison.content_nonempty, comparison.content_line]
  rw [resolveValue, noNumber, inside]

theorem conditionHolds_text (context : Value) :
    conditionHolds context comparison.text =
      match comparison.firstCut? with
      | none =>
        comparison.operator.holds (resolveValue context comparison.left)
          (.ofChars comparison.content)
      | some (operator, before, after) =>
        operator.holds (resolveValue context (comparison.leftOf before))
          (resolveValue context (rightOf after)) := by
  rw [conditionHolds, comparison.comparison?_text]
  cases comparison.firstCut? with
  | none => simp only [Option.map_none, Option.none_or, resolveValue_quoted]
  | some cut => rfl

theorem text_ne_nil : comparison.text ≠ [] := by
  simp [text, lead, comparison.left_nonempty]

theorem not_mem_operatorText {character : Char} (other : isOperatorCharacter character = false) :
    character ∉ comparison.operator.text :=
  not_mem_operator comparison.member other

/-- A comparison is read as a whole from a block. -/
theorem isInside_text : IsInside comparison.text where
  line := by
    simp [text, lead, quoted, comparison.left_inside.line, comparison.before_gap.line,
      comparison.after_gap.line, comparison.content_line,
      comparison.not_mem_operatorText (by decide : isOperatorCharacter '\n' = false)]
  unclosed := by
    have before : '}' ∉ comparison.before := not_mem_of_all comparison.before_gap.blank (by decide)
    have after : '}' ∉ comparison.after := not_mem_of_all comparison.after_gap.blank (by decide)
    have mark := comparison.not_mem_operatorText (by decide : isOperatorCharacter '}' = false)
    have middle : '}' ∉ comparison.before ++ (comparison.operator.text ++
        (comparison.after ++ ['\''])) := by
      simp [before, after, mark]
    have content : Unclosed (comparison.content ++ ['\'']) :=
      comparison.content_unclosed.append (unclosed_of_not_mem (by decide))
        (Or.inr (stops_cons (by decide)))
    have behind := (unclosed_of_not_mem middle).append content (Or.inl (by simp [Stops]))
    have whole := comparison.left_inside.unclosed.append behind
      (Or.inl comparison.left_inside.isOpen)
    simpa [text, lead, quoted] using whole
  starts := by
    rw [text, lead, List.append_assoc]
    exact comparison.left_inside.starts.append comparison.left_nonempty _
  ends := by simp [text, quoted, Stops]; decide
  isOpen := by simp [text, quoted, Stops]

theorem unquoted_text : '"' ∉ comparison.text := by
  have before : '"' ∉ comparison.before := not_mem_of_all comparison.before_gap.blank (by decide)
  have after : '"' ∉ comparison.after := not_mem_of_all comparison.after_gap.blank (by decide)
  simp [text, lead, quoted, comparison.left_double, before, after, comparison.content_unquoted,
    comparison.not_mem_operatorText (by decide : isOperatorCharacter '"' = false)]

/-- A path that is neither a numeral nor a boolean stands on the left side for the scalar that the
text at the path writes. -/
theorem resolveValue_left (context : Value) (noNumeral : Numeral.isNumeric comparison.left = false)
    (noTrue : comparison.left ≠ "true".toList) (noFalse : comparison.left ≠ "false".toList) :
    resolveValue context comparison.left =
      Value.coerce (resolvePath context comparison.left) := by
  rw [resolveValue_of_unquoted context (Numeral.textValue?_of_not_numeric noNumeral)
    comparison.left_double comparison.left_single, if_neg noTrue, if_neg noFalse]

end QuotedComparison

/-- A choice by a comparison with a quoted text selects by its operator, unless an operator that is
looked for earlier cuts the quoted text: then it selects by the first such operator, between the
texts on either side of it. -/
theorem process_quotedComparison (processor : Processor) (context : Value)
    (comparison : QuotedComparison) {before after : List Char}
    (beforeBlank : isBlankText before = true) (afterBlank : isBlankText after = true)
    (first second : Branch) (rest : List Char) :
    let shown := processor.process
      (blockText before (choiceText comparison.text first second) after ++ rest) context
    let behind := processor.process rest context
    (comparison.firstCut? = none →
        shown = (if comparison.operator.holds (resolveValue context comparison.left)
          (.ofChars comparison.content) then first.text else second.text) ++ behind) ∧
      (∀ operator left right, comparison.firstCut? = some (operator, left, right) →
        shown = (if operator.holds (resolveValue context (comparison.leftOf left))
          (resolveValue context (rightOf right)) then first.text else second.text) ++ behind) ∧
      (Numeral.isNumeric comparison.left = false → comparison.left ≠ "true".toList →
        comparison.left ≠ "false".toList →
        resolveValue context comparison.left =
          Value.coerce (resolvePath context comparison.left)) := by
  intro shown behind
  have selected : shown = (if conditionHolds context comparison.text then first.text
      else second.text) ++ behind :=
    processor.process_choice context beforeBlank comparison.text_ne_nil comparison.isInside_text
      comparison.unquoted_text afterBlank first second rest
  refine ⟨?_, ?_, comparison.resolveValue_left context⟩
  · intro uncut
    rw [selected, comparison.conditionHolds_text, uncut]
  · intro operator left right cut
    rw [selected, comparison.conditionHolds_text, cut]

/-- A comparison whose quoted text has a word connective and operators that are looked for later. -/
def rankComparison : QuotedComparison where
  left := "user.rank".toList
  before := ['\t', ' ']
  operator := ⟨['>', '='], fun left right =>
    left.looseCompare right == some .gt || left.looseCompare right == some .eq⟩
  after := []
  content := "b > a or c <= d".toList
  left_nonempty := by decide
  left_inside := (isPart_path (by decide) (by decide)).isInside
  left_plain := not_isOperatorCharacter_of_mem_path (by decide)
  left_double := by decide
  left_single := by decide
  before_gap := ⟨by decide, by decide⟩
  after_gap := ⟨by decide, by decide⟩
  content_nonempty := by decide
  content_line := by decide
  content_unclosed := unclosed_of_not_mem (by decide)
  content_unquoted := by decide
  earlier := operators.take 2
  later := operators.drop 3
  placed := rfl

theorem process_quotedComparison_rank :
    let context : Value := .object [("user", .object [("rank", .text "c")])]
    let written := "user.rank\t >='b > a or c <= d' ? \"upper\" : \"lower\"".toList
    isBlankText [' '] = true ∧ isBlankText [] = true ∧ rankComparison.firstCut? = none ∧
      Numeral.isNumeric rankComparison.left = false ∧
      Processor.process {} (blockText [' '] written []) context = "upper".toList := by
  intro context written
  have uncut : rankComparison.firstCut? = none := by decide
  have noNumeral : Numeral.isNumeric rankComparison.left = false := by decide
  obtain ⟨selects, -, path⟩ := process_quotedComparison {} context rankComparison
    (by decide : isBlankText [' '] = true) (by decide : isBlankText [] = true)
    (plainBranch "upper".toList (by decide) (by decide) (by decide))
    (plainBranch "lower".toList (by decide) (by decide) (by decide)) []
  have value : resolveValue context rankComparison.left = .text "c" :=
    (path noNumeral (by decide) (by decide)).trans (by decide +kernel)
  have shown := selects uncut
  rw [value, process_nil] at shown
  exact ⟨by decide, by decide, uncut, noNumeral, shown.trans (by decide +kernel)⟩

/-- The operator in the quotes is found first, and neither piece of the quoted text leads
anywhere. -/
theorem operators_in_quotes_cut :
    let context : Value := .object [("state", .text "a==b"), ("rank", .text "a")]
    let unequal := "state != 'a==b' ? \"other\" : \"same\"".toList
    let less := "rank < 'b>a' ? \"lower\" : \"upper\"".toList
    Value.looseEq (.text "a==b") (.text "a==b") = true ∧
      Processor.process {} (blockText [' '] unequal [' ']) context = "other".toList ∧
      Value.looseCompare (.text "a") (.text "b>a") = some .lt ∧
      Processor.process {} (blockText [' '] less [' ']) context = "upper".toList := by
  decide +kernel

end Processor

end Intake
