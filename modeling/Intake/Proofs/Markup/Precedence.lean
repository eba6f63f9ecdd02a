import Intake.Proofs.Markup.Connective
import Intake.Proofs.Number.Digits
import Mathlib.Logic.Function.Iterate

/-!
# What a connection by words comes to

A connection holds when all literals of some group are true, and a literal is true as often negated
as it has exclamation marks. A block shows it as `1` or as nothing, and a choice with the same text
as its condition selects by it.
-/

namespace Intake

namespace Markup

open Character Text

/-- What the path of a literal stands for: a boolean, or the scalar that the text at the path
writes. -/
def Literal.value (context : Value) (literal : Literal) : Value :=
  if literal.path = "true".toList then .bool true
  else if literal.path = "false".toList then .bool false
  else Value.coerce (Processor.resolvePath context literal.path)

/-- Whether a literal is true: each of its exclamation marks negates. -/
def Literal.holds (context : Value) (literal : Literal) : Bool :=
  not^[literal.negations] (literal.value context).isTruthy

/-- Whether all literals of a group are true. -/
def Group.holds (context : Value) (group : Group) : Bool :=
  group.members.all (Literal.holds context)

/-- Whether some group of a connection holds. -/
def Connection.holds (context : Value) (connection : Connection) : Bool :=
  connection.members.any (Group.holds context)

theorem not_iterate (count : Nat) (value : Bool) :
    not^[count] value = (value != (count % 2 == 1)) := by
  induction count with
  | zero => simp
  | succ count ih =>
    rw [Function.iterate_succ_apply', ih]
    rcases Nat.mod_two_eq_zero_or_one count with even | odd
    · simp [Nat.add_mod, even]
    · simp [Nat.add_mod, odd]

namespace Literal

variable (literal : Literal)

theorem not_mem_path {character : Char} (other : isPathCharacter character = false) :
    character ∉ literal.path :=
  not_mem_of_all literal.plain other

theorem dropWhile_text : literal.text.dropWhile (· == '!') = literal.path := by
  apply dropWhile_run
  · intro character member
    rw [(List.mem_replicate.1 member).2]
    rfl
  · apply stops_of_forall
    intro character member
    rw [beq_eq_false_iff_ne]
    rintro rfl
    exact literal.not_mem_path (by decide) member

end Literal

end Markup

namespace Processor

open Character Text Markup

theorem looselyQuoted?_of_not_mem {text : List Char} (double : '"' ∉ text)
    (single : '\'' ∉ text) : looselyQuoted? text = none := by
  cases text with
  | nil => rfl
  | cons first rest =>
    have unquoted : ¬ (first = '"' ∨ first = '\'') := by
      rintro (rfl | rfl)
      · exact double List.mem_cons_self
      · exact single List.mem_cons_self
    rw [looselyQuoted?]
    split
    · exact if_neg fun quoted => unquoted quoted.1
    · rfl

/-- A text that is neither a numeral nor quoted is a boolean or a path. -/
theorem resolveValue_of_unquoted (context : Value) {text : List Char}
    (noNumber : Numeral.textValue? text = none) (double : '"' ∉ text) (single : '\'' ∉ text) :
    resolveValue context text =
      if text = "true".toList then .bool true
      else if text = "false".toList then .bool false
      else Value.coerce (resolvePath context text) := by
  rw [resolveValue, noNumber, looselyQuoted?_of_not_mem double single]

theorem resolveValue_path (context : Value) (literal : Literal) :
    resolveValue context literal.path = literal.value context := by
  have noNumber := Numeral.textValue?_of_not_numeric literal.noNumeral
  rw [resolveValue_of_unquoted context noNumber (literal.not_mem_path (by decide))
    (literal.not_mem_path (by decide)), Literal.value]

theorem operandHolds_text (context : Value) (literal : Literal) :
    operandHolds context literal.text = literal.holds context := by
  have marks : literal.text.length - literal.path.length = literal.negations := by
    simp [Literal.text]
  have trimmed : trim literal.path = literal.path :=
    trim_of_not_blank fun _ member => literal.not_isBlank_of_mem_path member
  rw [operandHolds, literal.dropWhile_text]
  simp only [marks, trimmed]
  rw [resolveValue_path, Literal.holds, not_iterate]

theorem connectionHolds_text (context : Value) (connection : Connection) :
    connectionHolds context connection.text = connection.holds context := by
  have literals : operandHolds context ∘ Literal.text = Literal.holds context := by
    funext literal
    rw [Function.comp_apply, operandHolds_text]
  have groups : ((fun operands => operands.all (operandHolds context)) ∘
      fun group : Group => group.members.map Literal.text) = Group.holds context := by
    funext group
    rw [Function.comp_apply, List.all_map, literals, Group.holds]
  rw [connectionHolds, connection.operands_text, List.any_map, groups, Connection.holds]

/-- A condition without the characters of the operators compares nothing. -/
theorem comparison?_of_not_mem {condition : List Char} (equal : '=' ∉ condition)
    (greater : '>' ∉ condition) (less : '<' ∉ condition) : comparison? condition = none := by
  have absent : ∀ operator ∈ operators, splitOnce? operator.text condition = none := by
    intro operator member
    have marked : '=' ∈ operator.text ∨ '>' ∈ operator.text ∨ '<' ∈ operator.text := by
      simp only [operators, List.mem_cons, List.not_mem_nil, or_false] at member
      rcases member with rfl | rfl | rfl | rfl | rfl | rfl <;> decide
    cases found : splitOnce? operator.text condition with
    | none => rfl
    | some sides =>
      have inside : operator.text ⊆ condition := by
        intro character inText
        rw [eq_of_splitOnce? found]
        simp [inText]
      rcases marked with mark | mark | mark
      · exact absurd (inside mark) equal
      · exact absurd (inside mark) greater
      · exact absurd (inside mark) less
  rw [comparison?, List.findSome?_eq_none_iff]
  intro operator member
  rw [sidesOf?, absent operator member]
  rfl

section Connections

variable {connection : Connection} (several : 2 ≤ connection.literals.length)

include several

theorem conditionHolds_text (context : Value) :
    conditionHolds context connection.text = connection.holds context := by
  have isPart := connection.isPart_text
  rw [conditionHolds, comparison?_of_not_mem (isPart.not_mem (by decide))
    (isPart.not_mem (by decide)) (isPart.not_mem (by decide))]
  simp only [Connection.hasConnective_text several, if_true, connectionHolds_text]

theorem expressionText_text (processor : Processor) (context : Value) :
    processor.expressionText context connection.text =
      if connection.holds context then ['1'] else [] := by
  have isPart := connection.isPart_text
  have noChoice : '?' ∉ connection.text := isPart.not_mem (by decide)
  have noFilter : '|' ∉ connection.text := isPart.not_mem (by decide)
  rw [expressionText, if_neg noChoice, if_neg noFilter,
    if_pos (Connection.hasConnective_text several), connectionHolds_text]
  cases connection.holds context <;> rfl

/-- A connection of two literals or more shows as `1` in a block if all literals of some group are
true, and as nothing otherwise. As the condition of a choice it selects in the same way. -/
theorem process_connection (processor : Processor) (context : Value) {before after : List Char}
    (beforeBlank : isBlankText before = true) (afterBlank : isBlankText after = true)
    (rest : List Char) :
    processor.process (blockText before connection.text after ++ rest) context =
        (if connection.holds context then ['1'] else []) ++ processor.process rest context ∧
      ∀ first second : Branch,
        processor.process
            (blockText before (choiceText connection.text first second) after ++ rest) context =
          (if connection.holds context then first.text else second.text) ++
            processor.process rest context := by
  have isPart := connection.isPart_text
  constructor
  · rw [processor.process_block context beforeBlank isPart.isInside afterBlank,
      expressionText_text several]
  · intro first second
    rw [processor.process_choice context beforeBlank isPart.nonempty isPart.isInside
      (isPart.not_mem (by decide)) afterBlank, conditionHolds_text several]

end Connections

def orderConnection : Connection :=
  ⟨⟨⟨2, "order".toList, by decide, by decide, by decide, by decide, by decide⟩, []⟩,
    [(⟨[' '], "OR".toList, ['\t'], by decide, ⟨by decide, by decide⟩, ⟨by decide, by decide⟩,
        by decide, by decide⟩,
      ⟨⟨0, "android".toList, by decide, by decide, by decide, by decide, by decide⟩,
        [(⟨[' ', ' '], "And".toList, [' '], by decide, ⟨by decide, by decide⟩,
            ⟨by decide, by decide⟩, by decide, by decide⟩,
          ⟨1, "true".toList, by decide, by decide, by decide, by decide, by decide⟩)]⟩)]⟩

def plainBranch (text : List Char) (unquoted : '"' ∉ text) (line : '\n' ∉ text)
    (unclosed : '}' ∉ text) : Branch :=
  ⟨[' '], [' '], text, ⟨by decide, by decide⟩, ⟨by decide, by decide⟩, unquoted, line,
    unclosed_of_not_mem unclosed⟩

/-- If `or` bound tighter than `and`, the last literal would decide here. -/
theorem process_connection_order :
    let context : Value := .object [("order", .text "a"), ("android", .bool true)]
    let written := "!!order OR\tandroid  And !true".toList
    2 ≤ orderConnection.literals.length ∧ orderConnection.holds context = true ∧
      Processor.process {} (blockText [' '] written []) context = "1".toList ∧
      Processor.process {} (blockText [' '] (written ++ " ? \"some\" : \"none\"".toList) [])
        context = "some".toList := by
  intro context written
  have several : 2 ≤ orderConnection.literals.length := by decide
  have holds : orderConnection.holds context = true := by decide
  have shown := @process_connection _ several {} context [' '] [] (by decide) (by decide) []
  have nothing : Processor.process {} [] context = [] := by
    rw [process, segments]
    rfl
  rw [holds, nothing] at shown
  refine ⟨several, holds, shown.1, ?_⟩
  exact shown.2 (plainBranch "some".toList (by decide) (by decide) (by decide))
    (plainBranch "none".toList (by decide) (by decide) (by decide))

end Processor

end Intake
