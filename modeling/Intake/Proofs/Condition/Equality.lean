import Intake.Proofs.Condition.Memory
import Intake.Proofs.Condition.Printing
import Intake.Proofs.Value.Retyping

/-!
# Stored texts and quoted texts

A condition that compares a path with a quoted text sees the stored text as the scalar that it
writes. Whether the two are equal is the same as for the texts themselves, except that the words
of the booleans are judged by what counts as true, and that numerals beyond the finite numbers are
lost.
-/

namespace Intake

namespace Condition

/-- A comparison is decided by the values of its operands. -/
theorem textEvaluates_compare {left right : Operand} {leftText rightText : List Char}
    (leftWritten : left.Written leftText) (rightWritten : right.Written rightText)
    (operator : Comparison) (renderer : Renderer) (context : Context) :
    textEvaluates renderer (leftText ++ ' ' :: (operator.text.toList ++ ' ' :: rightText))
        context =
      compareHolds operator (resolve renderer context left) (resolve renderer context right) := by
  have lexed := tokens?_compare leftWritten rightWritten operator
  have derives := Derives.compare 0 leftText operator rightText
  rw [leftWritten.parsed, rightWritten.parsed] at derives
  have writes := derives.writes.mono (Nat.zero_le maxNesting)
  rw [(evaluate_of_writes lexed writes renderer context).2, treeHolds]

/-- A path, an operator and a text in single quotes. -/
def quotedTest (path : List Char) (operator : Comparison) (content : String) : List Char :=
  path ++ ' ' :: (operator.text.toList ++ ' ' :: '\'' :: (content.toList ++ ['\'']))

section Stored

variable {path : List Char} {context : Context} {stored : String}

/-- A path that holds a text is compared as what that text turns into. -/
theorem evaluate_quotedTest_eq (isPath : Operand.isPath path = true)
    (notWord : path ∉ Operand.literalWords) (held : context.lookup path = some (.text stored))
    (renderer : Renderer) (calls : List (List Char × Context)) (operator : Comparison)
    {content : String} (clean : '\'' ∉ content.toList) (plain : '\\' ∉ content.toList) :
    ((Evaluator.afterAll { renderer } calls).evaluate
        (quotedTest path operator content) context).1 =
      compareHolds operator (Value.coerce stored.toList) (.text content) := by
  have compared := textEvaluates_compare (Operand.written_path isPath notWord)
    (Operand.written_quoted content clean plain) operator renderer context
  rw [resolve, resolve, held] at compared
  rw [Evaluator.evaluate_afterAll]
  exact compared

/-- A stored text that stays what it is, or turns into a finite number, is compared with a quoted
text as one text with another. The words of the booleans are compared by what counts as true. -/
theorem evaluate_quotedTest (isPath : Operand.isPath path = true)
    (notWord : path ∉ Operand.literalWords) (held : context.lookup path = some (.text stored))
    (renderer : Renderer) (calls : List (List Char × Context)) (content : String)
    (clean : '\'' ∉ content.toList) (plain : '\\' ∉ content.toList) :
    let answer (operator : Comparison) : Bool :=
      ((Evaluator.afterAll { renderer } calls).evaluate
        (quotedTest path operator content) context).1
    answer .notEqual = !answer .equal ∧
      (Value.KeepsText stored →
        answer .equal = (Value.text stored).looseEq (.text content)) ∧
      (∀ truth : Bool, stored = toString truth →
        answer .equal = (truth == (Value.text content).isTruthy)) ∧
      (Value.KeepsText stored ∨ stored = "true" → content = stored → answer .equal = true) := by
  intro answer
  have compared : ∀ operator, answer operator =
      compareHolds operator (Value.coerce stored.toList) (.text content) := fun operator =>
    evaluate_quotedTest_eq isPath notWord held renderer calls operator clean plain
  have kept (keeps : Value.KeepsText stored) :
      answer .equal = (Value.text stored).looseEq (.text content) := by
    rw [compared, compareHolds, Value.looseEq_coerce keeps]
  have word (truth : Bool) (same : stored = toString truth) :
      answer .equal = (truth == (Value.text content).isTruthy) := by
    subst same
    rw [compared, Value.coerce_toString]
    rfl
  refine ⟨?_, kept, word, ?_⟩
  · rw [compared, compared]
    rfl
  · rintro (keeps | rfl) rfl
    · rw [kept keeps, Value.looseEq_text_self]
    · rw [word true rfl]
      rfl

end Stored

def orderContext : Context where
  base := [("order", .object [("amount", .text " 1e2"), ("paid", .text "true")])]

theorem evaluate_quotedTest_order :
    Operand.isPath "order.amount".toList = true ∧ "order.amount".toList ∉ Operand.literalWords ∧
      orderContext.lookup "order.amount".toList = some (.text " 1e2") ∧
      orderContext.lookup "order.paid".toList = some (.text "true") ∧
      let answer (path : String) (operator : Comparison) (content : String) : Bool :=
        ((Evaluator.afterAll {} [("order.paid".toList, orderContext)]).evaluate
          (quotedTest path.toList operator content) orderContext).1
      answer "order.amount" .equal "100" = true ∧ answer "order.amount" .notEqual "100" = false ∧
        answer "order.amount" .equal " 1e2" = true ∧ answer "order.paid" .equal "yes" = true := by
  have amountPath : Operand.isPath "order.amount".toList = true := by decide +kernel
  have paidPath : Operand.isPath "order.paid".toList = true := by decide +kernel
  have amountWord : "order.amount".toList ∉ Operand.literalWords := by decide +kernel
  have paidWord : "order.paid".toList ∉ Operand.literalWords := by decide +kernel
  have amount : orderContext.lookup "order.amount".toList = some (.text " 1e2") := by
    decide +kernel
  have paid : orderContext.lookup "order.paid".toList = some (.text "true") := by decide +kernel
  have keeps : Value.KeepsText " 1e2" :=
    ⟨by decide +kernel, by decide +kernel, by decide +kernel⟩
  let calls := [("order.paid".toList, orderContext)]
  obtain ⟨negated, compared, -, -⟩ :=
    evaluate_quotedTest amountPath amountWord amount {} calls "100" (by decide +kernel)
      (by decide +kernel)
  obtain ⟨-, -, -, itself⟩ :=
    evaluate_quotedTest amountPath amountWord amount {} calls " 1e2" (by decide +kernel)
      (by decide +kernel)
  obtain ⟨-, -, word, -⟩ :=
    evaluate_quotedTest paidPath paidWord paid {} calls "yes" (by decide +kernel)
      (by decide +kernel)
  have equal : (Value.text " 1e2").looseEq (.text "100") = true := by decide +kernel
  rw [compared keeps, equal] at negated
  refine ⟨amountPath, amountWord, amount, paid, (compared keeps).trans equal, negated,
    itself (Or.inl keeps) rfl, (word true rfl).trans ?_⟩
  decide +kernel

def settingsContext : Context where
  base := [("flag", .text "false"), ("limit", .text "1e999")]

/-- A stored `false`, and a stored numeral beyond the finite numbers, are not met by their own
texts, though each text is loosely equal to itself. -/
theorem not_equal_to_itself :
    let answer (path content : String) : Bool :=
      (({} : Evaluator).evaluate (quotedTest path.toList .equal content) settingsContext).1
    (∀ path ∈ ["flag".toList, "limit".toList],
        Operand.isPath path = true ∧ path ∉ Operand.literalWords) ∧
      settingsContext.lookup "flag".toList = some (.text "false") ∧
      answer "flag" "false" = false ∧ (Value.text "false").looseEq (.text "false") = true ∧
      settingsContext.lookup "limit".toList = some (.text "1e999") ∧
      answer "limit" "1e999" = false ∧ (Value.text "1e999").looseEq (.text "1e999") = true := by
  decide +kernel

end Condition

end Intake
