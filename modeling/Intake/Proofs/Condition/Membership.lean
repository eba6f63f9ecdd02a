import Intake.Proofs.Condition.Memory
import Intake.Proofs.Condition.Printing
import Intake.Proofs.Value.Equality

/-!
# Membership in written and in stored lists

A value can be looked for among paths that a condition lists, or in a list that the context holds.
Both compare strictly, and both leave the value that is looked for as it is stored. But the listed
paths are seen as comparisons see them: there a stored text that writes a number or a boolean is
that scalar, and in a stored list it is a text. Among other values the two lists agree.
-/

namespace Intake

namespace Value

variable {value : Value} {content : String}

theorem strictEq_text_iff : value.strictEq (.text content) = true ↔ value = .text content := by
  cases value <;> simp [strictEq]

theorem strictEq_of_text (notText : value.text? = none) :
    (text content).strictEq value = false := by
  cases value with
  | text stored => cases notText
  | _ => simp [strictEq]

end Value

namespace Condition

section Retyped

variable {value : Value} {content : String}

theorem retyped_of_not_text (notText : value.text? = none) : retyped value = value := by
  cases value with
  | text stored => cases notText
  | _ => rfl

theorem retyped_eq_text_iff :
    retyped value = .text content ↔
      value = .text content ∧ retyped (.text content) = .text content := by
  constructor
  · intro same
    cases value with
    | text stored =>
      obtain rfl := String.toList_inj.1 (Value.toList_of_coerce_eq_text same)
      exact ⟨rfl, same⟩
    | _ => cases same
  · rintro ⟨rfl, kept⟩
    exact kept

end Retyped

section Scalars

variable {values : List Value} {value : Value}

/-- A text is among the scalars if it is among the stored values and writes no other scalar. -/
theorem any_retyped_text {content : String} :
    (values.any fun item => (retyped item).strictEq (.text content)) = true ↔
      (values.any fun item => item.strictEq (.text content)) = true ∧
        retyped (.text content) = .text content := by
  simp only [List.any_eq_true, Value.strictEq_text_iff]
  constructor
  · rintro ⟨item, member, same⟩
    obtain ⟨rfl, kept⟩ := retyped_eq_text_iff.1 same
    exact ⟨⟨_, member, rfl⟩, kept⟩
  · rintro ⟨⟨item, member, rfl⟩, kept⟩
    exact ⟨_, member, kept⟩

/-- Another value is among the scalars if it is among the stored values or some text writes it. -/
theorem any_retyped_of_not_text (notText : value.text? = none) :
    (values.any fun item => (retyped item).strictEq value) = true ↔
      (values.any fun item => item.strictEq value) = true ∨
        ∃ content, .text content ∈ values ∧ (retyped (.text content)).strictEq value = true := by
  simp only [List.any_eq_true]
  constructor
  · rintro ⟨item, member, equal⟩
    cases isText : item.text? with
    | none =>
      rw [retyped_of_not_text isText] at equal
      exact .inl ⟨item, member, equal⟩
    | some content =>
      obtain rfl : item = .text content := by
        cases item <;> cases isText
        rfl
      exact .inr ⟨content, member, equal⟩
  · rintro (⟨item, member, equal⟩ | ⟨content, member, equal⟩)
    · refine ⟨item, member, ?_⟩
      cases item with
      | text content =>
        rw [Value.strictEq_of_text notText] at equal
        cases equal
      | _ => exact equal
    · exact ⟨_, member, equal⟩

theorem any_retyped_of_kept (kept : ∀ item ∈ values, retyped item = item) :
    (values.any fun item => (retyped item).strictEq value) =
      values.any fun item => item.strictEq value := by
  rw [Bool.eq_iff_iff, List.any_eq_true, List.any_eq_true]
  refine exists_congr fun item => and_congr_right fun member => ?_
  rw [kept item member]

/-- A value is the scalar that it writes if it is not a text that writes another one. -/
theorem retyped_strictEq_self (distinct : value.hasDistinctNames) :
    (retyped value).strictEq value = true ↔ retyped value = value := by
  constructor
  · intro equal
    cases value with
    | text content => exact Value.strictEq_text_iff.1 equal
    | _ => rfl
  · intro kept
    rw [kept, Value.strictEq_self distinct]

end Scalars

/-- Membership is decided by the values of the two operands. -/
theorem textEvaluates_within {needle haystack : Operand} {needleText haystackText : List Char}
    (needleWritten : needle.Written needleText) (haystackWritten : haystack.Written haystackText)
    (renderer : Renderer) (context : Context) :
    textEvaluates renderer (needleText ++ " in ".toList ++ haystackText) context =
      isMember (needleValue renderer context needle) (haystackValue renderer context haystack) := by
  have lexed := tokens?_within needleWritten haystackWritten
  have derives := Derives.within 0 needleText haystackText
  rw [needleWritten.parsed, haystackWritten.parsed] at derives
  have writes := derives.writes.mono (Nat.zero_le maxNesting)
  rw [(evaluate_of_writes lexed writes renderer context).2, treeHolds]

/-- A text that is read as a path. -/
def ReadsAsPath (path : List Char) : Prop :=
  Operand.isPath path = true ∧ path ∉ Operand.literalWords

instance (path : List Char) : Decidable (ReadsAsPath path) :=
  inferInstanceAs (Decidable (_ ∧ _))

/-- A path, and what its value is looked for in. -/
def memberTest (path : List Char) (haystack : Operand) : List Char :=
  path ++ " in ".toList ++ haystack.text

/-- The list of some paths. -/
def pathList (paths : List (List Char)) : Operand :=
  .list (paths.map .path)

theorem written_pathList {paths : List (List Char)} (arePaths : ∀ path ∈ paths, ReadsAsPath path) :
    (pathList paths).Written (pathList paths).text := by
  refine Operand.written_list fun item member => ?_
  obtain ⟨path, inside, rfl⟩ := List.mem_map.1 member
  exact Operand.written_path (arePaths path inside).1 (arePaths path inside).2

/-- The paths hold these values, in this order. -/
def Hold (context : Context) (paths : List (List Char)) (values : List Value) : Prop :=
  List.Forall₂ (fun path value => context.lookup path = some value) paths values

theorem haystackValue_pathList {context : Context} {paths : List (List Char)} {values : List Value}
    (hold : Hold context paths values) (renderer : Renderer) :
    haystackValue renderer context (pathList paths) = .array (values.map retyped) := by
  have resolved : resolveAll renderer context (paths.map .path) = values.map retyped := by
    induction hold with
    | nil => rfl
    | cons held _ ih =>
      rw [List.map_cons, resolveAll, resolve, held, ih]
      rfl
  change resolve renderer context (.list _) = _
  rw [resolve, resolved]

section Listed

variable {path list : List Char} {paths : List (List Char)} {context : Context} {value : Value}
  {values : List Value}

/-- Among listed paths a value is looked for in the scalars that their values write. -/
theorem evaluate_pathList (isPath : ReadsAsPath path) (held : context.lookup path = some value)
    (arePaths : ∀ listed ∈ paths, ReadsAsPath listed) (hold : Hold context paths values)
    (renderer : Renderer) (calls : List (List Char × Context)) :
    ((Evaluator.afterAll { renderer } calls).evaluate
        (memberTest path (pathList paths)) context).1 =
      values.any fun item => (retyped item).strictEq value := by
  have evaluated := textEvaluates_within (Operand.written_path isPath.1 isPath.2)
    (written_pathList arePaths) renderer context
  rw [haystackValue_pathList hold, needleValue, held] at evaluated
  rw [Evaluator.evaluate_afterAll]
  refine evaluated.trans ?_
  rw [isMember, List.any_map]
  rfl

/-- In a stored list a value is looked for as the list has its items. -/
theorem evaluate_storedList (isPath : ReadsAsPath path) (held : context.lookup path = some value)
    (listIsPath : ReadsAsPath list) (listHeld : context.lookup list = some (.array values))
    (renderer : Renderer) (calls : List (List Char × Context)) :
    ((Evaluator.afterAll { renderer } calls).evaluate (memberTest path (.path list)) context).1 =
      values.any fun item => item.strictEq value := by
  have evaluated := textEvaluates_within (Operand.written_path isPath.1 isPath.2)
    (Operand.written_path listIsPath.1 listIsPath.2) renderer context
  rw [haystackValue, listHeld, needleValue, held] at evaluated
  rw [Evaluator.evaluate_afterAll]
  exact evaluated

/-- A value is found in the stored list of some values if one of them is strictly equal to it. Among
the paths of these values it is found in the same cases, unless some are texts of other scalars: it
is missed if it is such a text itself, and if it is no text it is also found where a text writes
it. -/
theorem membership_of_paths (isPath : ReadsAsPath path) (held : context.lookup path = some value)
    (arePaths : ∀ listed ∈ paths, ReadsAsPath listed) (hold : Hold context paths values)
    (distinct : value.hasDistinctNames) (renderer : Renderer)
    (calls : List (List Char × Context)) :
    let answer (haystack : Operand) : Bool :=
      ((Evaluator.afterAll { renderer } calls).evaluate (memberTest path haystack) context).1
    let found : Bool := values.any fun item => item.strictEq value
    (∀ list, ReadsAsPath list → context.lookup list = some (.array values) →
        answer (.path list) = found) ∧
      ((∀ item ∈ values, retyped item = item) → answer (pathList paths) = found) ∧
      (∀ content, value = .text content →
        (answer (pathList paths) = true ↔ found = true ∧ retyped value = value)) ∧
      (value.text? = none →
        (answer (pathList paths) = true ↔
          found = true ∨ ∃ content, .text content ∈ values ∧
            (retyped (.text content)).strictEq value = true)) ∧
      (answer (pathList [path]) = true ↔ retyped value = value) := by
  intro answer found
  have listed : answer (pathList paths) = values.any fun item => (retyped item).strictEq value :=
    evaluate_pathList isPath held arePaths hold renderer calls
  have itself : answer (pathList [path]) = [value].any fun item => (retyped item).strictEq value :=
    evaluate_pathList isPath held (List.forall_mem_singleton.2 isPath) (.cons held .nil) renderer
      calls
  refine ⟨?_, ?_, ?_, ?_, ?_⟩
  · exact fun list listIsPath listHeld =>
      evaluate_storedList isPath held listIsPath listHeld renderer calls
  · intro kept
    rw [listed, any_retyped_of_kept kept]
  · rintro content rfl
    rw [listed, any_retyped_text]
  · intro notText
    rw [listed, any_retyped_of_not_text notText]
  · rw [itself, List.any_cons, List.any_nil, Bool.or_false, retyped_strictEq_self distinct]

end Listed

/-- A code, a count, and a text that writes the count. -/
def codeContext : Context where
  base := [("code", .text "A7"), ("count", .ofInt 7), ("typed", .text "7"),
    ("codes", .array [.text "A7", .text "7"])]

theorem membership_of_paths_code :
    (∀ path ∈ ["code".toList, "count".toList, "typed".toList, "codes".toList], ReadsAsPath path) ∧
      codeContext.lookup "code".toList = some (.text "A7") ∧
      codeContext.lookup "count".toList = some (.ofInt 7) ∧
      codeContext.lookup "codes".toList = some (.array [.text "A7", .text "7"]) ∧
      let answer (path : String) (haystack : Operand) : Bool :=
        ((Evaluator.afterAll {} [("typed".toList, codeContext)]).evaluate
          (memberTest path.toList haystack) codeContext).1
      let listed := pathList ["code".toList, "typed".toList]
      answer "code" listed = true ∧ answer "code" (.path "codes".toList) = true ∧
        answer "code" (pathList ["code".toList]) = true ∧ answer "count" listed = true ∧
        answer "count" (.path "codes".toList) = false := by
  have arePaths : ∀ path ∈ ["code".toList, "count".toList, "typed".toList, "codes".toList],
      ReadsAsPath path := by decide +kernel
  have areListed : ∀ path ∈ ["code".toList, "typed".toList], ReadsAsPath path := by decide +kernel
  have isPath : ReadsAsPath "code".toList := by decide +kernel
  have countIsPath : ReadsAsPath "count".toList := by decide +kernel
  have listIsPath : ReadsAsPath "codes".toList := by decide +kernel
  have code : codeContext.lookup "code".toList = some (.text "A7") := by decide +kernel
  have count : codeContext.lookup "count".toList = some (.ofInt 7) := by decide +kernel
  have typed : codeContext.lookup "typed".toList = some (.text "7") := by decide +kernel
  have codes : codeContext.lookup "codes".toList = some (.array [.text "A7", .text "7"]) := by
    decide +kernel
  have hold : Hold codeContext ["code".toList, "typed".toList] [.text "A7", .text "7"] :=
    .cons code (.cons typed .nil)
  have keeps : retyped (.text "A7") = .text "A7" := by decide +kernel
  let calls := [("typed".toList, codeContext)]
  obtain ⟨stored, -, text, -, itself⟩ :=
    membership_of_paths isPath code areListed hold rfl {} calls
  obtain ⟨countStored, -, -, other, -⟩ :=
    membership_of_paths countIsPath count areListed hold rfl {} calls
  have found :
      [Value.text "A7", .text "7"].any (fun item => item.strictEq (.text "A7")) = true := by
    decide +kernel
  exact ⟨arePaths, code, count, codes, (text _ rfl).2 ⟨found, keeps⟩,
    (stored _ listIsPath codes).trans found, itself.2 keeps,
    (other rfl).2 (.inr ⟨"7", by decide +kernel, by decide +kernel⟩),
    (countStored _ listIsPath codes).trans (by decide +kernel)⟩

/-- A code of digits, and a stored list of it. -/
def ticketContext : Context where
  base := [("code", .text "5"), ("count", .ofInt 5), ("codes", .array [.text "5"])]

/-- A code is found in the stored list of itself, but not where it is listed, though it is strictly
equal to itself. A number is found where the code is listed, though the two are not equal. -/
theorem listed_code_misread :
    let answer (path : String) (haystack : Operand) : Bool :=
      (({} : Evaluator).evaluate (memberTest path.toList haystack) ticketContext).1
    (∀ path ∈ ["code".toList, "count".toList, "codes".toList], ReadsAsPath path) ∧
      ticketContext.lookup "code".toList = some (.text "5") ∧
      ticketContext.lookup "codes".toList = some (.array [.text "5"]) ∧
      (Value.text "5").strictEq (.text "5") = true ∧
      answer "code" (pathList ["code".toList]) = false ∧
      answer "code" (.path "codes".toList) = true ∧
      ticketContext.lookup "count".toList = some (.ofInt 5) ∧
      (Value.text "5").strictEq (.ofInt 5) = false ∧
      answer "count" (pathList ["code".toList]) = true ∧
      answer "count" (.path "codes".toList) = false := by
  decide +kernel

end Condition

end Intake
