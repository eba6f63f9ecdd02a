import Intake.Condition.Evaluator

/-!
# What an evaluator remembers

An evaluator remembers conditions by their texts. As long as every remembered condition is the one
that its text writes, an evaluator answers as if it parsed each text anew, and it goes on to
remember only such conditions. No text is remembered twice, and there is room for `capacity` of
them.
-/

namespace Intake

namespace Evaluator

def afterAll (evaluator : Evaluator) (calls : List (List Char × Context)) : Evaluator :=
  calls.foldl (fun evaluator call => (evaluator.evaluate call.1 call.2).2) evaluator

/-- Every condition that is remembered is the one that its text writes. -/
def Faithful (evaluator : Evaluator) : Prop :=
  ∀ entry ∈ evaluator.remembered, Condition.parse entry.1 = .ok entry.2

theorem faithful_fresh (renderer : Renderer) : Faithful { renderer } := by
  simp [Faithful]

namespace Faithful

variable {evaluator : Evaluator} (faithful : evaluator.Faithful)

include faithful

theorem remember {text : List Char} {condition : Condition}
    (parsed : Condition.parse text = .ok condition) :
    (evaluator.remember text condition).Faithful := by
  intro entry member
  rcases List.mem_cons.1 member with rfl | kept
  · exact parsed
  · split at kept
    · simp at kept
    · exact faithful entry kept

theorem parse_of_remembered? {text : List Char} {condition : Condition}
    (found : evaluator.remembered? text = some condition) :
    Condition.parse text = .ok condition := by
  obtain ⟨front, back, same, -⟩ := List.lookup_eq_some_iff.1 found
  exact faithful (text, condition) (by simp [same])

/-- What is found for a text is what its trimming writes, and nothing else is remembered. -/
theorem compile (text : List Char) :
    (evaluator.compile text).1 = (Condition.parse (Text.trim text)).toOption ∧
      (evaluator.compile text).2.Faithful ∧
      (evaluator.compile text).2.renderer = evaluator.renderer := by
  rw [Evaluator.compile]
  cases found : evaluator.remembered? (Text.trim text) with
  | some condition =>
    rw [faithful.parse_of_remembered? found]
    exact ⟨rfl, faithful, rfl⟩
  | none =>
    cases parsed : Condition.parse (Text.trim text) with
    | error error => exact ⟨rfl, faithful, rfl⟩
    | ok condition => exact ⟨rfl, faithful.remember parsed, rfl⟩

/-- An evaluator answers as if it parsed the text anew. -/
theorem evaluate (text : List Char) (context : Context) :
    (evaluator.evaluate text context).1 =
        Condition.textEvaluates evaluator.renderer text context ∧
      (evaluator.evaluate text context).2.Faithful ∧
      (evaluator.evaluate text context).2.renderer = evaluator.renderer := by
  obtain ⟨found, kept, sameRenderer⟩ := faithful.compile text
  rw [Evaluator.evaluate, Condition.textEvaluates]
  generalize evaluator.compile text = compiled at found kept sameRenderer
  obtain ⟨condition, after⟩ := compiled
  cases parsed : Condition.parse (Text.trim text) with
  | error error =>
    rw [parsed] at found
    obtain rfl : condition = none := found
    exact ⟨rfl, kept, sameRenderer⟩
  | ok parsedCondition =>
    rw [parsed] at found
    obtain rfl : condition = some parsedCondition := found
    exact ⟨rfl, kept, sameRenderer⟩

theorem afterAll (calls : List (List Char × Context)) :
    (evaluator.afterAll calls).Faithful ∧
      (evaluator.afterAll calls).renderer = evaluator.renderer := by
  induction calls generalizing evaluator with
  | nil => exact ⟨faithful, rfl⟩
  | cons call others ih =>
    obtain ⟨-, kept, sameRenderer⟩ := faithful.evaluate call.1 call.2
    obtain ⟨last, renderer⟩ := ih kept
    exact ⟨last, renderer.trans sameRenderer⟩

end Faithful

/-- Whatever an evaluator has evaluated before, it answers as if it parsed the text anew. -/
theorem evaluate_afterAll (renderer : Renderer) (calls : List (List Char × Context))
    (text : List Char) (context : Context) :
    ((afterAll { renderer } calls).evaluate text context).1 =
      Condition.textEvaluates renderer text context := by
  obtain ⟨faithful, sameRenderer⟩ := (faithful_fresh renderer).afterAll calls
  rw [(faithful.evaluate text context).1, sameRenderer]

theorem Faithful.evaluateAll {evaluator : Evaluator} (faithful : evaluator.Faithful)
    (calls : List (List Char × Context)) :
    evaluator.evaluateAll calls =
      calls.map fun call => Condition.textEvaluates evaluator.renderer call.1 call.2 := by
  induction calls generalizing evaluator with
  | nil => rfl
  | cons call others ih =>
    obtain ⟨answer, kept, sameRenderer⟩ := faithful.evaluate call.1 call.2
    simp only [Evaluator.evaluateAll, List.map_cons]
    rw [answer, ih kept, sameRenderer]

/-- No text is remembered twice, and no more texts than there is room for. -/
structure Bounded (evaluator : Evaluator) : Prop where
  distinct : (evaluator.remembered.map Prod.fst).Nodup
  length : evaluator.remembered.length ≤ capacity

theorem bounded_fresh (renderer : Renderer) : Bounded { renderer } where
  distinct := List.nodup_nil
  length := Nat.zero_le _

namespace Bounded

variable {evaluator : Evaluator} (bounded : evaluator.Bounded)

include bounded

theorem remember {text : List Char} (missing : evaluator.remembered? text = none)
    (condition : Condition) : (evaluator.remember text condition).Bounded := by
  rw [Evaluator.remember]
  split
  · -- A full memory is emptied first.
    exact ⟨by simp, by simp [capacity]⟩
  · next room =>
    have unknown : text ∉ evaluator.remembered.map Prod.fst := by
      intro member
      obtain ⟨entry, found, rfl⟩ := List.mem_map.1 member
      have different := List.lookup_eq_none_iff.1 missing entry found
      simp at different
    exact ⟨List.nodup_cons.2 ⟨unknown, bounded.distinct⟩, Nat.lt_of_not_le room⟩

theorem compile (text : List Char) : (evaluator.compile text).2.Bounded := by
  rw [Evaluator.compile]
  cases found : evaluator.remembered? (Text.trim text) with
  | some condition => exact bounded
  | none =>
    cases Condition.parse (Text.trim text) with
    | error error => exact bounded
    | ok condition => exact bounded.remember found condition

theorem evaluate (text : List Char) (context : Context) :
    (evaluator.evaluate text context).2.Bounded := by
  have compiled := bounded.compile text
  rw [Evaluator.evaluate]
  generalize evaluator.compile text = outcome at compiled
  obtain ⟨_ | condition, after⟩ := outcome
  · exact compiled
  · exact compiled

theorem afterAll (calls : List (List Char × Context)) : (evaluator.afterAll calls).Bounded := by
  induction calls generalizing evaluator with
  | nil => exact bounded
  | cons call others ih => exact ih (bounded.evaluate call.1 call.2)

end Bounded

/-- Over any sequence of texts and contexts an evaluator answers each time what a fresh one would,
which is what the condition of the trimmed text is evaluated to, and never remembers more than 1024
conditions. -/
theorem evaluateAll_fresh (renderer : Renderer) (calls : List (List Char × Context)) :
    let fresh : Evaluator := { renderer }
    fresh.evaluateAll calls = calls.map (fun call => (fresh.evaluate call.1 call.2).1) ∧
      (∀ text context, (fresh.evaluate text context).1 =
        match Condition.parse (Text.trim text) with
        | .ok condition => condition.evaluate renderer context
        | .error _ => false) ∧
      (fresh.afterAll calls).remembered.length ≤ 1024 ∧
      ((fresh.afterAll calls).remembered.map Prod.fst).Nodup := by
  intro fresh
  have faithful : fresh.Faithful := faithful_fresh renderer
  have answers := fun text context => (faithful.evaluate text context).1
  have bounded := (bounded_fresh renderer).afterAll calls
  refine ⟨?_, answers, bounded.length, bounded.distinct⟩
  rw [faithful.evaluateAll]
  simp only [answers]

end Evaluator

end Intake
