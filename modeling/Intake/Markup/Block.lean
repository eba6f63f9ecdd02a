import Intake.Text.Basic

/-!
# Blocks of a step template

A step template is literal text with `{{ }}` blocks of a simpler shape than those of mapping
templates: a block ends at the first `}}` on the way, and its inside has no line break. Braces that
do not form a block are literal text.
-/

namespace Intake

namespace Markup

inductive Segment where
  | literal (character : Char)
  /-- The inside of a block without the white space around it. -/
  | block (inside : List Char)
deriving DecidableEq, Repr

/-- The inside of a block up to white space and `}}`, and what follows them. -/
def insideOf? : List Char → Option (List Char × List Char)
  | [] => none
  | character :: rest =>
    match Text.afterPrefix? ['}', '}'] (Text.trimStart (character :: rest)) with
    | some after => some ([], after)
    | none =>
      if character = '\n' then none
      else (insideOf? rest).map fun parts => (character :: parts.1, parts.2)

/-- The inside of the block that a text starts with, and what follows the block. -/
def blockAt? (text : List Char) : Option (List Char × List Char) :=
  (Text.afterPrefix? ['{', '{'] text).bind fun after => insideOf? (Text.trimStart after)

theorem length_insideOf? {text inside rest : List Char}
    (found : insideOf? text = some (inside, rest)) : rest.length < text.length := by
  induction text generalizing inside with
  | nil => simp [insideOf?] at found
  | cons character tail ih =>
    simp only [insideOf?] at found
    split at found
    · next after taken =>
      simp only [Option.some.injEq, Prod.mk.injEq] at found
      obtain ⟨_, rfl⟩ := found
      have whole := Text.length_afterPrefix? taken
      have suffix := (List.dropWhile_suffix Character.isBlank (l := character :: tail)).length_le
      simp only [Text.trimStart, List.length_cons, List.length_nil] at whole suffix ⊢
      omega
    · split at found
      · simp at found
      · simp only [Option.map_eq_some_iff, Prod.mk.injEq] at found
        obtain ⟨⟨head, after⟩, split, _, rfl⟩ := found
        exact Nat.lt_succ_of_lt (ih split)

/-- What follows a block is shorter than the text that starts with it. -/
theorem length_blockAt? {text inside rest : List Char}
    (found : blockAt? text = some (inside, rest)) : rest.length < text.length := by
  simp only [blockAt?, Option.bind_eq_some_iff] at found
  obtain ⟨after, taken, found⟩ := found
  have whole := Text.length_afterPrefix? taken
  have shorter := length_insideOf? found
  have suffix := (List.dropWhile_suffix Character.isBlank (l := after)).length_le
  simp only [Text.trimStart, List.length_cons, List.length_nil] at whole shorter suffix
  omega

def segments : List Char → List Segment
  | [] => []
  | character :: rest =>
    match _found : blockAt? (character :: rest) with
    | some (inside, after) => .block inside :: segments after
    | none => .literal character :: segments rest
termination_by text => text.length
decreasing_by
  · exact length_blockAt? _found
  · simp

end Markup

end Intake
