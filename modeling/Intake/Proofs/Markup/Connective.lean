import Intake.Proofs.Markup.Choice
import Intake.Proofs.Text.Classes

/-!
# Connections by words

Paths that exclamation marks may negate are connected by the words `and` and `or` in any letter
case, with white space between the words. A connection is a chain of groups between the words
`or`, and a group is a chain of literals between the words `and`. The text of a connection is cut
into exactly these groups and literals: `and` binds tighter than `or`.
-/

namespace Intake

namespace Markup

open Character Text

/-- A character of a path of ASCII words. -/
def isPathCharacter (character : Char) : Bool :=
  character.isAlphanum || character == '_' || character == '.'

/-- A path behind exclamation marks. -/
structure Literal where
  negations : Nat
  path : List Char
  nonempty : path ≠ []
  plain : path.all isPathCharacter = true
  noNumeral : Numeral.isNumeric path = false
  noOr : isConnective orWord path = false
  noAnd : isConnective andWord path = false

inductive Connective where
  | or
  | and

def Connective.word : Connective → List Char
  | .or => orWord
  | .and => andWord

/-- One occurrence of a connective, with the white space around it. -/
structure Joint (connective : Connective) where
  before : List Char
  word : List Char
  after : List Char
  spelled : isConnective connective.word word = true
  before_gap : IsGap before
  after_gap : IsGap after
  before_nonempty : before ≠ []
  after_nonempty : after ≠ []

/-- One or more members with a connective between neighbours. -/
structure Chain (connective : Connective) (Member : Type) where
  first : Member
  more : List (Joint connective × Member)

/-- Literals between the words `and`. -/
abbrev Group := Chain .and Literal

/-- Groups between the words `or`. -/
abbrev Connection := Chain .or Group

def Literal.text (literal : Literal) : List Char :=
  List.replicate literal.negations '!' ++ literal.path

def Joint.text {connective : Connective} (joint : Joint connective) : List Char :=
  joint.before ++ (joint.word ++ joint.after)

namespace Chain

variable {connective : Connective} {Member : Type}

def members (chain : Chain connective Member) : List Member :=
  chain.first :: chain.more.map Prod.snd

/-- The text of a chain whose members are written in some way. -/
def written (write : Member → List Char) (chain : Chain connective Member) : List Char :=
  write chain.first ++ chain.more.flatMap fun step => step.1.text ++ write step.2

end Chain

def Group.text (group : Group) : List Char :=
  group.written Literal.text

def Connection.text (connection : Connection) : List Char :=
  connection.written Group.text

def Connection.literals (connection : Connection) : List Literal :=
  connection.members.flatMap Chain.members

theorem not_isBlank_of_isPathCharacter {character : Char}
    (member : isPathCharacter character = true) : isBlank character = false := by
  rw [isPathCharacter, Bool.or_eq_true, Bool.or_eq_true, beq_iff_eq, beq_iff_eq,
    Char.isAlphanum, Bool.or_eq_true] at member
  rcases member with ((letter | digit) | rfl) | rfl
  · exact not_isBlank_of_isWord (isWord_of_isAlpha letter)
  · exact not_isBlank_of_isDigit digit
  · decide
  · decide

/-- The characters that a connection is written with. -/
def isConnectionCharacter (character : Char) : Bool :=
  isPathCharacter character || character == '!' || isBlank character && character != '\n'

theorem isConnectionCharacter_of_isAlpha {character : Char} (letter : character.isAlpha = true) :
    isConnectionCharacter character = true := by
  simp [isConnectionCharacter, isPathCharacter, Char.isAlphanum, letter]

/-- A text between two gaps of a connection. -/
structure IsPart (text : List Char) : Prop where
  nonempty : text ≠ []
  starts : Stops isBlank text
  ends : Stops isBlank text.reverse
  plain : text.all isConnectionCharacter = true

theorem isPart_of_solid {text : List Char} (nonempty : text ≠ [])
    (solid : ∀ character ∈ text, isBlank character = false)
    (plain : text.all isConnectionCharacter = true) : IsPart text where
  nonempty := nonempty
  starts := stops_of_forall solid
  ends := stops_of_forall fun character member => solid character (List.mem_reverse.1 member)
  plain := plain

theorem isPart_path {path : List Char} (nonempty : path ≠ [])
    (plain : path.all isPathCharacter = true) : IsPart path := by
  rw [List.all_eq_true] at plain
  apply isPart_of_solid nonempty fun character inPath =>
    not_isBlank_of_isPathCharacter (plain character inPath)
  rw [List.all_eq_true]
  intro character inPath
  simp [isConnectionCharacter, plain character inPath]

namespace IsPart

variable {text : List Char}

theorem not_mem (isPart : IsPart text) {character : Char}
    (other : isConnectionCharacter character = false) : character ∉ text :=
  not_mem_of_all isPart.plain other

theorem isInside (isPart : IsPart text) : IsInside text where
  line := isPart.not_mem (by decide)
  unclosed := unclosed_of_not_mem (isPart.not_mem (by decide))
  starts := isPart.starts
  ends := isPart.ends
  isOpen := stops_reverse_of_not_mem (isPart.not_mem (by decide))

end IsPart

namespace Literal

variable (literal : Literal)

theorem not_isBlank_of_mem_path {character : Char} (member : character ∈ literal.path) :
    isBlank character = false :=
  not_isBlank_of_isPathCharacter (List.all_eq_true.1 literal.plain character member)

theorem not_isBlank_of_mem_text {character : Char} (member : character ∈ literal.text) :
    isBlank character = false := by
  rcases List.mem_append.1 member with mark | inPath
  · rw [(List.mem_replicate.1 mark).2]
    decide
  · exact literal.not_isBlank_of_mem_path inPath

theorem text_ne_nil : literal.text ≠ [] := by
  simp [text, literal.nonempty]

theorem isPart_text : IsPart literal.text := by
  apply isPart_of_solid literal.text_ne_nil fun _ member => literal.not_isBlank_of_mem_text member
  have path : literal.path.all isConnectionCharacter = true := by
    rw [List.all_eq_true]
    intro character member
    simp [isConnectionCharacter, List.all_eq_true.1 literal.plain character member]
  rw [text, List.all_append, path, Bool.and_true, List.all_replicate]
  simp [isConnectionCharacter]

theorem words_text : words literal.text = [literal.text] :=
  words_of_solid (fun _ member => literal.not_isBlank_of_mem_text member) literal.text_ne_nil

theorem words_text_ne_nil : words literal.text ≠ [] := by
  rw [literal.words_text]
  exact List.cons_ne_nil _ _

/-- A literal is no connective, whether it is negated or not. -/
theorem not_isConnective_text (connective : Connective) :
    isConnective connective.word literal.text = false := by
  cases count : literal.negations with
  | zero =>
    rw [text, count, List.replicate_zero, List.nil_append]
    cases connective with
    | or => exact literal.noOr
    | and => exact literal.noAnd
  | succ count' =>
    rw [text, count, List.replicate_succ, List.cons_append]
    cases connective <;> rfl

end Literal

section Joints

variable {connective : Connective}

theorem Connective.isAlpha_of_mem {character : Char} (member : character ∈ connective.word) :
    character.isAlpha = true := by
  have letters : connective.word.all Char.isAlpha = true := by
    cases connective <;> decide
  exact List.all_eq_true.1 letters character member

theorem Connective.word_ne_nil : connective.word ≠ [] := by
  cases connective <;> decide

theorem isAlpha_of_isConnective {word : List Char}
    (spelled : isConnective connective.word word = true) {character : Char}
    (member : character ∈ word) : character.isAlpha = true := by
  rw [isConnective, beq_iff_eq] at spelled
  have lower : character.toLower ∈ connective.word := spelled ▸ List.mem_map_of_mem member
  exact isAlpha_of_isAlpha_toLower (Connective.isAlpha_of_mem lower)

theorem IsGap.plain {gap : List Char} (isGap : IsGap gap) :
    gap.all isConnectionCharacter = true := by
  rw [List.all_eq_true]
  intro character member
  have blank := List.all_eq_true.1 isGap.blank character member
  have noBreak : character ≠ '\n' := fun same => isGap.line (same ▸ member)
  simp [isConnectionCharacter, blank, noBreak]

namespace Joint

variable (joint : Joint connective)

theorem word_ne_nil : joint.word ≠ [] := by
  intro empty
  have spelled := joint.spelled
  rw [isConnective, beq_iff_eq, empty] at spelled
  exact Connective.word_ne_nil spelled.symm

theorem words_word : words joint.word = [joint.word] :=
  words_of_solid (fun _ member => not_isBlank_of_isWord
    (isWord_of_isAlpha (isAlpha_of_isConnective joint.spelled member))) joint.word_ne_nil

theorem plain_text : joint.text.all isConnectionCharacter = true := by
  have word : joint.word.all isConnectionCharacter = true := by
    rw [List.all_eq_true]
    intro character member
    exact isConnectionCharacter_of_isAlpha (isAlpha_of_isConnective joint.spelled member)
  rw [text, List.all_append, List.all_append, joint.before_gap.plain, word,
    joint.after_gap.plain]
  rfl

/-- A connective stands as a word of its own between the words on either side. -/
theorem words_append (front rest : List Char) :
    words (front ++ (joint.text ++ rest)) = words front ++ joint.word :: words rest := by
  rw [text, List.append_assoc, words_append_gap front joint.before_nonempty joint.before_gap.blank,
    List.append_assoc, words_append_gap joint.word joint.after_nonempty joint.after_gap.blank,
    joint.words_word, List.singleton_append]

theorem isPart_append {first second : List Char} (isFirst : IsPart first)
    (isSecond : IsPart second) : IsPart (first ++ (joint.text ++ second)) where
  nonempty := by simp [isFirst.nonempty]
  starts := isFirst.starts.append isFirst.nonempty _
  ends := by
    rw [← List.append_assoc]
    exact stops_reverse_append isSecond.nonempty isSecond.ends _
  plain := by
    rw [List.all_append, List.all_append, isFirst.plain, joint.plain_text, isSecond.plain]
    rfl

end Joint

end Joints

namespace Chain

variable {connective : Connective} {Member : Type} {write : Member → List Char}

theorem written_cons (first second : Member) (joint : Joint connective)
    (more : List (Joint connective × Member)) :
    written write ⟨first, (joint, second) :: more⟩ =
      write first ++ (joint.text ++ written write ⟨second, more⟩) := by
  simp [written]

theorem isPart_written (chain : Chain connective Member)
    (each : ∀ member ∈ chain.members, IsPart (write member)) : IsPart (chain.written write) := by
  obtain ⟨first, more⟩ := chain
  induction more generalizing first with
  | nil => simpa [written] using each first List.mem_cons_self
  | cons step more ih =>
    obtain ⟨joint, second⟩ := step
    rw [written_cons]
    have behind := ih second fun member inside => each member (List.mem_cons_of_mem first inside)
    exact joint.isPart_append (each first List.mem_cons_self) behind

theorem words_written (chain : Chain connective Member) :
    words (chain.written write) =
      words (write chain.first) ++
        chain.more.flatMap fun step => step.1.word :: words (write step.2) := by
  obtain ⟨first, more⟩ := chain
  induction more generalizing first with
  | nil => simp [written]
  | cons step more ih =>
    obtain ⟨joint, second⟩ := step
    rw [written_cons, joint.words_append, ih, List.flatMap_cons]
    rfl

end Chain

theorem cutWords_append {connective : List Char} {words : List (List Char)}
    (plain : ∀ word ∈ words, isConnective connective word = false)
    (group rest : List (List Char)) :
    cutWords connective group (words ++ rest) =
      cutWords connective (words.reverse ++ group) rest := by
  induction words generalizing group with
  | nil => rfl
  | cons word words ih =>
    rw [List.forall_mem_cons] at plain
    rw [List.cons_append, cutWords, plain.1, Bool.false_and, Bool.false_and,
      if_neg Bool.false_ne_true, ih plain.2, List.reverse_cons, List.append_assoc,
      List.singleton_append]

theorem cutWords_connective {connective word : List Char}
    (spelled : isConnective connective word = true) {group rest : List (List Char)}
    (behind : group ≠ []) (before : rest ≠ []) :
    cutWords connective group (word :: rest) = group.reverse :: cutWords connective [] rest := by
  rw [cutWords, if_pos (by simp [spelled, behind, before])]

/-- The words of a chain are cut into the words of its members. -/
theorem Chain.cutWords_written {connective : Connective} {Member : Type}
    {write : Member → List Char} (chain : Chain connective Member)
    (nonempty : ∀ member ∈ chain.members, words (write member) ≠ [])
    (plain : ∀ member ∈ chain.members, ∀ word ∈ words (write member),
      isConnective connective.word word = false) :
    cutWords connective.word [] (words (chain.written write)) =
      chain.members.map fun member => words (write member) := by
  obtain ⟨first, more⟩ := chain
  induction more generalizing first with
  | nil =>
    have firstPlain := plain first List.mem_cons_self
    have cut := cutWords_append firstPlain [] []
    simpa [written, members, cutWords] using cut
  | cons step more ih =>
    obtain ⟨joint, second⟩ := step
    have later : ∀ member ∈ Chain.members ⟨second, more⟩,
        member ∈ Chain.members ⟨first, (joint, second) :: more⟩ :=
      fun member inside => List.mem_cons_of_mem first inside
    have behind := ih second (fun member inside => nonempty member (later member inside))
      (fun member inside => plain member (later member inside))
    have firstWords := nonempty first List.mem_cons_self
    have restWords : words (Chain.written write ⟨second, more⟩) ≠ [] := by
      rw [words_written]
      exact List.append_ne_nil_of_left_ne_nil (nonempty second (later second List.mem_cons_self)) _
    rw [written_cons, joint.words_append, cutWords_append (plain first List.mem_cons_self),
      List.append_nil, cutWords_connective joint.spelled (by simpa using firstWords) restWords,
      behind, List.reverse_reverse]
    rfl

theorem Connection.isPart_text (connection : Connection) : IsPart connection.text :=
  connection.isPart_written fun group _ =>
    group.isPart_written fun literal _ => literal.isPart_text

theorem Group.words_text_ne_nil (group : Group) : words group.text ≠ [] := by
  rw [text, Chain.words_written, Literal.words_text]
  exact List.cons_ne_nil _ _

/-- No word of a group is the connective `or`. -/
theorem Group.not_or_of_mem_words {group : Group} {word : List Char}
    (member : word ∈ words group.text) : isConnective orWord word = false := by
  rw [text, Chain.words_written, Literal.words_text, List.mem_append, List.mem_flatMap] at member
  rcases member with inFirst | ⟨⟨joint, literal⟩, _, inStep⟩
  · rw [List.mem_singleton.1 inFirst]
    exact group.first.not_isConnective_text .or
  · rw [Literal.words_text, List.mem_cons, List.mem_singleton] at inStep
    rcases inStep with rfl | rfl
    · have spelled : LetterCase.asciiLower joint.word = andWord := beq_iff_eq.1 joint.spelled
      rw [isConnective, spelled]
      rfl
    · exact literal.not_isConnective_text .or

/-- The operands of a group are its literals. -/
theorem Group.map_joined_cutWords (group : Group) :
    (cutWords andWord [] (words group.text)).map (joined [' ']) =
      group.members.map Literal.text := by
  have cut : cutWords andWord [] (words group.text) =
      group.members.map fun literal => words literal.text := by
    apply group.cutWords_written
    · intro literal _
      exact literal.words_text_ne_nil
    · intro literal _ word member
      rw [literal.words_text, List.mem_singleton] at member
      rw [member]
      exact literal.not_isConnective_text .and
  rw [cut, List.map_map]
  apply List.map_congr_left
  intro literal _
  rw [Function.comp_apply, literal.words_text]
  rfl

/-- The text of a connection is cut into its groups, and these into their literals. -/
theorem Connection.operands_text (connection : Connection) :
    operands connection.text =
      connection.members.map fun group => group.members.map Literal.text := by
  have cut : cutWords orWord [] (words connection.text) =
      connection.members.map fun group => words group.text := by
    apply connection.cutWords_written
    · intro group _
      exact group.words_text_ne_nil
    · intro group _ _ member
      exact Group.not_or_of_mem_words member
  rw [operands, cut, List.map_map]
  apply List.map_congr_left
  intro group _
  exact group.map_joined_cutWords

theorem hasConnective_of_words {text word : List Char} {front back : List (List Char)}
    (found : words text = front ++ word :: back) (isFront : front ≠ []) (isBack : back ≠ [])
    (connective : Connective) (spelled : isConnective connective.word word = true) :
    hasConnective text = true := by
  have inner : word ∈ (words text).tail.dropLast := by
    obtain ⟨first, front, rfl⟩ := List.exists_cons_of_ne_nil isFront
    rw [found, List.cons_append, List.tail_cons, List.dropLast_append_of_ne_nil (by simp),
      List.dropLast_cons_of_ne_nil isBack]
    simp
  refine List.any_eq_true.2 ⟨word, inner, ?_⟩
  rw [Bool.or_eq_true]
  cases connective with
  | or => exact Or.inl spelled
  | and => exact Or.inr spelled

theorem Chain.hasConnective_written {connective : Connective} {Member : Type}
    {write : Member → List Char} {chain : Chain connective Member} (several : chain.more ≠ [])
    (nonempty : ∀ member ∈ chain.members, words (write member) ≠ []) :
    hasConnective (chain.written write) = true := by
  obtain ⟨first, more⟩ := chain
  obtain ⟨⟨joint, second⟩, more, rfl⟩ := List.exists_cons_of_ne_nil several
  have found : words (Chain.written write ⟨first, (joint, second) :: more⟩) = _ :=
    words_written _
  rw [List.flatMap_cons, List.cons_append] at found
  exact hasConnective_of_words found (nonempty first List.mem_cons_self)
    (List.append_ne_nil_of_left_ne_nil (nonempty second (by simp [members])) _) connective
    joint.spelled

/-- Two literals have a connective between them. -/
theorem Connection.hasConnective_text {connection : Connection}
    (several : 2 ≤ connection.literals.length) : hasConnective connection.text = true := by
  obtain ⟨first, more⟩ := connection
  by_cases single : more = []
  · subst single
    have inGroup : first.more ≠ [] := by
      intro none
      simp [literals, Chain.members, none] at several
    have same : text ⟨first, []⟩ = first.text := by simp [text, Chain.written]
    rw [same]
    apply Chain.hasConnective_written inGroup
    intro literal _
    exact literal.words_text_ne_nil
  · exact Chain.hasConnective_written single fun group _ => group.words_text_ne_nil

end Markup

end Intake
