import Intake.Proofs.Bytewise.Route
import Intake.Proofs.Text.Replacement

/-!
# Routes with named parameters

A route pattern is made of literal texts and placeholders. Its parameters are filled in one after
the other, each wherever its placeholders stand in what the ones before it have left. No braces come
in with a value, so no placeholder is made or hidden on the way, and the outcome is the same as
filling all placeholders at once.
-/

namespace Intake

namespace Fields

variable {α : Type}

/-- Different names are found in whatever order they stand. -/
theorem get?_of_perm {left right : Fields α} (perm : left.Perm right)
    (distinct : (names left).Nodup) (name : String) : get? name left = get? name right := by
  have rightDistinct : (names right).Nodup := (perm.map Prod.fst).nodup_iff.1 distinct
  apply Option.ext
  intro content
  constructor
  · intro found
    exact get?_of_mem rightDistinct (perm.mem_iff.1 (mem_of_get? found))
  · intro found
    exact get?_of_mem distinct (perm.mem_iff.2 (mem_of_get? found))

end Fields

namespace Percent

theorem keptInPath_hexDigit : ∀ value < 16, keptInPath (hexDigit value) = true := by
  decide

theorem keptInPath_of_mem_encodeByte {byte : UInt8} {character : Char}
    (member : character ∈ encodeByte byte) : character = '%' ∨ keptInPath character = true := by
  have bound := byte.toNat_lt
  simp only [encodeByte, List.mem_cons, List.not_mem_nil, or_false] at member
  rcases member with rfl | rfl | rfl
  · exact Or.inl rfl
  · exact Or.inr (keptInPath_hexDigit _ (by omega))
  · exact Or.inr (keptInPath_hexDigit _ (by omega))

/-- A segment of a path has only percent signs and characters that are kept. -/
theorem keptInPath_of_mem {text : List Char} {character : Char}
    (member : character ∈ pathSegment text) :
    character = '%' ∨ keptInPath character = true := by
  obtain ⟨source, -, inside⟩ := List.mem_flatMap.1 member
  rw [encodeChar] at inside
  split at inside
  · next kept => exact Or.inr (List.mem_singleton.1 inside ▸ kept)
  · obtain ⟨byte, -, inByte⟩ := List.mem_flatMap.1 inside
    exact keptInPath_of_mem_encodeByte inByte

theorem not_mem_pathSegment {character : Char} (marks : character ≠ '%')
    (changed : keptInPath character = false) (text : List Char) :
    character ∉ pathSegment text := by
  intro member
  rcases keptInPath_of_mem member with same | kept
  · exact marks same
  · rw [changed] at kept
    cases kept

end Percent

namespace Url

structure PlainText where
  text : List Char
  unopened : '{' ∉ text := by decide
  unclosed : '}' ∉ text := by decide

structure ParameterName extends PlainText where
  unmarked : '?' ∉ text := by decide

inductive Part where
  | literal (content : PlainText)
  | placeholder (name : ParameterName) (optional : Bool)

/-- The display text of a value as a segment of a path has no braces. -/
def segmentOf (value : Value) : PlainText where
  text := Percent.pathSegment value.display
  unopened := Percent.not_mem_pathSegment (by decide) (by decide) _
  unclosed := Percent.not_mem_pathSegment (by decide) (by decide) _

namespace Part

def text : Part → List Char
  | literal content => content.text
  | placeholder name true => optionalPlaceholder name.text
  | placeholder name false => requiredPlaceholder name.text

def isNamed (name : List Char) : Part → Bool
  | literal _ => false
  | placeholder other _ => other.text == name

def inside? : Part → Option (List Char)
  | literal _ => none
  | placeholder name optional => some (if optional then name.text ++ ['?'] else name.text)

/-- The text of a placeholder is its inside between braces. -/
theorem text_of_inside? {part : Part} {inside : List Char} (within : part.inside? = some inside) :
    part.text = '{' :: (inside ++ ['}']) ∧ '{' ∉ inside ∧ '}' ∉ inside := by
  cases part with
  | literal content => cases within
  | placeholder name optional =>
    obtain rfl := Option.some.inj within
    have unopened := name.unopened
    have unclosed := name.unclosed
    cases optional with
    | false => exact ⟨rfl, unopened, unclosed⟩
    | true => simp [text, optionalPlaceholder, unopened, unclosed]

/-- The part with a segment in its place if it is the placeholder with an inside. -/
def fillInside (inside : List Char) (segment : PlainText) (part : Part) : Part :=
  if part.inside? = some inside then literal segment else part

def fill (name : List Char) (segment : PlainText) (part : Part) : Part :=
  if part.isNamed name then literal segment else part

/-- A placeholder is that of a name if its inside is the name with or without a question mark. -/
theorem isNamed_iff (name : ParameterName) (part : Part) :
    part.isNamed name.text = true ↔
      part.inside? = some name.text ∨ part.inside? = some (name.text ++ ['?']) := by
  cases part with
  | literal content => simp [isNamed, inside?]
  | placeholder other optional =>
    cases optional with
    | false =>
      have unmarked : other.text ≠ name.text ++ ['?'] := fun same =>
        other.unmarked (same ▸ by simp)
      simp [isNamed, inside?, unmarked]
    | true =>
      have unmarked : other.text ++ ['?'] ≠ name.text := fun same =>
        name.unmarked (same ▸ by simp)
      simp [isNamed, inside?, unmarked]

theorem fillInside_fillInside (name : ParameterName) (segment : PlainText) (part : Part) :
    fillInside (name.text ++ ['?']) segment (fillInside name.text segment part) =
      fill name.text segment part := by
  by_cases required : part.inside? = some name.text
  · have named := (isNamed_iff name part).2 (Or.inl required)
    have filledNow : fillInside name.text segment part = literal segment := if_pos required
    rw [filledNow, fill, if_pos named]
    rfl
  · have optional : part.isNamed name.text = true ↔
        part.inside? = some (name.text ++ ['?']) := by
      simp [isNamed_iff, required]
    simp only [fillInside, if_neg required, fill, optional]

/-- The part with the value of its parameter, if there is one. -/
def filled (parameters : Fields Value) : Part → Part
  | literal content => literal content
  | placeholder name optional =>
    match Fields.get? (String.ofList name.text) parameters with
    | some value => literal (segmentOf value)
    | none => placeholder name optional

/-- What becomes of a part: a placeholder with a value shows it, and without one is left as it is
written or left out. -/
def resolved (parameters : Fields Value) : Part → List Char
  | literal content => content.text
  | placeholder name optional =>
    match Fields.get? (String.ofList name.text) parameters with
    | some value => Percent.pathSegment value.display
    | none => if optional then [] else requiredPlaceholder name.text

end Part

def written (parts : List Part) : List Char :=
  parts.flatMap Part.text

section Written

variable {inside : List Char} (unclosed : '}' ∉ inside)

include unclosed

theorem replace_part (segment : PlainText) (part : Part) (rest : List Char) :
    Text.replace (requiredPlaceholder inside) segment.text (part.text ++ rest) =
      (part.fillInside inside segment).text ++
        Text.replace (requiredPlaceholder inside) segment.text rest := by
  cases within : part.inside? with
  | none =>
    cases part with
    | placeholder name optional => cases within
    | literal content => exact Text.replace_append_of_not_mem content.unopened _ _
  | some other =>
    obtain ⟨text, otherUnopened, otherUnclosed⟩ := Part.text_of_inside? within
    have replaced := Text.replace_bracketed unclosed otherUnclosed otherUnopened (by decide) rest
      segment.text
    rw [text, List.cons_append, List.append_assoc, Part.fillInside, within]
    refine Eq.trans replaced ?_
    by_cases same : inside = other
    · subst same
      rw [if_pos rfl, if_pos rfl]
      rfl
    · have different : ¬ some other = some inside := fun equal => same (Option.some.inj equal).symm
      rw [if_neg same, if_neg different, text]
      rfl

theorem replace_written (segment : PlainText) (parts : List Part) :
    Text.replace (requiredPlaceholder inside) segment.text (written parts) =
      written (parts.map (Part.fillInside inside segment)) := by
  induction parts with
  | nil => rfl
  | cons part others ih =>
    rw [written, List.flatMap_cons, replace_part unclosed]
    rw [written] at ih
    rw [ih, List.map_cons, written, written, List.flatMap_cons]

theorem contains_part (part : Part) (rest : List Char) :
    Text.contains (requiredPlaceholder inside) (part.text ++ rest) =
      (decide (part.inside? = some inside) || Text.contains (requiredPlaceholder inside) rest) := by
  cases within : part.inside? with
  | none =>
    cases part with
    | placeholder name optional => cases within
    | literal content => exact Text.contains_append_of_not_mem content.unopened _
  | some other =>
    obtain ⟨text, otherUnopened, otherUnclosed⟩ := Part.text_of_inside? within
    have found := Text.contains_bracketed unclosed otherUnclosed otherUnopened (by decide) rest
    have same : decide (inside = other) = decide (some other = some inside) := by
      rw [decide_eq_decide, Option.some.injEq, eq_comm]
    rw [text, List.cons_append, List.append_assoc, ← same]
    exact found

theorem contains_written (parts : List Part) :
    Text.contains (requiredPlaceholder inside) (written parts) =
      parts.any fun part => decide (part.inside? = some inside) := by
  induction parts with
  | nil => rfl
  | cons part others ih =>
    rw [written] at ih ⊢
    rw [List.flatMap_cons, contains_part unclosed, ih, List.any_cons]

end Written

section Named

variable (name : ParameterName) (parts : List Part)

theorem unclosed_optional : '}' ∉ name.text ++ ['?'] := by
  simp [name.unclosed]

theorem optionalPlaceholder_eq :
    optionalPlaceholder name.text = requiredPlaceholder (name.text ++ ['?']) := by
  simp [optionalPlaceholder, requiredPlaceholder]

theorem hasPlaceholder_written :
    hasPlaceholder name.text (written parts) = parts.any (Part.isNamed name.text) := by
  rw [hasPlaceholder, optionalPlaceholder_eq, contains_written name.unclosed,
    contains_written (unclosed_optional name), Bool.eq_iff_iff]
  simp only [Bool.or_eq_true, List.any_eq_true, decide_eq_true_eq, Part.isNamed_iff]
  constructor
  · rintro (⟨part, member, required⟩ | ⟨part, member, optional⟩)
    · exact ⟨part, member, Or.inl required⟩
    · exact ⟨part, member, Or.inr optional⟩
  · rintro ⟨part, member, required | optional⟩
    · exact Or.inl ⟨part, member, required⟩
    · exact Or.inr ⟨part, member, optional⟩

theorem fillNamed_written (segment : PlainText) :
    fillNamed name.text segment.text (written parts) =
      written (parts.map (Part.fill name.text segment)) := by
  rw [fillNamed, optionalPlaceholder_eq, replace_written name.unclosed,
    replace_written (unclosed_optional name), List.map_map]
  congr 1
  exact List.map_congr_left fun part _ => Part.fillInside_fillInside name segment part

end Named

theorem dropOptionalFrom_filled (parameters : Fields Value) (part : Part) (rest : List Char) :
    dropOptionalFrom none ((part.filled parameters).text ++ rest) =
      part.resolved parameters ++ dropOptionalFrom none rest := by
  cases part with
  | literal content => exact dropOptionalFrom_none_append content.unopened rest
  | placeholder name optional =>
    cases found : Fields.get? (String.ofList name.text) parameters with
    | some value =>
      simp only [Part.filled, Part.resolved, found]
      exact dropOptionalFrom_none_append (segmentOf value).unopened rest
    | none =>
      simp only [Part.filled, Part.resolved, found]
      obtain ⟨text, -, unclosed⟩ :=
        @Part.text_of_inside? (.placeholder name optional) _ rfl
      rw [text, List.cons_append, List.append_assoc, List.singleton_append,
        dropOptionalFrom_placeholder unclosed]
      simp only [isSuffixOf_placeholder]
      cases optional with
      | true => simp
      | false =>
        have unmarked : ¬ name.text.getLast? = some '?' := fun last =>
          name.unmarked (List.mem_of_getLast? last)
        simp [unmarked, requiredPlaceholder]

theorem dropOptionalFrom_written (parameters : Fields Value) (parts : List Part) :
    dropOptionalFrom none (written (parts.map (Part.filled parameters))) =
      parts.flatMap (Part.resolved parameters) := by
  induction parts with
  | nil => rfl
  | cons part others ih =>
    rw [written] at ih ⊢
    rw [List.map_cons, List.flatMap_cons, dropOptionalFrom_filled, ih, List.flatMap_cons]

end Url

namespace Host

open Url

/-- The parameters without a placeholder, in their order. -/
def unplaced (parts : List Part) (parameters : Fields Value) : List (List Char × List Char) :=
  (parameters.filter fun parameter => !parts.any (Part.isNamed parameter.1.toList)).map
    fun parameter => (parameter.1.toList, parameter.2.display)

/-- The path of a pattern with all its placeholders filled at once. -/
def filledPath (parts : List Part) (parameters : Fields Value) : List Char :=
  Text.dropEndWhile (· == '/') (parts.flatMap (Part.resolved parameters))

/-- The query of the parameters without a placeholder, if there are any. -/
def queryOf (parts : List Part) (parameters : Fields Value) : List Char :=
  if unplaced parts parameters = [] then [] else '?' :: Percent.query (unplaced parts parameters)

theorem fillParameter_written (name : ParameterName) (value : Value) (parts : List Part)
    (extra : List (List Char × List Char)) :
    fillParameter ⟨written parts, extra⟩ (String.ofList name.text, value) =
      if parts.any (Part.isNamed name.text) then
        ⟨written (parts.map (Part.fill name.text (segmentOf value))), extra⟩
      else ⟨written parts, extra ++ [(name.text, value.display)]⟩ := by
  simp only [fillParameter, String.toList_ofList, hasPlaceholder_written name]
  split
  · rw [← fillNamed_written]
    rfl
  · rfl

/-- Filling one parameter and then the others is filling all of them. -/
theorem filled_fill (name : ParameterName) (value : Value) (others : Fields Value) (part : Part) :
    ((part.fill name.text (segmentOf value)).filled others) =
      part.filled ((String.ofList name.text, value) :: others) := by
  cases part with
  | literal content => rfl
  | placeholder other optional =>
    by_cases same : other.text = name.text
    · have named : (Part.placeholder other optional).isNamed name.text = true := by
        simpa [Part.isNamed] using same
      rw [Part.fill, if_pos named]
      simp [Part.filled, Fields.get?, same]
    · have unnamed : ¬ (Part.placeholder other optional).isNamed name.text = true := by
        simpa [Part.isNamed] using same
      have different : ¬ String.ofList name.text = String.ofList other.text := by
        rw [String.ofList_inj]
        exact Ne.symm same
      rw [Part.fill, if_neg unnamed]
      simp only [Part.filled, Fields.get?, if_neg different]

theorem isNamed_fill {name other : List Char} (different : other ≠ name) (segment : PlainText)
    (part : Part) : (part.fill name segment).isNamed other = part.isNamed other := by
  by_cases named : part.isNamed name = true
  · cases part with
    | literal content => rfl
    | placeholder inner optional =>
      have same : inner.text = name := by simpa [Part.isNamed] using named
      rw [Part.fill, if_pos named]
      simp [Part.isNamed, same, Ne.symm different]
  · rw [Part.fill, if_neg named]

theorem fill_of_not_isNamed {name : List Char} {part : Part}
    (unnamed : part.isNamed name = false) (segment : PlainText) :
    part.fill name segment = part := by
  rw [Part.fill, if_neg (by simp [unnamed])]

theorem unplaced_cons (parts : List Part) (name : ParameterName) (value : Value)
    (others : Fields Value) :
    unplaced parts ((String.ofList name.text, value) :: others) =
      if parts.any (Part.isNamed name.text) then unplaced parts others
      else (name.text, value.display) :: unplaced parts others := by
  cases placed : parts.any (Part.isNamed name.text) <;> simp [unplaced, placed]

theorem unplaced_fill {name : List Char} {others : Fields Value}
    (fresh : ∀ other ∈ others, other.1.toList ≠ name) (segment : PlainText) (parts : List Part) :
    unplaced (parts.map (Part.fill name segment)) others = unplaced parts others := by
  have same : ∀ other ∈ others,
      (!(parts.map (Part.fill name segment)).any (Part.isNamed other.1.toList)) =
        !parts.any (Part.isNamed other.1.toList) := by
    intro other member
    rw [List.any_map]
    congr 2
    exact funext fun part => isNamed_fill (fresh other member) segment part
  rw [unplaced, List.filter_congr same, unplaced]

theorem exists_parameterName {key : String} (plain : ∀ mark ∈ ['{', '}', '?'], mark ∉ key.toList) :
    ∃ name : ParameterName, key = String.ofList name.text :=
  ⟨⟨⟨key.toList, plain _ (by simp), plain _ (by simp)⟩, plain _ (by simp)⟩, by simp⟩

/-- Parameters that are filled in one after the other are filled in all at once. -/
theorem foldl_fillParameter {parameters : Fields Value}
    (distinct : (Fields.names parameters).Nodup)
    (plain : ∀ parameter ∈ parameters, ∀ mark ∈ ['{', '}', '?'], mark ∉ parameter.1.toList)
    (parts : List Part) (extra : List (List Char × List Char)) :
    parameters.foldl fillParameter ⟨written parts, extra⟩ =
      ⟨written (parts.map (Part.filled parameters)), extra ++ unplaced parts parameters⟩ := by
  induction parameters generalizing parts extra with
  | nil =>
    have unfilled : parts.map (Part.filled []) = parts := by
      refine List.map_id'' (fun part => ?_) parts
      cases part <;> rfl
    rw [unfilled]
    simp [unplaced]
  | cons parameter others ih =>
    obtain ⟨key, value⟩ := parameter
    rw [List.forall_mem_cons] at plain
    obtain ⟨name, rfl⟩ := exists_parameterName plain.1
    obtain ⟨fresh, othersDistinct⟩ := List.nodup_cons.1 distinct
    have fills : (parts.map (Part.fill name.text (segmentOf value))).map (Part.filled others) =
        parts.map (Part.filled ((String.ofList name.text, value) :: others)) := by
      rw [List.map_map]
      exact List.map_congr_left fun part _ => filled_fill name value others part
    rw [List.foldl_cons, fillParameter_written, unplaced_cons]
    split
    · have different : ∀ other ∈ others, other.1.toList ≠ name.text := by
        intro other member same
        apply fresh
        exact List.mem_map.2 ⟨other, member, by rw [← same, String.ofList_toList]⟩
      rw [ih othersDistinct plain.2, fills, unplaced_fill different]
    · next absent =>
      have same : parts.map (Part.fill name.text (segmentOf value)) = parts := by
        refine (List.map_congr_left fun part member => ?_).trans (List.map_id parts)
        refine fill_of_not_isNamed ?_ _
        simpa using List.any_eq_false.1 (Bool.not_eq_true _ ▸ absent) part member
      rw [same] at fills
      rw [ih othersDistinct plain.2, fills, List.append_assoc, List.singleton_append]

/-- A route is the address of its pattern with every placeholder filled at once, followed by the
query of the parameters that found no place, and only the query depends on the order of the
parameters. -/
theorem route_of_pattern (host : Host) {name : String} {parts : List Part}
    (registered : Fields.get? name host.routes = some (String.ofList (written parts)))
    {parameters : Fields Value} (distinct : (Fields.names parameters).Nodup)
    (plain : ∀ parameter ∈ parameters, ∀ mark ∈ ['{', '}', '?'], mark ∉ parameter.1.toList)
    {reordered : Fields Value} (perm : reordered.Perm parameters) :
    host.route name (.object reordered) =
      .ok (host.url (filledPath parts parameters) ++ queryOf parts reordered) := by
  have sameNames := (perm.map Prod.fst).nodup_iff.2 distinct
  have filled := foldl_fillParameter sameNames
    (fun parameter member => plain parameter (perm.mem_iff.1 member)) parts []
  have resolves : Part.resolved reordered = Part.resolved parameters := by
    funext part
    cases part with
    | literal content => rfl
    | placeholder name optional =>
      simp only [Part.resolved, Fields.get?_of_perm perm sameNames]
  rw [route, registered]
  simp only [fillRoute, String.toList_ofList, filled, List.nil_append, dropOptional,
    dropOptionalFrom_written, resolves, filledPath, queryOf]
  split
  · rw [List.append_nil]
  · rfl

def voucherParts : List Part :=
  [.literal ⟨"/vouchers/".toList, by decide, by decide⟩,
    .placeholder ⟨⟨"code".toList, by decide, by decide⟩, by decide⟩ false,
    .literal ⟨"/".toList, by decide, by decide⟩,
    .placeholder ⟨⟨"tab".toList, by decide, by decide⟩, by decide⟩ false,
    .placeholder ⟨⟨"code".toList, by decide, by decide⟩, by decide⟩ true,
    .literal ⟨"/".toList, by decide, by decide⟩,
    .placeholder ⟨⟨"page".toList, by decide, by decide⟩, by decide⟩ true]

def voucherHost : Host where
  baseUrl := "https://app.test/"
  routes := [("voucher", String.ofList (written voucherParts))]

/-- The value of the code looks like a placeholder of its own. -/
theorem route_of_pattern_voucher :
    let parameters : Fields Value := [("note", .text "x y"), ("code", .text "{tab}")]
    let reordered : Fields Value := [("code", .text "{tab}"), ("note", .text "x y")]
    Fields.get? "voucher" voucherHost.routes = some (String.ofList (written voucherParts)) ∧
      (Fields.names parameters).Nodup ∧ reordered.Perm parameters ∧
      (∀ parameter ∈ parameters, ∀ mark ∈ ['{', '}', '?'], mark ∉ parameter.1.toList) ∧
      voucherHost.route "voucher" (.object reordered) =
        .ok (voucherHost.url (filledPath voucherParts parameters) ++
          queryOf voucherParts reordered) ∧
      voucherHost.url (filledPath voucherParts parameters) ++ queryOf voucherParts reordered =
        "https://app.test/vouchers/%7Btab%7D/{tab}%7Btab%7D?note=x+y".toList := by
  intro parameters reordered
  have registered : Fields.get? "voucher" voucherHost.routes =
      some (String.ofList (written voucherParts)) := rfl
  have distinct : (Fields.names parameters).Nodup := by decide
  have plain : ∀ parameter ∈ parameters, ∀ mark ∈ ['{', '}', '?'],
      mark ∉ parameter.1.toList := by
    simp only [parameters, List.forall_mem_cons, List.not_mem_nil, false_imp_iff, implies_true,
      and_true]
    decide
  have perm : reordered.Perm parameters := List.Perm.swap _ _ _
  exact ⟨registered, distinct, perm, plain,
    route_of_pattern voucherHost registered distinct plain perm, by decide⟩

end Host

end Intake
