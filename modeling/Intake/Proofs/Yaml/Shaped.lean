import Intake.Proofs.Yaml.Scalar

/-!
# What is read of a document

A document is read node by node. A reference leads to another node, but only to one that the
document holds, so whatever is read for a shape is read from nodes of the document: the items of a
list from items, and the fields of a record from contents that are not absent. Of the optional
fields that can hold anything only those are null whose nodes are marked so.
-/

namespace Intake

namespace Yaml

namespace Reading

variable {α β : Type}

/-- Whether a computation has an answer when some number of references may be followed. -/
def Gives (reading : Reading α) (answer : α) : Prop :=
  ∃ left after, reading.run left = some (answer, after)

theorem Gives.bind {first : Reading α} {rest : α → Reading β} {answer : β}
    (gives : Gives (first >>= rest) answer) :
    ∃ between, Gives first between ∧ Gives (rest between) answer := by
  obtain ⟨left, after, run⟩ := gives
  rw [StateT.run_bind, Option.bind_eq_bind, Option.bind_eq_some_iff] at run
  obtain ⟨⟨between, remaining⟩, runFirst, runRest⟩ := run
  exact ⟨between, ⟨left, remaining, runFirst⟩, ⟨remaining, after, runRest⟩⟩

theorem Gives.pure {answer other : α} (gives : Gives (pure answer) other) : other = answer := by
  obtain ⟨left, after, run⟩ := gives
  cases run
  rfl

theorem Gives.lift {answer? : Option α} {answer : α} (gives : Gives (liftM answer?) answer) :
    answer? = some answer := by
  obtain ⟨left, after, run⟩ := gives
  cases answer? with
  | none => cases run
  | some other =>
    cases run
    rfl

theorem not_gives_failure {answer : α} : ¬Gives failure answer := by
  rintro ⟨left, after, run⟩
  cases run

theorem Gives.mapM {read : α → Reading β} {items : List α} {results : List β}
    (gives : Gives (items.mapM read) results) {result : β} (member : result ∈ results) :
    ∃ item ∈ items, Gives (read item) result := by
  induction items generalizing results with
  | nil =>
    rw [List.mapM_nil] at gives
    rw [gives.pure] at member
    cases member
  | cons item others ih =>
    rw [List.mapM_cons] at gives
    obtain ⟨first, readFirst, givesRest⟩ := gives.bind
    obtain ⟨rest, readRest, givesAll⟩ := givesRest.bind
    rw [givesAll.pure] at member
    rcases List.mem_cons.1 member with rfl | later
    · exact ⟨item, List.mem_cons_self, readFirst⟩
    · obtain ⟨other, inside, readOther⟩ := ih readRest later
      exact ⟨other, List.mem_cons_of_mem _ inside, readOther⟩

end Reading

namespace Node

/-- Whether a document holds a node: it is that node, or holds one of which that node is a part. -/
inductive Holds (root : Node) : Node → Prop
  | itself : Holds root root
  | item {anchor : Option Nat} {tag : Option Tag} {items : List Node} {item : Node}
    (around : Holds root (.sequence anchor tag items)) (member : item ∈ items) :
    Holds root item
  | key {anchor : Option Nat} {tag : Option Tag} {entries : List (Node × Node)}
    {entry : Node × Node} (around : Holds root (.mapping anchor tag entries))
    (member : entry ∈ entries) : Holds root entry.1
  | content {anchor : Option Nat} {tag : Option Tag} {entries : List (Node × Node)}
    {entry : Node × Node} (around : Holds root (.mapping anchor tag entries))
    (member : entry ∈ entries) : Holds root entry.2

/-- Whether a document holds a node that is not a reference to another. -/
def IsFound (root node : Node) : Prop :=
  Holds root node ∧ ∀ anchor, node ≠ .reference anchor

theorem eq_of_mem_atAnchor {anchor : Option Nat} {node : Node} {entry : Nat × Node}
    (member : entry ∈ atAnchor anchor node) : entry.2 = node := by
  obtain ⟨number, -, rfl⟩ := List.mem_map.1 member
  rfl

mutual

/-- What references can lead to is held by the document as well. -/
theorem Holds.isFound_of_mem_anchored {root : Node} :
    ∀ {node : Node}, Holds root node → ∀ entry ∈ node.anchored, IsFound root entry.2
  | .reference _, _ => List.forall_mem_nil _
  | .scalar anchor tag style text, holds => by
    intro entry member
    rw [eq_of_mem_atAnchor member]
    exact ⟨holds, fun _ => Node.noConfusion⟩
  | .sequence anchor tag items, holds => by
    intro entry member
    rw [anchored] at member
    rcases List.mem_append.1 member with itself | inside
    · rw [eq_of_mem_atAnchor itself]
      exact ⟨holds, fun _ => Node.noConfusion⟩
    · exact isFound_of_mem_anchoredItems (fun item => holds.item) entry inside
  | .mapping anchor tag entries, holds => by
    intro entry member
    rw [anchored] at member
    rcases List.mem_append.1 member with itself | inside
    · rw [eq_of_mem_atAnchor itself]
      exact ⟨holds, fun _ => Node.noConfusion⟩
    · exact isFound_of_mem_anchoredEntries
        (fun other inside => ⟨holds.key inside, holds.content inside⟩) entry inside

theorem isFound_of_mem_anchoredItems {root : Node} :
    ∀ {items : List Node}, (∀ item ∈ items, Holds root item) →
      ∀ entry ∈ anchoredItems items, IsFound root entry.2
  | [], _ => List.forall_mem_nil _
  | item :: others, hold => by
    rw [List.forall_mem_cons] at hold
    rw [anchoredItems]
    exact List.forall_mem_append.2
      ⟨hold.1.isFound_of_mem_anchored, isFound_of_mem_anchoredItems hold.2⟩

theorem isFound_of_mem_anchoredEntries {root : Node} :
    ∀ {entries : List (Node × Node)},
      (∀ entry ∈ entries, Holds root entry.1 ∧ Holds root entry.2) →
        ∀ entry ∈ anchoredEntries entries, IsFound root entry.2
  | [], _ => List.forall_mem_nil _
  | (key, content) :: others, hold => by
    rw [List.forall_mem_cons] at hold
    rw [anchoredEntries]
    exact List.forall_mem_append.2
      ⟨List.forall_mem_append.2
          ⟨hold.1.1.isFound_of_mem_anchored, hold.1.2.isFound_of_mem_anchored⟩,
        isFound_of_mem_anchoredEntries hold.2⟩

end

/-- What a node of a document stands for, be it a reference, is held by the document as well. -/
theorem Holds.followed {root node found : Node} (holds : Holds root node)
    (gives : Reading.Gives (node.followed root.anchored.reverse) found) : IsFound root found := by
  cases node with
  | reference anchor =>
    obtain ⟨left, after, run⟩ := gives
    cases left with
    | zero => cases run
    | succ left =>
      cases target : root.anchored.reverse.lookup anchor with
      | none =>
        simp only [Node.followed, target] at run
        cases run
      | some node =>
        simp only [Node.followed, target] at run
        cases run
        obtain ⟨before, behind, same, -⟩ := List.lookup_eq_some_iff.1 target
        have member : (anchor, found) ∈ root.anchored.reverse := by simp [same]
        exact Holds.itself.isFound_of_mem_anchored _ (List.mem_reverse.1 member)
  | scalar | sequence | mapping =>
    obtain rfl := Reading.Gives.pure gives
    exact ⟨holds, fun _ => Node.noConfusion⟩

theorem IsFound.followed {root node found : Node} {anchors : List (Nat × Node)}
    (isFound : IsFound root node) (gives : Reading.Gives (node.followed anchors) found) :
    found = node := by
  cases node with
  | reference anchor => exact absurd rfl (isFound.2 anchor)
  | scalar | sequence | mapping => exact Reading.Gives.pure gives

/-- Whether a value is read for a shape from some node of a document. -/
def IsRead (root : Node) (shape : Shape) (value : Value) : Prop :=
  ∃ node levels, Holds root node ∧
    Reading.Gives (shapedAt? root.anchored.reverse shape levels node) value

/-- Whether the content of a field is read, from a node of a document, for the shape that a record
knows for it. For an optional field that node is not absent. -/
def IsKnown (root : Node) (known : List (String × Shape)) (field : String × Value) : Prop :=
  ∃ shape node levels, (field.1, shape) ∈ known ∧ IsFound root node ∧
    (shape.isOptional = true → node.isAbsent? = some false) ∧
    Reading.Gives (shapedAt? root.anchored.reverse shape levels node) field.2

/-- A list that is read for a shape has only items that are. -/
theorem IsRead.items {root : Node} {shape : Shape} {value : Value}
    (isRead : IsRead root (.list shape) value) :
    ∃ items, value = .array items ∧ ∀ item ∈ items, IsRead root shape item := by
  obtain ⟨node, levels, holds, gives⟩ := isRead
  rw [shapedAt?] at gives
  obtain ⟨found, leads, gives⟩ := gives.bind
  have isFound := holds.followed leads
  split at gives
  · next level _ anchor tag nodes =>
    obtain ⟨items, readItems, givesArray⟩ := gives.bind
    refine ⟨items, givesArray.pure, ?_⟩
    intro item member
    obtain ⟨node, inside, readItem⟩ := readItems.mapM member
    exact ⟨node, level, isFound.1.item inside, readItem⟩
  · split at gives
    · exact ⟨[], gives.pure, List.forall_mem_nil _⟩
    · exact absurd gives Reading.not_gives_failure

theorem exists_mem_of_namedEntries? {anchors : List (Nat × Node)} {entries : List (Node × Node)}
    {named : List (String × Node)} (gives : Reading.Gives (namedEntries? anchors entries) named)
    {entry : String × Node} (member : entry ∈ named) :
    ∃ written ∈ entries, written.2 = entry.2 := by
  obtain ⟨written, inside, givesEntry⟩ := gives.mapM member
  obtain ⟨text, -, givesPair⟩ := givesEntry.bind
  refine ⟨written, inside, ?_⟩
  rw [givesPair.pure]

theorem mem_of_soleEntry? {name : String} {entries : List (String × Node)} {content : Node}
    (sole : soleEntry? name entries = some (some content)) :
    ∃ entry ∈ entries, entry.2 = content := by
  unfold soleEntry? at sole
  split at sole
  · cases sole
  · next entry found =>
    cases sole
    have member : entry ∈ entries.filter fun entry => entry.1 == name := by simp [found]
    exact ⟨entry, (List.mem_filter.1 member).1, rfl⟩
  · cases sole

/-- A known field is left out if it is absent, and otherwise read in front of the other ones. -/
theorem isKnown_of_content {root content : Node} {known : List (String × Shape)} {name : String}
    {shape : Shape} (listed : (name, shape) ∈ known) (isFound : IsFound root content)
    {absent : Bool} (isAbsent : shape.isOptional = true → content.isAbsent? = some absent)
    {others fields : Fields Value} (rest : ∀ field ∈ others, IsKnown root known field)
    {levels : Nat}
    (gives : Reading.Gives
      (if absent = true then pure others
      else do
        let value ← shapedAt? root.anchored.reverse shape levels content
        return (name, value) :: others) fields) :
    ∀ field ∈ fields, IsKnown root known field := by
  cases absent with
  | true =>
    rw [gives.pure]
    exact rest
  | false =>
    obtain ⟨value, readValue, gives⟩ := gives.bind
    rw [gives.pure]
    exact List.forall_mem_cons.2
      ⟨⟨shape, content, levels, listed, isFound, isAbsent, readValue⟩, rest⟩

theorem isKnown_of_shapedFields? {root : Node} {known : List (String × Shape)} {levels : Nat}
    {entries : List (String × Node)} {fields : Fields Value}
    (hold : ∀ entry ∈ entries, Holds root entry.2)
    (gives : Reading.Gives (shapedFields? root.anchored.reverse known levels entries) fields) :
    ∀ field ∈ fields, IsKnown root known field := by
  induction known generalizing fields with
  | nil =>
    rw [shapedFields?] at gives
    rw [gives.pure]
    exact List.forall_mem_nil _
  | cons first rest ih =>
    obtain ⟨name, shape⟩ := first
    rw [shapedFields?] at gives
    obtain ⟨content?, sole, gives⟩ := gives.bind
    obtain ⟨others, readOthers, gives⟩ := gives.bind
    have known (field : String × Value) (member : field ∈ others) :
        IsKnown root ((name, shape) :: rest) field := by
      obtain ⟨shape', node, levels, inside, isKnown⟩ := ih readOthers field member
      exact ⟨shape', node, levels, List.mem_cons_of_mem _ inside, isKnown⟩
    cases content? with
    | none =>
      rw [gives.pure]
      exact known
    | some content =>
      obtain ⟨entry, inside, rfl⟩ := mem_of_soleEntry? sole.lift
      obtain ⟨found, leads, gives⟩ := gives.bind
      have isFound := (hold entry inside).followed leads
      split at gives
      · obtain ⟨absent, isAbsent, gives⟩ := gives.bind
        exact isKnown_of_content List.mem_cons_self isFound (fun _ => isAbsent.lift) known gives
      · next required =>
        obtain ⟨absent, -, gives⟩ := gives.bind
        exact isKnown_of_content List.mem_cons_self isFound
          (fun optional => absurd optional required) known gives

/-- A record that is read has only fields that are known. -/
theorem IsRead.fields {root : Node} {known : List (String × Shape)} {value : Value}
    (isRead : IsRead root (.record known) value) :
    ∃ fields, value = .object fields ∧ ∀ field ∈ fields, IsKnown root known field := by
  obtain ⟨node, levels, holds, gives⟩ := isRead
  rw [shapedAt?] at gives
  obtain ⟨found, leads, gives⟩ := gives.bind
  have isFound := holds.followed leads
  split at gives
  · next level _ anchor tag entries =>
    obtain ⟨named, readNames, gives⟩ := gives.bind
    obtain ⟨fields, readFields, givesObject⟩ := gives.bind
    refine ⟨fields, givesObject.pure, isKnown_of_shapedFields? ?_ readFields⟩
    intro entry member
    obtain ⟨written, inside, same⟩ := exists_mem_of_namedEntries? readNames member
    exact same ▸ isFound.1.content inside
  · split at gives
    · exact ⟨[], gives.pure, List.forall_mem_nil _⟩
    · exact absurd gives Reading.not_gives_failure

theorem isRead_of_shaped? {shape : Shape} {root : Node} {value : Value}
    (read : shaped? shape root = some value) : IsRead root shape value := by
  obtain ⟨⟨_, after⟩, run, rfl⟩ := Option.map_eq_some_iff.1 read
  exact ⟨root, maxDepth, .itself, _, after, run⟩

/-- Of what is read without a purpose only a scalar is null. -/
theorem IsFound.exists_scalar {root node : Node} {anchors : List (Nat × Node)} {levels : Nat}
    (isFound : IsFound root node) (gives : Reading.Gives (valueAt? anchors levels node) .null) :
    ∃ anchor tag style text, node = .scalar anchor tag style text ∧
      scalarValue? tag style text = some .null := by
  cases levels with
  | zero =>
    rw [valueAt?] at gives
    obtain ⟨found, leads, answers⟩ := gives.bind
    obtain rfl := isFound.followed leads
    split at answers
    · next anchor tag style text => exact ⟨anchor, tag, style, text, rfl, answers.lift⟩
    · exact absurd answers Reading.not_gives_failure
  | succ levels =>
    rw [valueAt?] at gives
    obtain ⟨found, leads, answers⟩ := gives.bind
    obtain rfl := isFound.followed leads
    split at answers
    · exact absurd answers Reading.not_gives_failure
    · next anchor tag style text => exact ⟨anchor, tag, style, text, rfl, answers.lift⟩
    · split at answers
      · obtain ⟨_, fails, -⟩ := answers.bind
        exact absurd fails Reading.not_gives_failure
      · obtain ⟨items, -, isArray⟩ := answers.bind
        cases isArray.pure
    · split at answers
      · obtain ⟨_, fails, -⟩ := answers.bind
        exact absurd fails Reading.not_gives_failure
      · obtain ⟨named, -, answers⟩ := answers.bind
        obtain ⟨fields, -, isObject⟩ := answers.bind
        cases isObject.pure

/-- What is read for an optional content of any kind, and is there, is null only if it is marked. -/
theorem IsFound.isMarkedNull {root node : Node} {anchors : List (Nat × Node)} {levels : Nat}
    (isFound : IsFound root node) (present : node.isAbsent? = some false)
    (gives : Reading.Gives (shapedAt? anchors (.optional .any) levels node) .null) :
    IsMarkedNull node := by
  rw [shapedAt?] at gives
  obtain ⟨found, leads, answers⟩ := gives.bind
  obtain rfl := isFound.followed leads
  obtain ⟨absent, isAbsent, content⟩ := answers.bind
  obtain rfl : absent = false := Option.some.inj (isAbsent.lift.symm.trans present)
  rw [if_neg Bool.false_ne_true, shapedAt?] at content
  obtain ⟨anchor, tag, style, text, rfl, isNull⟩ := isFound.exists_scalar content
  exact isMarkedNull_scalar_iff.2 ⟨isNull, present⟩

end Node

end Yaml

end Intake
