import Intake.Value.Record
import Intake.Yaml.Node
import Intake.Yaml.PlainValue

/-!
# Reading documents

The values that documents stand for. A tag can fix the type of a scalar; without one a plain scalar
is typed by its spelling, and any other is text. A document that is read for a known purpose is read
by a shape: where a text is wanted, a scalar of any spelling is that text, and a known field must
not be repeated. A reference stands for the last node with its anchor. A document may nest only so
deep, and follow only so many references, so that one that contains itself is refused.
-/

namespace Intake

namespace Yaml

def maxDepth : Nat := 128

/-- How often references may be followed for each step that it takes to pass through a document. -/
def referencesPerStep : Nat := 100

/-- A computation that follows references, as long as there are some left to follow. -/
abbrev Reading := StateT Nat Option

def scalarValue? (tag : Option Tag) (style : ScalarStyle) (text : List Char) : Option Value :=
  match tag with
  | none => if style = .plain then plainValue? text else some (.ofChars text)
  | some .null => if isNullWord text then some .null else none
  | some .boolean => (boolean? text).map .bool
  | some .integer => ((integer? text).filter fitsWord).map .ofInt
  | some .float => (float? text).map .ofFloat
  | some .custom => none
  | some .foreign => some (.ofChars text)

/-- Whether a scalar may be read for a type: a plain one always, a literal one with its tag. -/
def admitsType (type : Tag) (tag : Option Tag) (style : ScalarStyle) : Bool :=
  style == .plain || (style == .literal && tag == some type)

namespace Node

/-- The node itself, or what a reference stands for. -/
def followed (anchors : List (Nat × Node)) : Node → Reading Node
  | .reference anchor => do
    match ← get, anchors.lookup anchor with
    | left + 1, some node =>
      set left
      return node
    | _, _ => failure
  | node => return node

def textAt? (anchors : List (Nat × Node)) (node : Node) : Reading (List Char) := do
  match ← node.followed anchors with
  | .scalar _ _ _ text => return text
  | _ => failure

/-- The texts of the keys of entries, with the nodes of their contents. -/
def namedEntries? (anchors : List (Nat × Node)) (entries : List (Node × Node)) :
    Reading (List (String × Node)) :=
  entries.mapM fun (entry : Node × Node) => do
    return (String.ofList (← textAt? anchors entry.1), entry.2)

/-- The value of a node that nests at most so deep. The keys of a mapping are the texts of scalars;
a repeated key keeps its place and takes the last value. -/
def valueAt? (anchors : List (Nat × Node)) : Nat → Node → Reading Value
  | 0, node => do
    match ← node.followed anchors with
    | .scalar _ tag style text => scalarValue? tag style text
    | _ => failure
  | levels + 1, node => do
    match ← node.followed anchors with
    | .reference _ => failure
    | .scalar _ tag style text => scalarValue? tag style text
    | .sequence _ tag items =>
      if tag = some .custom then failure
      return .array (← items.mapM (valueAt? anchors levels))
    | .mapping _ tag entries =>
      if tag = some .custom then failure
      let named ← namedEntries? anchors entries
      let fields ← named.mapM fun (entry : String × Node) => do
        return (entry.1, ← valueAt? anchors levels entry.2)
      return .object (Fields.ofPairs fields)

/-- The content of the only entry with a name; none of them is an empty answer, and several are a
failure. -/
def soleEntry? (name : String) (entries : List (String × Node)) : Option (Option Node) :=
  match entries.filter fun entry => entry.1 == name with
  | [] => some none
  | [entry] => some (some entry.2)
  | _ => none

/-- Whether a node is an empty collection without brackets: a plain scalar without characters. -/
def isEmptyScalar : Node → Bool
  | .scalar _ _ .plain [] => true
  | _ => false

/-- Whether a scalar stands for the absence of an optional content. A null tag on anything but a
word for null is a failure. -/
def isAbsent? : Node → Option Bool
  | .scalar _ none .plain text => some (isNull text)
  | .scalar _ (some .null) .plain text => if isNullWord text then some true else none
  | _ => some false

mutual

/-- The value of a node that is read for a shape and nests at most so deep. The fields of a record
that are not known are left out, and may be anything. -/
def shapedAt? (anchors : List (Nat × Node)) : Shape → Nat → Node → Reading Value
  | .any, levels, node => valueAt? anchors levels node
  | .text, _, node => return .ofChars (← textAt? anchors node)
  | .boolean, _, node => do
    match ← node.followed anchors with
    | .scalar _ tag style text =>
      if admitsType .boolean tag style then (boolean? text).map Value.bool else failure
    | _ => failure
  | .natural, _, node => do
    match ← node.followed anchors with
    | .scalar _ tag style text =>
      if admitsType .integer tag style then (natural? text).map Value.ofNat else failure
    | _ => failure
  | .optional shape, levels, node => do
    let node ← node.followed anchors
    if ← isAbsent? node then return .null else shapedAt? anchors shape levels node
  | .list shape, levels, node => do
    let node ← node.followed anchors
    match levels, node with
    | levels + 1, .sequence _ _ items =>
      return .array (← items.mapM (shapedAt? anchors shape levels))
    | _, node => if node.isEmptyScalar then return .array [] else failure
  | .table shape, levels, node => do
    let node ← node.followed anchors
    match levels, node with
    | levels + 1, .mapping _ _ entries =>
      let named ← namedEntries? anchors entries
      let fields ← named.mapM fun (entry : String × Node) => do
        return (entry.1, ← shapedAt? anchors shape levels entry.2)
      return .object (Fields.ofPairs fields)
    | _, node => if node.isEmptyScalar then return .object [] else failure
  | .record fields, levels, node => do
    let node ← node.followed anchors
    match levels, node with
    | levels + 1, .mapping _ _ entries =>
      return .object (← shapedFields? anchors fields levels (← namedEntries? anchors entries))
    | _, node => if node.isEmptyScalar then return .object [] else failure

/-- The known fields of a record's entries, without optional ones that are absent. -/
def shapedFields? (anchors : List (Nat × Node)) :
    List (String × Shape) → Nat → List (String × Node) → Reading (Fields Value)
  | [], _, _ => return []
  | (name, shape) :: rest, levels, entries => do
    let content? ← soleEntry? name entries
    let others ← shapedFields? anchors rest levels entries
    match content? with
    | none => return others
    | some content =>
      let content ← content.followed anchors
      let absent ← if shape.isOptional then isAbsent? content else some false
      if absent then return others
      else return (name, ← shapedAt? anchors shape levels content) :: others

end

/-- The value of a document's node for a shape. -/
def shaped? (shape : Shape) (node : Node) : Option Value :=
  (shapedAt? node.anchored.reverse shape maxDepth node).run' (referencesPerStep * node.size)

end Node

def readShaped? (shape : Shape) (text : List Char) : Option Value :=
  (Node.ofText? text).bind (Node.shaped? shape)

def readValue? (text : List Char) : Option Value :=
  readShaped? .any text

end Yaml

end Intake
