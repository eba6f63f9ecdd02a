import Intake.Condition.Parser

/-!
# Mapping rules

A driver says for each field of its target how the field is made. The shape of the raw value
decides the kind of rule: text with a block is a template, an object with certain keys is a
transformation, a choice or a reference, any other object is made field by field, and a scalar
stands for itself.
-/

namespace Intake

/-- An operation on a collection of the source. -/
inductive Transformation where
  | arrayMap
  | filter
  | first
  | count
  | join
deriving DecidableEq, Repr

namespace Transformation

def name : Transformation → String
  | arrayMap => "array_map"
  | filter => "filter"
  | first => "first"
  | count => "count"
  | join => "join"

def ofName? (name : String) : Option Transformation :=
  [arrayMap, filter, first, count, join].find? fun transformation => transformation.name == name

end Transformation

mutual

/-- How a value is made from a source. -/
inductive Rule where
  | literal (value : Value)
  | template (text : String)
  /-- A template given as an object with the key `template`. -/
  | templateObject (text : String)
  /-- An operation on the collection at a path of the source. -/
  | transform (source : List Char) (kind : Transformation) (handler : Option Rule)
      (condition : Option Condition) (separator : Option String)
  | conditional (test : Condition) (whenTrue whenFalse : Option Rule)
  | reference (origin : Origin) (test : Option Condition)
  | nested (fields : List (String × Rule))
  | sequence (items : List Rule)

/-- Where a reference takes its value from. -/
inductive Origin where
  | rule (rule : Rule)
  | template (text : String)
  | path (text : String)
  | literal (value : Value)

end

inductive RuleFault where
  | tooDeep
  | notText
  | noSourcePath
  | unknownTransformation (name : String)
  | notCondition
  | badCondition (error : Condition.ParseError)
deriving DecidableEq, Repr

structure RuleError where
  field : String
  fault : RuleFault
deriving DecidableEq, Repr

namespace Rule

def maxLevels : Nat := 64

end Rule

namespace Condition.ParseError

/-- The wording of a condition's error where any kind of error may stand. -/
def fullMessage (error : Condition.ParseError) : String :=
  "Expression parse error: " ++ error.message

end Condition.ParseError

namespace RuleError

/-- The wording of an error, which starts with the field. -/
def message (error : RuleError) : String :=
  error.field ++ ": " ++
    match error.fault with
    | .tooDeep => "mapping nested deeper than " ++ toString Rule.maxLevels
    | .notText => "expected a string"
    | .noSourcePath => "expected a non-empty dot path"
    | .unknownTransformation name =>
      "unknown transform '" ++ name ++ "' (expected array_map, filter, first, count or join)"
    | .notCondition => "expected a condition string"
    | .badCondition error => error.fullMessage

end RuleError

namespace Rule

def hasBlock (text : String) : Bool :=
  Text.contains ['{', '{'] text.toList

def readCondition (field : String) : Value → Except RuleError Condition
  | .text content =>
    match Condition.parse content.toList with
    | .ok condition => .ok condition
    | .error error => .error ⟨field, .badCondition error⟩
  | .bool value => .ok ⟨if value then "true".toList else "false".toList, .constant value⟩
  | _ => .error ⟨field, .notCondition⟩

/-- The condition of a key that may be missing or null. -/
def readOptionalCondition (field : String) : Option Value → Except RuleError (Option Condition)
  | none => .ok none
  | some .null => .ok none
  | some value => (readCondition field value).map some

def readSource (field : String) : Option Value → Except RuleError (List Char)
  | some (.text content) =>
    if Text.trim content.toList = [] then .error ⟨field, .noSourcePath⟩
    else .ok (Text.trim content.toList)
  | _ => .error ⟨field, .noSourcePath⟩

def readTransformation (field : String) : Option Value → Except RuleError Transformation
  | some (.text name) =>
    match Transformation.ofName? name with
    | some transformation => .ok transformation
    | none => .error ⟨field, .unknownTransformation name⟩
  | _ => .error ⟨field, .notText⟩

def readSeparator (field : String) : Option Value → Except RuleError (Option String)
  | none => .ok none
  | some .null => .ok none
  | some (.text content) => .ok (some content)
  | _ => .error ⟨field, .notText⟩

/-- The rule of a key that may be missing, read with the key's name. -/
def readOptional (read : String → Value → Except RuleError Rule) (field key : String)
    (fields : Fields Value) : Except RuleError (Option Rule) :=
  match Fields.get? key fields with
  | none => .ok none
  | some value => (read (field ++ "." ++ key) value).map some

/-- The origin of a reference: a rule of its own, a template, a path or a literal. -/
def readOrigin (read : String → Value → Except RuleError Rule) (field : String) :
    Value → Except RuleError Origin
  | .array items => (read field (.array items)).map .rule
  | .object fields => (read field (.object fields)).map .rule
  | .text content =>
    if hasBlock content then .ok (.template content)
    else if '.' ∈ content.toList then .ok (.path content)
    else .ok (.literal (.text content))
  | other => .ok (.literal other)

/-- The rule of an object that is a transformation. -/
def readTransform (read : String → Value → Except RuleError Rule) (field : String)
    (fields : Fields Value) : Except RuleError Rule := do
  let source ← readSource (field ++ ".source") (Fields.get? "source" fields)
  let kind ← readTransformation (field ++ ".transform") (Fields.get? "transform" fields)
  let handler ←
    match Fields.get? "handler" fields with
    | none | some .null => .ok none
    | some value => (read (field ++ ".handler") value).map some
  let condition ← readOptionalCondition (field ++ ".condition") (Fields.get? "condition" fields)
  let separator ← readSeparator (field ++ ".separator") (Fields.get? "separator" fields)
  return .transform source kind handler condition separator

def readObject (read : String → Value → Except RuleError Rule) (field : String)
    (fields : Fields Value) : Except RuleError Rule :=
  match Fields.get? "template" fields with
  | some (.text content) => .ok (.templateObject content)
  | some _ => .error ⟨field ++ ".template", .notText⟩
  | none =>
    if Fields.has "source" fields && Fields.has "transform" fields then
      readTransform read field fields
    else
      match Fields.get? "from" fields with
      | some value => do
        let origin ← readOrigin read (field ++ ".from") value
        let test ← readOptionalCondition (field ++ ".when") (Fields.get? "when" fields)
        return .reference origin test
      | none =>
        match Fields.get? "when" fields with
        | some value => do
          let test ← readCondition (field ++ ".when") value
          let whenTrue ← readOptional read field "then" fields
          let whenFalse ← readOptional read field "else" fields
          return .conditional test whenTrue whenFalse
        | none => do
          let rules ← fields.mapM fun pair => do
            let rule ← read (field ++ "." ++ pair.1) pair.2
            return (pair.1, rule)
          return .nested rules

/-- The rule of a raw value, with one more than the levels of nesting that are left. -/
def readLevels : Nat → String → Value → Except RuleError Rule
  | 0, field, _ => .error ⟨field, .tooDeep⟩
  | levels + 1, field, value =>
    match value with
    | .array items => do
      let rules ← items.zipIdx.mapM fun item =>
        readLevels levels (field ++ "." ++ toString item.2) item.1
      return .sequence rules
    | .object fields => readObject (readLevels levels) field fields
    | .text content => .ok (if hasBlock content then .template content else .literal value)
    | scalar => .ok (.literal scalar)

/-- The rule of a raw value; errors name the field. -/
def read (field : String) (value : Value) : Except RuleError Rule :=
  readLevels (maxLevels + 1) field value

def isLiteral : Rule → Bool
  | literal _ => true
  | _ => false

end Rule

end Intake
