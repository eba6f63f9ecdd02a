import Intake.Number.Decimal
import Intake.Value.Fields

/-!
# Values

The documents that every part of the library reads and produces: null, booleans, numbers, texts,
arrays and objects. Objects keep the order of their fields. Integers and floating point numbers
stay distinct kinds of number even when they are equal in value.
-/

namespace Intake

/-- A number: an integer, or a finite floating point number. -/
inductive Number where
  | integer (value : Int)
  | float (value : Binary64)
deriving DecidableEq, Repr

/-- A document. -/
inductive Value where
  | null
  | bool (value : Bool)
  | number (value : Number)
  | text (value : String)
  | array (items : List Value)
  | object (fields : List (String × Value))
deriving Inhabited

namespace Number

/-- The number as a floating point number; a large integer is rounded. -/
def toFloat : Number → Binary64
  | integer value => Binary64.ofInt value
  | float value => value

/-- The exact text of a number: floating point numbers always show a point or an exponent. -/
def preciseText : Number → List Char
  | integer value => Decimal.ofInt value
  | float value => value.preciseText

/-- The text of a number as a reader wants it: whole numbers without a point. -/
def displayText : Number → List Char
  | integer value => Decimal.ofInt value
  | float value => value.displayText

/-- The smallest and largest integers that a 64-bit signed word holds. -/
def fitsSigned (value : Int) : Bool :=
  -(twoTo 63) ≤ value && value < twoTo 63

end Number

namespace Value

def ofInt (value : Int) : Value :=
  .number (.integer value)

def ofNat (value : Nat) : Value :=
  .number (.integer value)

/-- A floating point number; infinity has no value and becomes null. -/
def ofFloat (value : Binary64) : Value :=
  if value.isFinite then .number (.float value) else .null

def ofChars (characters : List Char) : Value :=
  .text (String.ofList characters)

def isNull : Value → Bool
  | null => true
  | _ => false

def text? : Value → Option String
  | text value => some value
  | _ => none

def array? : Value → Option (List Value)
  | array items => some items
  | _ => none

def object? : Value → Option (Fields Value)
  | object fields => some fields
  | _ => none

def field? (name : String) : Value → Option Value
  | object fields => Fields.get? name fields
  | _ => none

mutual

def decEq : (left right : Value) → Decidable (left = right)
  | null, null => isTrue rfl
  | bool left, bool right =>
    if same : left = right then isTrue (same ▸ rfl)
    else isFalse fun equal => same (Value.bool.inj equal)
  | number left, number right =>
    if same : left = right then isTrue (same ▸ rfl)
    else isFalse fun equal => same (Value.number.inj equal)
  | text left, text right =>
    if same : left = right then isTrue (same ▸ rfl)
    else isFalse fun equal => same (Value.text.inj equal)
  | array left, array right =>
    match decEqItems left right with
    | isTrue same => isTrue (same ▸ rfl)
    | isFalse different => isFalse fun equal => different (Value.array.inj equal)
  | object left, object right =>
    match decEqFields left right with
    | isTrue same => isTrue (same ▸ rfl)
    | isFalse different => isFalse fun equal => different (Value.object.inj equal)
  | null, bool _ | null, number _ | null, text _ | null, array _ | null, object _
  | bool _, null | bool _, number _ | bool _, text _ | bool _, array _ | bool _, object _
  | number _, null | number _, bool _ | number _, text _ | number _, array _
  | number _, object _
  | text _, null | text _, bool _ | text _, number _ | text _, array _ | text _, object _
  | array _, null | array _, bool _ | array _, number _ | array _, text _ | array _, object _
  | object _, null | object _, bool _ | object _, number _ | object _, text _
  | object _, array _ => isFalse (by intro equal; cases equal)

def decEqItems : (left right : List Value) → Decidable (left = right)
  | [], [] => isTrue rfl
  | [], _ :: _ => isFalse (by intro equal; cases equal)
  | _ :: _, [] => isFalse (by intro equal; cases equal)
  | left :: lefts, right :: rights =>
    match decEq left right, decEqItems lefts rights with
    | isTrue sameHead, isTrue sameTail => isTrue (sameHead ▸ sameTail ▸ rfl)
    | isFalse different, _ => isFalse fun equal => different (List.cons.inj equal).1
    | _, isFalse different => isFalse fun equal => different (List.cons.inj equal).2

def decEqFields : (left right : List (String × Value)) → Decidable (left = right)
  | [], [] => isTrue rfl
  | [], _ :: _ => isFalse (by intro equal; cases equal)
  | _ :: _, [] => isFalse (by intro equal; cases equal)
  | (leftName, left) :: lefts, (rightName, right) :: rights =>
    if sameName : leftName = rightName then
      match decEq left right, decEqFields lefts rights with
      | isTrue sameHead, isTrue sameTail =>
        isTrue (sameName ▸ sameHead ▸ sameTail ▸ rfl)
      | isFalse different, _ =>
        isFalse fun equal => different (Prod.mk.inj (List.cons.inj equal).1).2
      | _, isFalse different => isFalse fun equal => different (List.cons.inj equal).2
    else isFalse fun equal => sameName (Prod.mk.inj (List.cons.inj equal).1).1

end

instance : DecidableEq Value := decEq

end Value

end Intake
