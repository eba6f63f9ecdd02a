import Intake.Yaml.Cursor
import Intake.Yaml.Token

/-!
# Layout

What the tokens read so far leave open: the columns of the block collections that hold the next
token, and the tokens that may turn out to start a key. A key of this kind is recognised by the
colon behind it only, so its tokens are inserted where it started. It must stand on one line, within
1024 bytes.
-/

namespace Intake

namespace Yaml

/-- The start of what may be a key: how many tokens stand before it, and where it is. It is required
where only a key can stand. -/
structure KeyStart where
  required : Bool
  index : Nat
  place : Place
deriving DecidableEq, Repr

/-- Whether a key that starts here may end at a place: on the same line, and not too far behind. -/
def KeyStart.mayEnd (start : KeyStart) (place : Place) : Bool :=
  start.place.line == place.line && place.offset ≤ start.place.offset + 1024

/-- The tokens read so far, and what they leave open. -/
structure Layout where
  /-- The tokens, the last one first. -/
  written : List Token := []
  count : Nat := 0
  /-- The columns of the open block collections, the innermost first. -/
  columns : List Nat := []
  /-- What may be a key outside all brackets, at the end, and inside each open pair of them. -/
  starts : List (Option KeyStart) := [none]
  /-- Whether a key may start at the next token. -/
  admitsKey : Bool := true
  count_eq : count = written.length := by rfl

namespace Layout

/-- Whether the next token stands inside brackets. -/
def inFlow (layout : Layout) : Bool :=
  layout.starts.tail != []

/-- The least column of what lies inside the innermost open block collection. -/
def least (layout : Layout) : Nat :=
  layout.columns.head?.elim 0 (· + 1)

def push (token : Token) (layout : Layout) : Layout :=
  { layout with
    written := token :: layout.written
    count := layout.count + 1
    count_eq := by simp [layout.count_eq] }

/-- The layout with tokens added behind the first few. -/
def insertAt (index : Nat) (tokens : List Token) (layout : Layout) : Layout :=
  let behind := layout.count - index
  { layout with
    written := layout.written.take behind ++ tokens.reverse ++ layout.written.drop behind
    count := layout.count + tokens.length
    count_eq := by simp [layout.count_eq]; omega }

/-- The layout that admits a key at the next token, or does not. -/
def admitting (admitsKey : Bool) (layout : Layout) : Layout :=
  { layout with admitsKey }

/-- The layout with another innermost start of a key. -/
def withStart (start : Option KeyStart) (layout : Layout) : Layout :=
  { layout with starts := start :: layout.starts.tail }

def start? (layout : Layout) : Option KeyStart :=
  layout.starts.head?.join

/-- The layout without its innermost start of a key, which must not be required. -/
def dropStart? (layout : Layout) : Option Layout :=
  if layout.start?.any KeyStart.required then none else some (layout.withStart none)

/-- The layout with a key starting at a place, if one may. It is required at the column of the
innermost block collection. -/
def saveStart? (place : Place) (layout : Layout) : Option Layout :=
  if layout.admitsKey then
    let required := !layout.inFlow && layout.columns.head? == some place.column
    layout.dropStart?.map (·.withStart (some ⟨required, layout.count, place⟩))
  else some layout

/-- The layout without the innermost block collections whose columns satisfy a condition. Inside
brackets no block collection ends. -/
def closeWhile (beyond : Nat → Bool) (layout : Layout) : Layout :=
  if layout.inFlow then layout
  else
    let closed := (layout.columns.takeWhile beyond).length
    { layout with
      written := List.replicate closed .blockEnd ++ layout.written
      count := layout.count + closed
      columns := layout.columns.drop closed
      count_eq := by simp [layout.count_eq, Nat.add_comm] }

/-- The layout without the block collections that lie further in than a column. -/
def closeBeyond (column : Nat) (layout : Layout) : Layout :=
  layout.closeWhile (column < ·)

def closeAll (layout : Layout) : Layout :=
  layout.closeWhile fun _ => true

/-- Whether a block collection starts with what stands at a column. -/
def opensAt (column : Nat) (layout : Layout) : Bool :=
  !layout.inFlow && layout.columns.head?.all (· < column)

/-- The layout with a block collection opened by a token, if one starts at a column. -/
def openAt (column : Nat) (token : Token) (layout : Layout) : Layout :=
  if layout.opensAt column then { layout.push token with columns := column :: layout.columns }
  else layout

/-- The layout with brackets opened by a token at a place. -/
def openFlow? (place : Place) (token : Token) (layout : Layout) : Option Layout :=
  (layout.saveStart? place).map fun layout =>
    { layout.push token with starts := none :: layout.starts, admitsKey := true }

/-- The layout with brackets closed by a token. -/
def closeFlow? (token : Token) (layout : Layout) : Option Layout :=
  layout.dropStart?.map fun layout =>
    { layout.push token with
      starts := if layout.inFlow then layout.starts.tail else layout.starts
      admitsKey := false }

def comma? (layout : Layout) : Option Layout :=
  layout.dropStart?.map fun layout => (layout.push .flowEntry).admitting true

/-- The layout with the dash or question mark of an entry at a column. Outside brackets it must
stand where a key may start, and opens a collection if it is the first of its column. -/
def entry? (column : Nat) (opening token : Token) (layout : Layout) : Option Layout :=
  if !layout.inFlow && !layout.admitsKey then none
  else (layout.openAt column opening).dropStart?.map (·.push token)

def dash? (column : Nat) (layout : Layout) : Option Layout :=
  (layout.entry? column .blockSequenceStart .blockEntry).map (·.admitting true)

def question? (column : Nat) (layout : Layout) : Option Layout :=
  (layout.entry? column .blockMappingStart .key).map (·.admitting (!layout.inFlow))

/-- The layout with a colon at a column that no key stands in front of. -/
def loneColon? (column : Nat) (layout : Layout) : Option Layout :=
  if !layout.inFlow && !layout.admitsKey then none
  else some (((layout.openAt column .blockMappingStart).push .value).admitting (!layout.inFlow))

/-- The layout with the key that has started and the colon behind it. -/
def keyColon (start : KeyStart) (layout : Layout) : Layout :=
  let opened : Layout :=
    if layout.opensAt start.place.column then
      { layout.insertAt start.index [.blockMappingStart, .key] with
        columns := start.place.column :: layout.columns }
    else layout.insertAt start.index [.key]
  ((opened.withStart none).push .value).admitting false

/-- The layout with a colon at a place. It ends the key that has started, if there is one that may
end there. -/
def colon? (place : Place) (layout : Layout) : Option Layout :=
  match layout.start? with
  | some start =>
    if start.mayEnd place then some (layout.keyColon start)
    else if start.required then none
    else layout.loneColon? place.column
  | none => layout.loneColon? place.column

/-- The layout with a token that may be a key or a part of one. -/
def nodeToken? (place : Place) (token : Token) (layout : Layout) : Option Layout :=
  (layout.saveStart? place).map fun layout => (layout.push token).admitting false

/-- The layout with a token that stands apart from all nodes. -/
def apart? (token : Token) (layout : Layout) : Option Layout :=
  layout.closeAll.dropStart?.map fun layout => (layout.push token).admitting false

end Layout

end Yaml

end Intake
