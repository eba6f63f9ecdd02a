import Intake.Yaml.TokenReader

/-!
# YAML nodes

A document as a tree, built from its tokens. A node may have a tag and an anchor. References to
anchors stay in the tree: the same node may be referred to from inside itself.
-/

namespace Intake

namespace Yaml

/-- What a tag says about the type of a node. -/
inductive Tag where
  | null
  | boolean
  | integer
  | float
  /-- A type of the application, whose tag starts with an exclamation mark. -/
  | custom
  /-- Any other type. -/
  | foreign
deriving DecidableEq, Repr

/-- The start of the tags for the usual types. -/
def Tag.common : String := "tag:yaml.org,2002:"

def Tag.ofText (text : List Char) : Tag :=
  if text.head? = some '!' then custom
  else if text = (Tag.common ++ "null").toList then null
  else if text = (Tag.common ++ "bool").toList then boolean
  else if text = (Tag.common ++ "int").toList then integer
  else if text = (Tag.common ++ "float").toList then float
  else foreign

structure Properties where
  anchor : Option Nat := none
  tag : Option Tag := none

/-- A part of a document. Anchors are numbered. -/
inductive Node where
  | reference (anchor : Nat)
  | scalar (anchor : Option Nat) (tag : Option Tag) (style : ScalarStyle) (text : List Char)
  | sequence (anchor : Option Nat) (tag : Option Tag) (items : List Node)
  | mapping (anchor : Option Nat) (tag : Option Tag) (entries : List (Node × Node))

namespace Node

/-- A plain scalar without characters, as for a key without a value. -/
def void : Node :=
  .scalar none none .plain []

/-- The anchors named so far with their numbers, and the tokens that are left. -/
structure Remaining where
  names : List (List Char × Nat)
  tokens : List Token

namespace Remaining

def withTokens (tokens : List Token) (left : Remaining) : Remaining :=
  { left with tokens }

/-- The number of a new anchor: how many different names there are. The name stands for this anchor
from now on. -/
def named (name : List Char) (left : Remaining) : Nat × Remaining :=
  let number := left.names.length
  (number, { left with names := (name, number) :: left.names.filter (·.1 ≠ name) })

/-- Whether the next token is one of some. -/
def isAt (ends : List Token) (left : Remaining) : Bool :=
  left.tokens.head?.any ends.contains

end Remaining

/-- The starts of tags that handles stand for. -/
abbrev Handles := List (List Char × List Char)

/-- The tag that a suffix writes behind a handle, which stands for one of some starts. -/
def tag? (handles : Handles) (handle suffix : List Char) : Option Tag :=
  if handle = [] then some (Tag.ofText suffix)
  else (handles.lookup handle).map fun start => Tag.ofText (start ++ suffix)

/-- The anchor and the tag in front of a node, in either order. -/
def properties? (handles : Handles) (left : Remaining) : Option (Properties × Remaining) :=
  match left.tokens with
  | .anchor name :: .tag handle suffix :: rest | .tag handle suffix :: .anchor name :: rest =>
    (tag? handles handle suffix).map fun tag =>
      let (anchor, left) := left.named name
      (⟨some anchor, some tag⟩, left.withTokens rest)
  | .anchor name :: rest =>
    let (anchor, left) := left.named name
    some (⟨some anchor, none⟩, left.withTokens rest)
  | .tag handle suffix :: rest =>
    (tag? handles handle suffix).map fun tag => (⟨none, some tag⟩, left.withTokens rest)
  | _ => some ({}, left)

/-- A place where a node may stand. -/
inductive Position where
  | inFlow
  | inBlock
  /-- Behind the key or colon of a block mapping, where the items of a sequence need not lie further
  in. -/
  | inEntry
deriving DecidableEq, Repr

mutual

/-- The node that the next tokens write, and what is left. -/
def nodeAt? (handles : Handles) :
    Nat → Position → Remaining → Option (Node × Remaining)
  | 0, _, _ => none
  | fuel + 1, position, left =>
    match left.tokens with
    | .reference name :: rest =>
      (left.names.lookup name).map fun anchor => (.reference anchor, left.withTokens rest)
    | _ => do
      let (⟨anchor, tag⟩, left) ← properties? handles left
      match left.tokens with
      | .scalar style text :: rest => return (.scalar anchor tag style text, left.withTokens rest)
      | .flowSequenceStart :: rest =>
        let (items, left) ← flowItems? handles fuel (left.withTokens rest)
        return (.sequence anchor tag items, left)
      | .flowMappingStart :: rest =>
        let (entries, left) ← flowEntries? handles fuel (left.withTokens rest)
        return (.mapping anchor tag entries, left)
      | _ =>
        match position, left.tokens with
        | .inEntry, .blockEntry :: _ =>
          let (items, left) ← blockItems? handles fuel [.key, .value, .blockEnd] left
          return (.sequence anchor tag items, left)
        | .inBlock, .blockSequenceStart :: rest | .inEntry, .blockSequenceStart :: rest =>
          let (items, left) ← blockItems? handles fuel [.blockEnd] (left.withTokens rest)
          match left.tokens with
          | .blockEnd :: rest => return (.sequence anchor tag items, left.withTokens rest)
          | _ => none
        | .inBlock, .blockMappingStart :: rest | .inEntry, .blockMappingStart :: rest =>
          let (entries, left) ← blockEntries? handles fuel (left.withTokens rest)
          return (.mapping anchor tag entries, left)
        | _, _ =>
          if anchor.isSome ∨ tag.isSome then return (.scalar anchor tag .plain [], left)
          else none

/-- A node that may be missing: it is void before one of some tokens. -/
def optionalAt? (handles : Handles) :
    Nat → Position → List Token → Remaining → Option (Node × Remaining)
  | 0, _, _, _ => none
  | fuel + 1, position, ends, left =>
    if left.isAt ends then some (void, left) else nodeAt? handles fuel position left

/-- The items of a block sequence, up to a token that is no dash. -/
def blockItems? (handles : Handles) :
    Nat → List Token → Remaining → Option (List Node × Remaining)
  | 0, _, _ => none
  | fuel + 1, ends, left =>
    match left.tokens with
    | .blockEntry :: rest => do
      let (item, left) ←
        optionalAt? handles fuel .inBlock (.blockEntry :: ends) (left.withTokens rest)
      let (others, left) ← blockItems? handles fuel ends left
      return (item :: others, left)
    | _ => some ([], left)

def blockEntries? (handles : Handles) :
    Nat → Remaining → Option (List (Node × Node) × Remaining)
  | 0, _ => none
  | fuel + 1, left =>
    match left.tokens with
    | .key :: rest => do
      let ends : List Token := [.key, .value, .blockEnd]
      let (key, left) ← optionalAt? handles fuel .inEntry ends (left.withTokens rest)
      let (content, left) ←
        match left.tokens with
        | .value :: rest => optionalAt? handles fuel .inEntry ends (left.withTokens rest)
        | _ => some (void, left)
      let (others, left) ← blockEntries? handles fuel left
      return ((key, content) :: others, left)
    | .blockEnd :: rest => some ([], left.withTokens rest)
    | _ => none

def flowItems? (handles : Handles) :
    Nat → Remaining → Option (List Node × Remaining)
  | 0, _ => none
  | fuel + 1, left =>
    match left.tokens with
    | .flowSequenceEnd :: rest => some ([], left.withTokens rest)
    | _ => do
      let (item, left) ←
        match left.tokens with
        | .key :: rest => flowPair? handles fuel (left.withTokens rest)
        | _ => nodeAt? handles fuel .inFlow left
      match left.tokens with
      | .flowEntry :: rest =>
        let (others, left) ← flowItems? handles fuel (left.withTokens rest)
        return (item :: others, left)
      | .flowSequenceEnd :: rest => return ([item], left.withTokens rest)
      | _ => none

/-- A mapping of one entry without braces, behind its key token. Where the key is missing, the token
in its place is passed over. -/
def flowPair? (handles : Handles) :
    Nat → Remaining → Option (Node × Remaining)
  | 0, _ => none
  | fuel + 1, left => do
    let ends : List Token := [.flowEntry, .flowSequenceEnd]
    let (key, left) ←
      if left.isAt (.value :: ends) then some (void, left.withTokens left.tokens.tail)
      else nodeAt? handles fuel .inFlow left
    let (content, left) ←
      match left.tokens with
      | .value :: rest => optionalAt? handles fuel .inFlow ends (left.withTokens rest)
      | _ => some (void, left)
    return (.mapping none none [(key, content)], left)

/-- An entry of a mapping in braces. Without a key token it is a key alone. -/
def flowEntry? (handles : Handles) :
    Nat → Remaining → Option ((Node × Node) × Remaining)
  | 0, _ => none
  | fuel + 1, left =>
    let ends : List Token := [.flowEntry, .flowMappingEnd]
    match left.tokens with
    | .key :: rest => do
      let (key, left) ← optionalAt? handles fuel .inFlow (.value :: ends) (left.withTokens rest)
      let (content, left) ←
        match left.tokens with
        | .value :: rest => optionalAt? handles fuel .inFlow ends (left.withTokens rest)
        | _ => some (void, left)
      return ((key, content), left)
    | _ => (nodeAt? handles fuel .inFlow left).map fun read => ((read.1, void), read.2)

def flowEntries? (handles : Handles) :
    Nat → Remaining → Option (List (Node × Node) × Remaining)
  | 0, _ => none
  | fuel + 1, left =>
    match left.tokens with
    | .flowMappingEnd :: rest => some ([], left.withTokens rest)
    | _ => do
      let (entry, left) ← flowEntry? handles fuel left
      match left.tokens with
      | .flowEntry :: rest =>
        let (others, left) ← flowEntries? handles fuel (left.withTokens rest)
        return (entry :: others, left)
      | .flowMappingEnd :: rest => return ([entry], left.withTokens rest)
      | _ => none

end

/-- The starts that handles stand for when a document does not say otherwise. -/
def commonHandles : Handles :=
  [(['!'], ['!']), (['!', '!'], Tag.common.toList)]

/-- The handles that the directives in front of a document declare, and the tokens behind them. The
version must be known; neither a version nor a handle may be declared twice. -/
def directives? (hasVersion : Bool) (handles : Handles) :
    List Token → Option (Handles × List Token)
  | .version major minor :: rest =>
    if !hasVersion ∧ major = 1 ∧ (minor = 1 ∨ minor = 2) then directives? true handles rest
    else none
  | .handle name start :: rest =>
    if (handles.lookup name).isSome then none
    else directives? hasVersion ((name, start) :: handles) rest
  | tokens => some (handles, tokens)

/-- Whether a token cannot stand inside a document. -/
def isOutside : Token → Bool
  | .version _ _ | .handle _ _ | .documentStart | .documentEnd => true
  | _ => false

/-- The node that the tokens of a document's content write, and the tokens behind it. -/
def content? (handles : Handles) (tokens : List Token) : Option (Node × List Token) :=
  (nodeAt? (handles ++ commonHandles) (4 * tokens.length + 4) .inBlock ⟨[], tokens⟩).map fun read =>
    (read.1, read.2.tokens)

/-- The node that the tokens of a document write, and the tokens behind it. A document without an
opening mark has no directives and is not empty. -/
def document? (tokens : List Token) : Option (Node × List Token) :=
  match tokens with
  | .version _ _ :: _ | .handle _ _ :: _ | .documentStart :: _ =>
    match directives? false [] tokens with
    | some (handles, .documentStart :: rest) =>
      if rest.head?.all isOutside then some (void, rest) else content? handles rest
    | _ => none
  | _ => content? [] tokens

/-- The node of the one document that tokens write. No tokens write a void scalar. -/
def ofTokens? (tokens : List Token) : Option Node :=
  match tokens with
  | [] => some void
  | _ =>
    match document? tokens with
    | some (node, rest) => if rest.all (· = .documentEnd) then some node else none
    | none => none

def ofText? (text : List Char) : Option Node :=
  (tokens? text).bind ofTokens?

mutual

/-- How many steps it takes to pass through a node: one for a scalar or reference, and one each for
the start and the end of a collection. -/
def size : Node → Nat
  | reference _ | scalar _ _ _ _ => 1
  | sequence _ _ items => itemsSize items + 2
  | mapping _ _ entries => entriesSize entries + 2

def itemsSize : List Node → Nat
  | [] => 0
  | item :: rest => item.size + itemsSize rest

def entriesSize : List (Node × Node) → Nat
  | [] => 0
  | (key, content) :: rest => key.size + content.size + entriesSize rest

end

/-- An anchor's node as a list, if there is an anchor. -/
def atAnchor (anchor : Option Nat) (node : Node) : List (Nat × Node) :=
  anchor.toList.map fun number => (number, node)

mutual

/-- The nodes with anchors in the order in which they start. -/
def anchored : Node → List (Nat × Node)
  | reference _ => []
  | scalar anchor tag style text => atAnchor anchor (scalar anchor tag style text)
  | sequence anchor tag items =>
    atAnchor anchor (sequence anchor tag items) ++ anchoredItems items
  | mapping anchor tag entries =>
    atAnchor anchor (mapping anchor tag entries) ++ anchoredEntries entries

def anchoredItems : List Node → List (Nat × Node)
  | [] => []
  | item :: rest => item.anchored ++ anchoredItems rest

def anchoredEntries : List (Node × Node) → List (Nat × Node)
  | [] => []
  | (key, content) :: rest => key.anchored ++ content.anchored ++ anchoredEntries rest

end

end Node

end Yaml

end Intake
