import Intake.Text.Basic

/-!
# Addresses and route patterns

Joining a path to a base address, and filling the placeholders of a route pattern. A placeholder
is `{name}`, or `{name?}` when it may be left out.
-/

namespace Intake

namespace Url

def isAbsolute (path : List Char) : Bool :=
  Text.startsWith "http://".toList path || Text.startsWith "https://".toList path

/-- A path under a base, with exactly one slash between them. An absolute path stands alone. -/
def join (base path : List Char) : List Char :=
  if isAbsolute path then path
  else
    let root := Text.dropEndWhile (· == '/') base
    let relative := path.dropWhile (· == '/')
    if root = [] then '/' :: relative
    else if relative = [] then root
    else root ++ '/' :: relative

/-- The placeholder of a name that must be filled. -/
def requiredPlaceholder (name : List Char) : List Char :=
  '{' :: name ++ ['}']

/-- The placeholder of a name that may be left out. -/
def optionalPlaceholder (name : List Char) : List Char :=
  '{' :: name ++ ['?', '}']

def hasPlaceholder (name pattern : List Char) : Bool :=
  Text.contains (requiredPlaceholder name) pattern ||
    Text.contains (optionalPlaceholder name) pattern

/-- The pattern with every placeholder of a name filled. -/
def fillNamed (name segment pattern : List Char) : List Char :=
  Text.replace (optionalPlaceholder name) segment
    (Text.replace (requiredPlaceholder name) segment pattern)

/-- The pattern with what stands between its first braces filled; a pattern whose first closing
brace comes before any opening one is left as it is. -/
def fillFirst (segment pattern : List Char) : List Char :=
  match Text.splitAt? '{' pattern with
  | some (before, after) =>
    if before.contains '}' then pattern
    else
      match Text.splitAt? '}' after with
      | some (_, rest) => before ++ segment ++ rest
      | none => pattern
  | none => pattern

/-- The pattern without optional placeholders. The first argument holds the reversed inside of the
placeholder being read. -/
def dropOptionalFrom : Option (List Char) → List Char → List Char
  | none, [] => []
  | some inside, [] => '{' :: inside.reverse
  | none, character :: rest =>
    if character = '{' then dropOptionalFrom (some []) rest
    else character :: dropOptionalFrom none rest
  | some inside, character :: rest =>
    if character = '}' then
      (if inside.head? = some '?' then [] else '{' :: inside.reverse ++ ['}']) ++
        dropOptionalFrom none rest
    else dropOptionalFrom (some (character :: inside)) rest

/-- The pattern without optional placeholders and without slashes at its end. -/
def dropOptional (pattern : List Char) : List Char :=
  Text.dropEndWhile (· == '/') (dropOptionalFrom none pattern)

end Url

end Intake
