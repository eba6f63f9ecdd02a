import Intake.Function
import Intake.Host.Url
import Intake.Text.LetterCase
import Intake.Text.Percent
import Intake.Time.Timestamp
import Intake.Value.Path
import Intake.Value.Text

/-!
# The host

What the surrounding application lends to templates: addresses and named routes, configuration
and session values, environment variables and the time. Each is reached through a function.
-/

namespace Intake

/-- The values behind the functions `config`, `env`, `session`, `route`, `url`, `asset` and
`now`. -/
structure Host where
  baseUrl : String := ""
  assetUrl : Option String := none
  routes : Fields String := []
  config : Value := .null
  session : Value := .null
  environment : Fields String := []
  now : Timestamp := ⟨0, 0⟩

namespace Host

def url (host : Host) (path : List Char) : List Char :=
  Url.join host.baseUrl.toList path

/-- The address of an asset; without a base of its own it lies below the common one. -/
def asset (host : Host) (path : List Char) : List Char :=
  Url.join (host.assetUrl.getD host.baseUrl).toList path

/-- A path and the parameters that found no place in it. -/
structure RouteFilling where
  path : List Char
  extra : List (List Char × List Char)

/-- The path after one named parameter: its placeholders are filled, and a parameter without a
placeholder is kept for the query. -/
def fillParameter (filling : RouteFilling) (parameter : String × Value) : RouteFilling :=
  let name := parameter.1.toList
  let content := parameter.2.display
  if Url.hasPlaceholder name filling.path then
    { filling with path := Url.fillNamed name (Percent.pathSegment content) filling.path }
  else { filling with extra := filling.extra ++ [(name, content)] }

/-- The path of a pattern filled with parameters: those of an object by name, the items of an
array in order, and a scalar in the first place. -/
def fillRoute (pattern : List Char) : Value → RouteFilling
  | .object fields => fields.foldl fillParameter ⟨pattern, []⟩
  | .array items =>
    ⟨items.foldl (fun path item => Url.fillFirst (Percent.pathSegment item.display) path) pattern,
      []⟩
  | .null => ⟨pattern, []⟩
  | scalar => ⟨Url.fillFirst (Percent.pathSegment scalar.display) pattern, []⟩

/-- The address of a named route. Parameters without a placeholder become a query. -/
def route (host : Host) (name : String) (parameters : Value) :
    Except CallError (List Char) :=
  match Fields.get? name host.routes with
  | none => .error (.undefinedRoute name)
  | some pattern =>
    let filling := fillRoute pattern.toList parameters
    let address := host.url (Url.dropOptional filling.path)
    .ok (if filling.extra = [] then address
      else address ++ '?' :: Percent.query filling.extra)

/-- The environment variable of a name. No variable has an empty name or one with an equals
sign. -/
def environmentText? (host : Host) (name : String) : Option String :=
  if name = "" ∨ name.toList.contains '=' then none else Fields.get? name host.environment

/-- The value that the text of an environment variable stands for. -/
def variableValue (content : String) : Value :=
  let folded := LetterCase.lower content.toList
  if folded = "true".toList ∨ folded = "(true)".toList then .bool true
  else if folded = "false".toList ∨ folded = "(false)".toList then .bool false
  else if folded = "null".toList ∨ folded = "(null)".toList then .null
  else if folded = "empty".toList ∨ folded = "(empty)".toList then .text ""
  else .text content

/-- The text of an argument; a missing one is empty. -/
def argumentText (arguments : List Value) (index : Nat) : List Char :=
  (arguments[index]?.map Value.display).getD []

/-- The value of an argument; a missing one is null. -/
def argumentValue (arguments : List Value) (index : Nat) : Value :=
  arguments[index]?.getD .null

/-- The value at the path named by the first argument, or else the second argument. -/
def lookupIn (root : Value) : Callable := fun arguments =>
  .ok ((root.get? (argumentText arguments 0)).getD (argumentValue arguments 1))

def functions (host : Host) : FunctionTable :=
  [("config", lookupIn host.config),
    ("env", fun arguments =>
      .ok (match host.environmentText? (String.ofList (argumentText arguments 0)) with
        | some content => variableValue content
        | none => argumentValue arguments 1)),
    ("session", lookupIn host.session),
    ("route", fun arguments =>
      match arguments with
      | [] => .error (.expects "route" "a name")
      | name :: _ =>
        (host.route (String.ofList name.display) (argumentValue arguments 1)).map Value.ofChars),
    ("url", fun arguments => .ok (.ofChars (host.url (argumentText arguments 0)))),
    ("asset", fun arguments => .ok (.ofChars (host.asset (argumentText arguments 0)))),
    ("now", fun _ => .ok (.ofChars host.now.offsetText))]

end Host

end Intake
