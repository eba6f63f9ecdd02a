import Intake.Text.Basic

/-!
# Step handlers

The handlers that can show steps. For one that is not available there is a hint on how to install
it. The handler of placeholder steps is always available.
-/

namespace Intake

/-- The available handlers, and the pattern of hints for the others. -/
structure Handlers where
  available : List String := []
  /-- Every `{handler}` in the pattern stands for the name of a handler. -/
  hintPattern : String := "install the '\x7bhandler\x7d' form handler"

namespace Handlers

/-- The part of a hint pattern that stands for a name. -/
def token : List Char := "\x7bhandler\x7d".toList

/-- The handler of placeholder steps. -/
def missing : String := "missing"

/-- The handler whose steps are dropped when no field is left. -/
def form : String := "form"

def add (handlers : Handlers) (name : String) : Handlers :=
  { handlers with available := handlers.available ++ [name] }

/-- The names of available handlers in order, each once. -/
def names (handlers : Handlers) : List String :=
  handlers.available.eraseDups.mergeSort fun left right => decide (left ≤ right)

def isAvailable (handlers : Handlers) (name : String) : Bool :=
  name == missing || handlers.available.contains name

def installHint (handlers : Handlers) (name : String) : String :=
  String.ofList (Text.replace token name.toList handlers.hintPattern.toList)

end Handlers

end Intake
