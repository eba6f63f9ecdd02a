import Intake.Digest.Sha256
import Intake.Driver.Basic
import Intake.Driver.Identifier
import Intake.Error
import Intake.Files.Tree
import Intake.Json.Reader
import Intake.Value.Record
import Intake.Yaml.Document

/-!
# Reading drivers

A driver is read from a document in three steps. Its header fields are normalised: they must be
there, text loses the white space around it, and a number becomes its text. The document must then
have the form of a driver file. Last, the header is checked and every rule and condition is read.
A driver has the fingerprint of the text that it was read from, or else of the normalised document.
-/

namespace Intake

namespace Driver

/-- The header fields that must be there. -/
def headerFields : List String := ["name", "version", "source", "target"]

def headerText? : Value → Option String
  | .text content =>
    let trimmed := Text.trim content.toList
    if trimmed = [] then none else some (String.ofList trimmed)
  | .number value => some (String.ofList value.preciseText)
  | _ => none

/-- A header with some of its fields normalised in their places. -/
def normalHeader : List String → Fields Value → Except FileFault (Fields Value)
  | [], header => .ok header
  | field :: others, header =>
    match (Fields.get? field header).bind headerText? with
    | some content => normalHeader others (Fields.insert field (.text content) header)
    | none => .error (.missingField field)

def sections : List String := ["driver", "mappings"]

def missingSection? (root : Fields Value) : Option String :=
  sections.find? fun name => (Fields.get? name root).all Value.isNull

/-- The section of rules, where an empty list stands for no rules. -/
def normalMappings (root : Fields Value) : Fields Value :=
  if Fields.get? "mappings" root = some (.array []) then
    Fields.insert "mappings" (.object []) root
  else root

/-- The fields of a document with its header normalised. -/
def normalDocument : Value → Except FileFault (Fields Value)
  | .object root =>
    match missingSection? root with
    | some name => .error (.missingSection name)
    | none =>
      match (Fields.get? "driver" root).bind Value.object? with
      | none => .error .headerNotMapping
      | some header => do
        let header ← normalHeader headerFields header
        return normalMappings (Fields.insert "driver" (.object header) root)
  | _ => .error .notMapping

structure Header where
  name : String
  version : String
  source : String
  target : String
  description : Option String

structure FilterTexts where
  skipFlowIf : List String := []
  steps : List String := []

/-- A driver whose rules and conditions have not been read. -/
structure Outline where
  header : Header
  mappings : Fields Value
  constants : Option (Fields Value)
  filters : Option FilterTexts

def Header.ofValue? (value : Value) : Option Header := do
  let content ← Record.contents? (headerFields ++ ["description"]) value
  let name ← Record.required Value.text? (content "name")
  let version ← Record.required Value.text? (content "version")
  let source ← Record.required Value.text? (content "source")
  let target ← Record.required Value.text? (content "target")
  let description ← Record.optional Value.text? (content "description")
  return { name, version, source, target, description }

def FilterTexts.ofValue? (value : Value) : Option FilterTexts := do
  let content ← Record.contents? ["skip_flow_if", "steps"] value
  let skipFlowIf ← Record.defaulted [] (Record.listOf? Value.text?) (content "skip_flow_if")
  let steps ← Record.defaulted [] (Record.listOf? Value.text?) (content "steps")
  return { skipFlowIf, steps }

def Outline.ofValue? (value : Value) : Option Outline := do
  let content ← Record.contents? ["driver", "mappings", "constants", "filters"] value
  let header ← Record.required Header.ofValue? (content "driver")
  let mappings ← Record.required Value.object? (content "mappings")
  let constants ← Record.optional Value.object? (content "constants")
  let filters ← Record.optional FilterTexts.ofValue? (content "filters")
  return { header, mappings, constants, filters }

/-- Checks the version and the type identifiers of a header. -/
def Header.check (header : Header) : Except FileFault Unit :=
  if !Identifier.isVersion header.version.toList then .error (.badVersion header.version)
  else if !Identifier.isIdentifier header.source.toList then
    .error (.badIdentifier "source" header.source)
  else if !Identifier.isIdentifier header.target.toList then
    .error (.badIdentifier "target" header.target)
  else .ok ()

def readMappings (mappings : Fields Value) : Except FileFault (List (String × Rule)) :=
  mappings.mapM fun mapping =>
    match Rule.read ("mappings." ++ mapping.1) mapping.2 with
    | .ok rule => .ok (mapping.1, rule)
    | .error error => .error (.rule error)

/-- The conditions of a list of texts under a key of the filters. -/
def readConditions (key : String) (texts : List String) : Except FileFault (List Condition) :=
  texts.zipIdx.mapM fun item =>
    let field := "filters." ++ key ++ "." ++ String.ofList (Decimal.digits item.2)
    match Rule.readCondition field (.text item.1) with
    | .ok condition => .ok condition
    | .error error => .error (.rule error)

def ofOutline (fingerprint : String) (outline : Outline) : Except FileFault Driver := do
  outline.header.check
  let mappings ← readMappings outline.mappings
  let texts := outline.filters.getD {}
  let skipFlowIf ← readConditions "skip_flow_if" texts.skipFlowIf
  let steps ← readConditions "steps" texts.steps
  return {
    name := outline.header.name
    version := outline.header.version
    source := outline.header.source
    target := outline.header.target
    description := outline.header.description
    mappings
    constants := outline.constants.getD []
    filters := { skipFlowIf, steps }
    fingerprint }

def ofValue (value : Value) : Except FileFault Driver := do
  let document ← normalDocument value
  match Outline.ofValue? (.object document) with
  | some outline => ofOutline (Fingerprint.ofText (Value.object document).compact) outline
  | none => .error .malformedDriver

def readDocument (format : FileFormat) (content : String) : Except FileFault Value :=
  match format with
  | .yaml => (Yaml.readValue? content.toList).elim (.error .notYaml) .ok
  | .json => (Json.parse? content).elim (.error .notJson) .ok

def parse (format : FileFormat) (content : String) : Except FileFault Driver := do
  let driver ← ofValue (← readDocument format content)
  return { driver with fingerprint := Fingerprint.ofText content }

def load (files : FileTree) (path : String) : Except Error Driver :=
  match FileFormat.ofPath? path with
  | none => .error (.file path .unsupportedFormat)
  | some format =>
    match files.read? path with
    | none => .error .unreadable
    | some content =>
      match parse format content with
      | .ok driver => .ok { driver with path := some path }
      | .error fault => .error (.file path fault)

end Driver

end Intake
