import Intake.Condition.Evaluator
import Intake.Main
import Intake.Proofs.Number.Digits
import Intake.Proofs.Text.Classes
import Intake.Proofs.Files.Tree
import Intake.Proofs.Time.Calendar
import Intake.Proofs.Time.RoundTrip
import Intake.Proofs.Flow.Document
import Intake.Proofs.Flow.Machine
import Intake.Proofs.Flow.History
import Intake.Proofs.Flow.Progress
import Intake.Proofs.Flow.Clients
import Intake.Proofs.Condition.Grammar
import Intake.Proofs.Condition.Compose
import Intake.Proofs.Condition.OperandText
import Intake.Proofs.Condition.Printing
import Intake.Proofs.Flow.Endings
import Intake.Proofs.Flow.Entries
import Intake.Proofs.Flow.Independence
import Intake.Proofs.Flow.References
import Intake.Proofs.Mapping.Plain
import Intake.Proofs.FlowTemplate.Availability
import Intake.Proofs.Mapping.Filters
import Intake.Proofs.Value.Retyping
import Intake.Proofs.Condition.Equality
import Intake.Proofs.Driver.Calls
import Intake.Proofs.Driver.Discovery
import Intake.Proofs.Driver.Registration
import Intake.Proofs.Driver.Check
import Intake.Proofs.Mapping.Instructions
import Intake.Proofs.Flow.Footprint
import Intake.Bytewise.Block
import Intake.Bytewise.Expression
import Intake.Bytewise.Route
import Intake.Bytewise.Scope
import Intake.Proofs.Bytewise.Block
import Intake.Proofs.Bytewise.Calls
import Intake.Proofs.Condition.Dangling
import Intake.Proofs.Condition.Derivation
import Intake.Proofs.Value.Integers
import Intake.Proofs.Value.Equality
import Intake.Proofs.Condition.Membership
import Intake.Proofs.Value.Order
import Intake.Proofs.Template.Literal
import Intake.Proofs.Template.Concatenation
import Intake.Proofs.Template.Arguments
import Intake.Proofs.Mapping.Collections
import Intake.Proofs.Mapping.Levels
import Intake.Proofs.Value.Path
import Intake.Proofs.Json.RoundTrip
import Intake.Proofs.Mapping.Aggregates
import Intake.Proofs.Value.Layers
import Intake.Proofs.Host.Route
import Intake.Proofs.Flow.StepNames
import Intake.Proofs.Markup.Precedence
import Intake.Proofs.Markup.Comparison
import Intake.Proofs.Markup.Negation
import Intake.Proofs.FlowTemplate.Conditions
import Intake.Proofs.Driver.Acceptance
import Intake.Proofs.FlowTemplate.Context
import Intake.Proofs.Value.Numerals
import Intake.Proofs.Condition.Pieces
import Intake.Proofs.Text.Parts
import Intake.Proofs.Number.Grouping
