import FlowRouting.Calendar.Basic
import FlowRouting.Calendar.Parser
import FlowRouting.Calendar.Printer
import FlowRouting.CommandLine.Arguments
import FlowRouting.CommandLine.Basic
import FlowRouting.CommandLine.Example
import FlowRouting.CommandLine.Transcript
import FlowRouting.Condition.Basic
import FlowRouting.Condition.Comparison
import FlowRouting.Condition.Json
import FlowRouting.Condition.Selection
import FlowRouting.Dict
import FlowRouting.Digraph.Basic
import FlowRouting.Digraph.Cycle
import FlowRouting.Engine
import FlowRouting.EvalError
import FlowRouting.Graph.Basic
import FlowRouting.Graph.Suggestion
import FlowRouting.Json.Basic
import FlowRouting.Json.Decoding
import FlowRouting.Json.Parser
import FlowRouting.Json.Position
import FlowRouting.Json.Printer
import FlowRouting.Main
import FlowRouting.Node.Catalog
import FlowRouting.Node.Error
import FlowRouting.Node.Execution
import FlowRouting.Node.Task
import FlowRouting.Number.Basic
import FlowRouting.Number.Decimal
import FlowRouting.Number.Layout
import FlowRouting.Number.Shortest
import FlowRouting.Operator
import FlowRouting.Reference
import FlowRouting.Regex.Basic
import FlowRouting.Regex.Encoding
import FlowRouting.Regex.Matching
import FlowRouting.Regex.Named
import FlowRouting.Regex.Parser
import FlowRouting.Regex.Size
import FlowRouting.Run.Basic
import FlowRouting.Run.EventBuffer
import FlowRouting.Run.History
import FlowRouting.Run.Plan
import FlowRouting.Run.Timing
import FlowRouting.Schema
import FlowRouting.Scope
import FlowRouting.Template
import FlowRouting.Text.Basic
import FlowRouting.Text.Digits
import FlowRouting.Text.Quoted
import FlowRouting.Unicode.Age
import FlowRouting.Unicode.CaseFolding
import FlowRouting.Unicode.Category
import FlowRouting.Unicode.CharSet
import FlowRouting.Unicode.Newest
import FlowRouting.Unicode.Property
import FlowRouting.Unicode.Script
import FlowRouting.Unicode.Segmentation
import FlowRouting.Uuid
import FlowRouting.Validation.Basic
import FlowRouting.Validation.Operand
import FlowRouting.Value.Basic
import FlowRouting.Value.Json
import FlowRouting.Workflow.Basic
import FlowRouting.Workflow.Error
import FlowRouting.Workflow.Json
import FlowRouting.Proofs.Digraph.Search
import FlowRouting.Proofs.Graph.Names
import FlowRouting.Proofs.Graph.Building
import FlowRouting.Proofs.Graph.Ancestors
import FlowRouting.Proofs.Graph.Part
import FlowRouting.Proofs.Fallible
import FlowRouting.Proofs.Scope.Binding
import FlowRouting.Proofs.Dict
import FlowRouting.Proofs.Run.Views
import FlowRouting.Proofs.Run.Visits
import FlowRouting.Proofs.Run.Activity
import FlowRouting.Proofs.Run.Locality
import FlowRouting.Proofs.Run.Part
import FlowRouting.Proofs.Run.Independence
import FlowRouting.Proofs.Run.Trace
import FlowRouting.Proofs.Run.Publication
import FlowRouting.Proofs.Condition.Verdict
import FlowRouting.Proofs.Condition.Failure
import FlowRouting.Proofs.Condition.References
import FlowRouting.Proofs.Digraph.Component
import FlowRouting.Proofs.Digraph.Cycle
import FlowRouting.Proofs.Digraph.Exhaustion
import FlowRouting.Proofs.Digraph.Restriction
import FlowRouting.Proofs.Validation.Report
import FlowRouting.Proofs.Validation.Acceptance
import FlowRouting.Proofs.Validation.Coverage
import FlowRouting.Proofs.Run.Replay
import FlowRouting.Proofs.Run.Instances
import FlowRouting.Proofs.Run.Accounting
import FlowRouting.Proofs.Condition.Modes
import FlowRouting.Proofs.Run.Relaxation
import FlowRouting.Proofs.Run.Cancellation
import FlowRouting.Proofs.Run.Resolution
import FlowRouting.Proofs.Text.Digits
import FlowRouting.Proofs.Text.Trimming
import FlowRouting.Proofs.Json.Strings
import FlowRouting.Proofs.Json.Documents
import FlowRouting.Proofs.Json.Nesting
import FlowRouting.Proofs.Json.Records
import FlowRouting.Proofs.Number.Integers
import FlowRouting.Proofs.Value.Json
import FlowRouting.Proofs.Uuid
import FlowRouting.Proofs.Template.Operands
import FlowRouting.Proofs.Template.Spans
import FlowRouting.Proofs.Scope.Splitting
import FlowRouting.Proofs.Scope.Outputs
import FlowRouting.Proofs.Graph.Suggestion
import FlowRouting.Proofs.Node.JsonText
import FlowRouting.Proofs.Condition.RoundTrip
import FlowRouting.Proofs.Workflow.RoundTrip
import FlowRouting.Proofs.Graph.Construction
import FlowRouting.Proofs.Condition.Choice
import FlowRouting.Proofs.Number.Numerals
import FlowRouting.Proofs.Condition.Equality
import FlowRouting.Proofs.Node.Fields
import FlowRouting.Proofs.Validation.Fields
import FlowRouting.Proofs.Scope.Paths
import FlowRouting.Proofs.Scope.Precedence
import FlowRouting.Proofs.Validation.Cycles
import FlowRouting.Proofs.Validation.Operands
import FlowRouting.Proofs.Text.Splitting
import FlowRouting.Proofs.Calendar.Order
import FlowRouting.Proofs.Calendar.Reading
import FlowRouting.Proofs.Condition.Dates
import FlowRouting.Proofs.Condition.Coherence
import FlowRouting.Proofs.Scope.Clock
import FlowRouting.Proofs.Value.Paths
import FlowRouting.Proofs.Template.SingleSpan
import FlowRouting.Proofs.Run.Inputs
import FlowRouting.Proofs.Condition.UnknownOperators
import FlowRouting.Proofs.Scope.DerivedNames
