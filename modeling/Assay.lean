import Assay.About
import Assay.Configuration
import Assay.Definition.Assembly
import Assay.Definition.Compile
import Assay.Definition.Trace
import Assay.Fault
import Assay.Format.Address
import Assay.Format.Clock
import Assay.Format.Registry
import Assay.Format.Uri
import Assay.Incident
import Assay.Log
import Assay.Metrics
import Assay.Number.Basic
import Assay.Number.Binary64
import Assay.Number.Decimal
import Assay.Number.FloatText
import Assay.Number.Reading
import Assay.Number.Scaled
import Assay.Number.Shortest
import Assay.Pattern.Basic
import Assay.Pattern.Defect
import Assay.Pattern.Escape
import Assay.Pattern.Flags
import Assay.Pattern.Matching
import Assay.Pattern.Parser
import Assay.Pattern.Probe
import Assay.Pattern.Program
import Assay.Pattern.Reader
import Assay.Pattern.Search
import Assay.Pattern.Syntax
import Assay.Pattern.Width
import Assay.Proofs.Outcome
import Assay.Proofs.Schema.Steps
import Assay.Proofs.Schema.Structure
import Assay.Proofs.Schema.VisitOutcomes
import Assay.Proofs.Schema.Visits
import Assay.Record.Assignment
import Assay.Record.Basic
import Assay.Record.Field
import Assay.Record.Issue
import Assay.Record.Moment
import Assay.Record.Numeral
import Assay.Schema.Container
import Assay.Schema.Keyword
import Assay.Schema.Leaf
import Assay.Schema.Refusal
import Assay.Schema.Tree
import Assay.Schema.Violation
import Assay.Store.Assign
import Assay.Store.Basic
import Assay.Store.Workspace
import Assay.Template.Basic
import Assay.Template.Conversion
import Assay.Template.Defect
import Assay.Text.Alphabet
import Assay.Text.Blank
import Assay.Text.Casing
import Assay.Text.Digit
import Assay.Text.Identifier
import Assay.Text.Name
import Assay.Text.NameTable
import Assay.Text.Printable
import Assay.Text.Quoted
import Assay.Text.Ranges
import Assay.Validator
import Assay.Value.Basic
import Assay.Value.Equality
import Assay.Value.JsonText
import Assay.Value.Kind
import Assay.Value.Label
import Assay.Value.Real
import Assay.Value.Written
import Assay.Proofs.Leaf.Conformance
import Assay.Proofs.Schema.Conformance
import Assay.Proofs.Schema.Distinct
import Assay.Proofs.Schema.Walks
import Assay.Proofs.Leaf.Assignment
import Assay.Proofs.Leaf.Legality
import Assay.Proofs.Definition.Leaves
import Assay.Proofs.Definition.Containers
import Assay.Proofs.Definition.Meaning
import Assay.Proofs.Store.Reachable
import Assay.Proofs.Store.Findings
import Assay.Proofs.Validator.Accounting
import Assay.Proofs.Validator.Growth
import Assay.Proofs.Definition.Acceptance
import Assay.Proofs.Definition.Order
import Assay.Proofs.Definition.Progress
import Assay.Proofs.Definition.Tracing
import Assay.Proofs.Definition.Blame
import Assay.Proofs.Definition.Localization
import Assay.Proofs.Leaf.Stopping
import Assay.Proofs.Schema.Stopping
import Assay.Proofs.Definition.Stopping
import Assay.Proofs.Definition.Faults
import Assay.Proofs.Definition.Verdicts
import Assay.Proofs.Definition.Misplacement
import Assay.Proofs.Store.Events
import Assay.Proofs.Store.Histories
import Assay.Proofs.Store.Containers
import Assay.Proofs.Leaf.Consistency
import Assay.Proofs.Schema.Reordering
import Assay.Proofs.Store.Cells
import Assay.Proofs.Store.Leaves
import Assay.Proofs.Store.Reordering
import Assay.Proofs.Schema.Tightening
import Assay.Proofs.Store.Tightening
import Assay.Proofs.Definition.Strictness
import Assay.Proofs.Store.Closed
import Assay.Proofs.Store.Sharing
import Assay.Proofs.Leaf.Admission
import Assay.Proofs.Schema.Admission
import Assay.Proofs.Schema.Failing
import Assay.Proofs.Store.Admission
import Assay.Proofs.Number.Order
import Assay.Proofs.Leaf.Bounds
import Assay.Proofs.Definition.Exchange
import Assay.Proofs.Definition.Annotations
import Assay.Proofs.Definition.RequiredForms
import Assay.Proofs.Store.Readback
import Assay.Proofs.Validator.Precompiled
import Assay.Proofs.Format.Passing
import Assay.Proofs.Format.Clock
import Assay.Proofs.Format.Grammar
import Assay.Proofs.Format.Addresses
import Assay.Proofs.Format.Parts
import Assay.Proofs.Format.Characters
import Assay.Proofs.Format.References
import Assay.Proofs.Format.Derivations
import Assay.Proofs.Leaf.Ordering
import Assay.Proofs.Schema.Children
import Assay.Proofs.Store.Children
import Assay.Proofs.Definition.Documented
import Assay.Proofs.Definition.Construction
import Assay.Proofs.Template.Filling
import Assay.Proofs.Schema.Wording
import Assay.Proofs.Leaf.Checks
import Assay.Proofs.Leaf.Reports
import Assay.Proofs.Leaf.Exactness
import Assay.Proofs.Format.Registrations
import Assay.Proofs.Store.Registrations
import Assay.Proofs.Configuration
import Assay.Proofs.Definition.Completion
import Assay.Proofs.Validator.CompilationRecords
import Assay.Proofs.Schema.Locations
import Assay.Proofs.Schema.Places
import Assay.Proofs.Store.Locations
