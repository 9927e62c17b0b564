import Segmentation.Catalogue.Checking
import Segmentation.Evaluation.Audience
import Segmentation.Json.Printer
import Segmentation.Rule.Checking
import Segmentation.Rule.Encoding
import Segmentation.Rule.Walk
import Segmentation.Editing.Condition
import Segmentation.Validation
import Segmentation.Segment.Checking
import Segmentation.Segment.Members
import Segmentation.Segment.Resolution
import Segmentation.Console.RuleTree
import Segmentation.Storage.Inputs
import Segmentation.Storage.Segments
import Segmentation.Main
import Segmentation.Proofs.Number.Rounding
import Segmentation.Proofs.Number.Digits
import Segmentation.Proofs.Number.ShortestDecimal
import Segmentation.Proofs.Number.Layout
import Segmentation.Proofs.Json.NumberText
import Segmentation.Proofs.Json.Scan
import Segmentation.Proofs.Json.RoundTrip
import Segmentation.Proofs.Editing.Path
import Segmentation.Proofs.Editing.Step
import Segmentation.Proofs.Json.Data
import Segmentation.Proofs.Rule.RoundTrip
import Segmentation.Proofs.Editing.Built
import Segmentation.Proofs.Identifier
import Segmentation.Proofs.Editing.Fresh
import Segmentation.Proofs.Editing.Survival
import Segmentation.Proofs.Catalogue.Operators
import Segmentation.Proofs.Editing.Validity
import Segmentation.Proofs.Evaluation.Verdict
import Segmentation.Proofs.Evaluation.Monotone
import Segmentation.Proofs.Evaluation.Expansion
import Segmentation.Proofs.Evaluation.Complement
import Segmentation.Proofs.Evaluation.Rewriting
import Segmentation.Proofs.Evaluation.Children
import Segmentation.Proofs.Evaluation.Independence
import Segmentation.Proofs.Evaluation.Failures
import Segmentation.Proofs.Evaluation.Containment
import Segmentation.Proofs.Rule.Nodes
import Segmentation.Proofs.Validation.Agreement
import Segmentation.Proofs.Rule.Order
import Segmentation.Proofs.Validation.Exact
import Segmentation.Proofs.Editing.Offered
import Segmentation.Proofs.Schema.Places
import Segmentation.Proofs.Rule.Grammar
import Segmentation.Proofs.Rule.Decoding
import Segmentation.Proofs.Console.Addressed
import Segmentation.Proofs.Console.Session
import Segmentation.Proofs.Console.Segments
import Segmentation.Proofs.Yaml.Cursor
import Segmentation.Proofs.Yaml.Quoted
import Segmentation.Proofs.Yaml.Steps
import Segmentation.Proofs.Yaml.Taking
import Segmentation.Proofs.Yaml.NumberText
import Segmentation.Proofs.Yaml.Scan
import Segmentation.Proofs.Yaml.Nodes
import Segmentation.Proofs.Yaml.RoundTrip
import Segmentation.Proofs.Calendar.StoredText
import Segmentation.Proofs.Segment.RoundTrip
import Segmentation.Proofs.Console.Saving
import Segmentation.Proofs.Segment.Kept
import Segmentation.Proofs.Console.Example
import Segmentation.Proofs.Console.Logging
import Segmentation.Proofs.Console.Runs
import Segmentation.Proofs.Editing.Lens
import Segmentation.Proofs.Editing.Locality
import Segmentation.Proofs.Editing.Gate
import Segmentation.Proofs.Journal.Loggers
import Segmentation.Proofs.Journal.Recorded
import Segmentation.Proofs.Journal.Routing
import Segmentation.Proofs.Journal.Asked
import Segmentation.Proofs.Journal.Delivery
import Segmentation.Proofs.Storage.FileTree
import Segmentation.Proofs.Number.Integers
import Segmentation.Proofs.Number.Written
import Segmentation.Proofs.Calendar.Span
import Segmentation.Proofs.Editing.Options
import Segmentation.Proofs.Editing.WholeNumbers
import Segmentation.Proofs.Evaluation.RecentDays
import Segmentation.Proofs.Journal.Ownership
import Segmentation.Proofs.Journal.Interleaving
import Segmentation.Proofs.Value.Scalar
import Segmentation.Proofs.Evaluation.SingleValue
import Segmentation.Proofs.Editing.Coercion
import Segmentation.Proofs.Editing.OwnValue
import Segmentation.Proofs.Editing.BlankBound
import Segmentation.Proofs.Rule.Storage
import Segmentation.Proofs.Editing.StoredInput
import Segmentation.Proofs.Text
import Segmentation.Proofs.Calendar.IsoText
import Segmentation.Proofs.Evaluation.Ordering
import Segmentation.Proofs.Value.DateText
import Segmentation.Proofs.Evaluation.Instants
import Segmentation.Proofs.Value.Nested
import Segmentation.Proofs.Evaluation.StoredDates
import Segmentation.Proofs.Segment.Members
import Segmentation.Proofs.Segment.Identity
import Segmentation.Proofs.Segment.Resolution
import Segmentation.Proofs.Editing.OperandKinds
import Segmentation.Proofs.Catalogue.DateNames
import Segmentation.Proofs.Segment.Validity
import Segmentation.Proofs.Storage.Layout
import Segmentation.Proofs.Editing.NumberInput
import Segmentation.Proofs.Console.Contacts
import Segmentation.Proofs.Evaluation.TextOperators
import Segmentation.Proofs.Console.Limit
import Segmentation.Proofs.Text.Markup
import Segmentation.Proofs.Console.RuleTree
import Segmentation.Proofs.Editing.CommaLists
import Segmentation.Proofs.Catalogue.Acceptance
import Segmentation.Proofs.Catalogue.Tables
