import RuleFlow.Builtin.Answer
import RuleFlow.Builtin.Basic
import RuleFlow.Builtin.OnDate
import RuleFlow.Builtin.OnNumber
import RuleFlow.Builtin.OnText
import RuleFlow.Builtin.OnValue
import RuleFlow.Calendar.Date
import RuleFlow.Calendar.Error
import RuleFlow.Calendar.Iso
import RuleFlow.Calendar.Moment
import RuleFlow.DataType
import RuleFlow.Digest.Sha256
import RuleFlow.Fault
import RuleFlow.Json.Reader
import RuleFlow.Json.Writer
import RuleFlow.Keyed
import RuleFlow.Main
import RuleFlow.Number.Binary64.Basic
import RuleFlow.Number.Binary64.Fixed
import RuleFlow.Number.Binary64.Shortest
import RuleFlow.Number.Binary64.Text
import RuleFlow.Number.Decimal.Basic
import RuleFlow.Number.Decimal.Context
import RuleFlow.Number.Decimal.Logarithm
import RuleFlow.Number.Decimal.Power
import RuleFlow.Number.Decimal.Text
import RuleFlow.Number.Rounding
import RuleFlow.Number.Whole
import RuleFlow.Outcome
import RuleFlow.Pattern.Cursor
import RuleFlow.Pattern.Error
import RuleFlow.Pattern.Matcher
import RuleFlow.Pattern.Reader
import RuleFlow.Pattern.Syntax
import RuleFlow.Program.Basic
import RuleFlow.Program.Literal
import RuleFlow.Program.Run
import RuleFlow.Program.Text
import RuleFlow.Proofs.Alike
import RuleFlow.Proofs.Builtin.Finite
import RuleFlow.Proofs.Builtin.FixedPlaces
import RuleFlow.Proofs.Builtin.NearestWhole
import RuleFlow.Proofs.Builtin.Results
import RuleFlow.Proofs.Builtin.StartedDays
import RuleFlow.Proofs.Calendar.DayNumber
import RuleFlow.Proofs.Calendar.IsoText
import RuleFlow.Proofs.Calendar.Months
import RuleFlow.Proofs.Ends
import RuleFlow.Proofs.Firsts
import RuleFlow.Proofs.Graph.Availability
import RuleFlow.Proofs.Graph.Checks
import RuleFlow.Proofs.Graph.Circle
import RuleFlow.Proofs.Graph.Order
import RuleFlow.Proofs.Graph.Position
import RuleFlow.Proofs.Graph.Search
import RuleFlow.Proofs.Graph.Sorted
import RuleFlow.Proofs.Graph.Verdict
import RuleFlow.Proofs.Graph.Way
import RuleFlow.Proofs.Json.Readable
import RuleFlow.Proofs.Number.DecimalText
import RuleFlow.Proofs.Number.DoubleGrid
import RuleFlow.Proofs.Number.Finite
import RuleFlow.Proofs.Number.Grid
import RuleFlow.Proofs.Number.Logarithm
import RuleFlow.Proofs.Number.Nearest
import RuleFlow.Proofs.Number.Numeral
import RuleFlow.Proofs.Number.Order
import RuleFlow.Proofs.Number.Rational
import RuleFlow.Proofs.Number.ShortestText
import RuleFlow.Proofs.Number.Sum
import RuleFlow.Proofs.Number.Whole
import RuleFlow.Proofs.Number.WholeText
import RuleFlow.Proofs.Program.Agreement
import RuleFlow.Proofs.Program.Closed
import RuleFlow.Proofs.Program.Emission
import RuleFlow.Proofs.Program.Lasting
import RuleFlow.Proofs.Program.Literal
import RuleFlow.Proofs.Program.Reread
import RuleFlow.Proofs.Registry.History
import RuleFlow.Proofs.Registry.Lookup
import RuleFlow.Proofs.Registry.Scope
import RuleFlow.Proofs.Rule.Binding
import RuleFlow.Proofs.Rule.ConditionTypes
import RuleFlow.Proofs.Rule.Fingerprint
import RuleFlow.Proofs.Rule.Identity
import RuleFlow.Proofs.Rule.KeyOrder
import RuleFlow.Proofs.Rule.Literals
import RuleFlow.Proofs.Rule.Reading
import RuleFlow.Proofs.Rule.Shuffled
import RuleFlow.Proofs.Rule.Spelling
import RuleFlow.Proofs.Rule.StepOrder
import RuleFlow.Proofs.Rule.StepSpelling
import RuleFlow.Proofs.Rule.Types
import RuleFlow.Proofs.Rule.WellFormed
import RuleFlow.Proofs.Rule.Words
import RuleFlow.Proofs.Run.Accepted
import RuleFlow.Proofs.Run.Assignment
import RuleFlow.Proofs.Run.Branches
import RuleFlow.Proofs.Run.Conditions
import RuleFlow.Proofs.Run.Course
import RuleFlow.Proofs.Run.Faults
import RuleFlow.Proofs.Run.Safety
import RuleFlow.Proofs.Run.Seeding
import RuleFlow.Proofs.Run.Sources
import RuleFlow.Proofs.Run.Typing
import RuleFlow.Proofs.Service.BodySecrets
import RuleFlow.Proofs.Service.Counting
import RuleFlow.Proofs.Service.ErrorDetails
import RuleFlow.Proofs.Text.Delimited
import RuleFlow.Proofs.Text.Pieces
import RuleFlow.Proofs.Value.Brackets
import RuleFlow.Proofs.Value.Canonical
import RuleFlow.Proofs.Value.Comparison
import RuleFlow.Proofs.Value.ComparisonLaws
import RuleFlow.Proofs.Value.Conversion
import RuleFlow.Proofs.Value.Equality
import RuleFlow.Proofs.Value.FiniteNumber
import RuleFlow.Proofs.Value.OneShape
import RuleFlow.Proofs.Value.Reordered
import RuleFlow.Proofs.Value.RoundTrip
import RuleFlow.Proofs.Value.TwoEqualities
import RuleFlow.Registry.Basic
import RuleFlow.Registry.Catalogue
import RuleFlow.Rule.Basic
import RuleFlow.Rule.Canonical
import RuleFlow.Rule.Compiled
import RuleFlow.Rule.Error
import RuleFlow.Rule.ErrorKind
import RuleFlow.Rule.Graph
import RuleFlow.Rule.Reader
import RuleFlow.Run.Context
import RuleFlow.Run.Engine
import RuleFlow.Run.Seed
import RuleFlow.Service.Api
import RuleFlow.Service.Command
import RuleFlow.Service.Http
import RuleFlow.Service.Invocation
import RuleFlow.Service.LogLine
import RuleFlow.Service.Meter
import RuleFlow.Service.Redaction
import RuleFlow.Service.Settings
import RuleFlow.Service.Template
import RuleFlow.Service.Tracing
import RuleFlow.Text.Case
import RuleFlow.Text.CaseTable
import RuleFlow.Text.CodeRange
import RuleFlow.Text.Identifier
import RuleFlow.Text.Percent
import RuleFlow.Text.Printable
import RuleFlow.Text.Quoted
import RuleFlow.Text.Search
import RuleFlow.Text.Utf8
import RuleFlow.Text.Word
import RuleFlow.Value.Basic
import RuleFlow.Value.Coerce
import RuleFlow.Value.Compare
import RuleFlow.Value.Display
import RuleFlow.Value.Equality
import RuleFlow.Value.Whole
