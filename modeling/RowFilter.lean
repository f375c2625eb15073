import RowFilter.Calendar.Date
import RowFilter.Calendar.Moment
import RowFilter.Command.Conclusion
import RowFilter.Command.Grammar
import RowFilter.Command.Invocation
import RowFilter.Command.Report
import RowFilter.Command.Run
import RowFilter.Command.Style
import RowFilter.Config.Basic
import RowFilter.Config.Example
import RowFilter.Config.Location
import RowFilter.Conversion.Backward
import RowFilter.Conversion.Forward
import RowFilter.Conversion.Session
import RowFilter.Files.Access
import RowFilter.Files.Permissions
import RowFilter.Files.Tree
import RowFilter.Filter.Basic
import RowFilter.Filter.Decoding
import RowFilter.Filter.Encoding
import RowFilter.Filter.LooseReading
import RowFilter.Filter.Operator
import RowFilter.Filter.Reading
import RowFilter.Filter.ShapeError
import RowFilter.FilterError
import RowFilter.Json.Numeral
import RowFilter.Json.Printer
import RowFilter.Json.Reader
import RowFilter.Json.Value
import RowFilter.Keyed
import RowFilter.Literal.Basic
import RowFilter.Literal.Coercion
import RowFilter.Literal.Kind
import RowFilter.Main
import RowFilter.Number.Decimal
import RowFilter.Number.Double
import RowFilter.Number.Notation
import RowFilter.Number.Shortest
import RowFilter.Predicate.Basic
import RowFilter.Predicate.Evaluation
import RowFilter.Predicate.Pattern
import RowFilter.Predicate.Selector
import RowFilter.Predicate.Sql
import RowFilter.Proofs.Calendar.DateText
import RowFilter.Proofs.Calendar.MomentText
import RowFilter.Proofs.Clause.Decoder
import RowFilter.Proofs.Clause.Item
import RowFilter.Proofs.Clause.Lexeme
import RowFilter.Proofs.Clause.Placeholder
import RowFilter.Proofs.Command.Effects
import RowFilter.Proofs.Command.Rows
import RowFilter.Proofs.Conversion.Compiled
import RowFilter.Proofs.Conversion.Criterion
import RowFilter.Proofs.Conversion.Extension
import RowFilter.Proofs.Conversion.Forms
import RowFilter.Proofs.Conversion.Lockstep
import RowFilter.Proofs.Conversion.Meaning
import RowFilter.Proofs.Conversion.Memory
import RowFilter.Proofs.Conversion.Outcome
import RowFilter.Proofs.Conversion.PartialGroup
import RowFilter.Proofs.Conversion.Places
import RowFilter.Proofs.Conversion.Printed
import RowFilter.Proofs.Conversion.Recoverable
import RowFilter.Proofs.Conversion.Recovery
import RowFilter.Proofs.Conversion.Regularity
import RowFilter.Proofs.Conversion.Reordering
import RowFilter.Proofs.Conversion.RoundTrip
import RowFilter.Proofs.Conversion.WellKinded
import RowFilter.Proofs.Files.Tree
import RowFilter.Proofs.Filter.Agreement
import RowFilter.Proofs.Filter.Codec
import RowFilter.Proofs.Filter.Conditions
import RowFilter.Proofs.Filter.Members
import RowFilter.Proofs.Filter.ReadingOrder
import RowFilter.Proofs.Filter.Recognition
import RowFilter.Proofs.Filter.Shape
import RowFilter.Proofs.Filter.Text
import RowFilter.Proofs.Json.AllNumbers
import RowFilter.Proofs.Json.Canonical
import RowFilter.Proofs.Json.Documents
import RowFilter.Proofs.Json.Indentation
import RowFilter.Proofs.Json.Lines
import RowFilter.Proofs.Json.Numbers
import RowFilter.Proofs.Json.Strings
import RowFilter.Proofs.Json.WellFormed
import RowFilter.Proofs.Keyed
import RowFilter.Proofs.Literal.JsonForm
import RowFilter.Proofs.Literal.Order
import RowFilter.Proofs.Literal.Stability
import RowFilter.Proofs.Number.Digits
import RowFilter.Proofs.Number.Order
import RowFilter.Proofs.Number.Rounding
import RowFilter.Proofs.Pattern.Classification
import RowFilter.Proofs.Pattern.Expression
import RowFilter.Proofs.Pattern.Matching
import RowFilter.Proofs.Pattern.Search
import RowFilter.Proofs.Predicate.Expansion
import RowFilter.Proofs.Predicate.Monotonicity
import RowFilter.Proofs.Predicate.Selection
import RowFilter.Proofs.Query.Form
import RowFilter.Proofs.Query.Mixture
import RowFilter.Proofs.Query.Propagation
import RowFilter.Proofs.Query.Replacement
import RowFilter.Proofs.Schema.Resolution
import RowFilter.Proofs.Schema.Suggestion
import RowFilter.Proofs.Success
import RowFilter.Proofs.Text.Distance
import RowFilter.Proofs.Text.Octets
import RowFilter.Proofs.Text.Trimming
import RowFilter.Proofs.UuidText
import RowFilter.Query.Form
import RowFilter.Query.Parameters
import RowFilter.Query.Request
import RowFilter.Query.Resolver
import RowFilter.Schema.Basic
import RowFilter.Schema.Catalog
import RowFilter.Schema.Reading
import RowFilter.Schema.Resolution
import RowFilter.Schema.Suggestion
import RowFilter.Text.Base64
import RowFilter.Text.Blank
import RowFilter.Text.CaseTable
import RowFilter.Text.Composition
import RowFilter.Text.CompositionTable
import RowFilter.Text.Distance
import RowFilter.Text.HiddenTable
import RowFilter.Text.Lowercase
import RowFilter.Text.Octets
import RowFilter.Text.Percent
import RowFilter.Text.Punycode
import RowFilter.Text.Quoted
import RowFilter.Text.Split
import RowFilter.Toml.Reader
import RowFilter.Toml.Scalar
import RowFilter.Toml.Table
import RowFilter.Toml.Text
import RowFilter.Url.Basic
import RowFilter.Url.Host
import RowFilter.Url.HostTable
import RowFilter.Url.Ipv4
import RowFilter.Url.Ipv6
import RowFilter.Url.Path
import RowFilter.Url.Reading
import RowFilter.Uuid
