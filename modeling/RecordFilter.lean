import RecordFilter.Calendar.Date
import RecordFilter.Calendar.Layout
import RecordFilter.Calendar.Moment
import RecordFilter.Calendar.Range
import RecordFilter.Clause.Expression
import RecordFilter.Clause.Field
import RecordFilter.Clause.Hash
import RecordFilter.Clause.Operator
import RecordFilter.Clause.Parser
import RecordFilter.Clause.Split
import RecordFilter.Command.Arguments
import RecordFilter.Command.Basic
import RecordFilter.Command.Coerce
import RecordFilter.Command.Find
import RecordFilter.Command.Line
import RecordFilter.Command.Parse
import RecordFilter.Command.Presets
import RecordFilter.Command.Records
import RecordFilter.Command.Run
import RecordFilter.Command.Task
import RecordFilter.Files.Basic
import RecordFilter.Files.Environment
import RecordFilter.Files.Path
import RecordFilter.Filter.Basic
import RecordFilter.Filter.Dates
import RecordFilter.Filter.Description
import RecordFilter.Filter.Evaluation
import RecordFilter.Json.Reader
import RecordFilter.Json.Writer
import RecordFilter.Main
import RecordFilter.Number.Binary64
import RecordFilter.Number.Numeral
import RecordFilter.Number.Rounding
import RecordFilter.Number.Shortest
import RecordFilter.Pattern.Alternatives
import RecordFilter.Pattern.CharSet
import RecordFilter.Pattern.Escape
import RecordFilter.Pattern.Fold
import RecordFilter.Pattern.InlineFlags
import RecordFilter.Pattern.Matching
import RecordFilter.Pattern.Reading
import RecordFilter.Pattern.Source
import RecordFilter.Pattern.Start
import RecordFilter.Pattern.Syntax
import RecordFilter.Preset.Basic
import RecordFilter.Preset.Catalogue
import RecordFilter.Preset.Validation
import RecordFilter.Proofs.Clause.Aliases
import RecordFilter.Proofs.Clause.Comparisons
import RecordFilter.Proofs.Clause.Composition
import RecordFilter.Proofs.Clause.Detection
import RecordFilter.Proofs.Clause.Keys
import RecordFilter.Proofs.Clause.Lists
import RecordFilter.Proofs.Clause.Marks
import RecordFilter.Proofs.Clause.Names
import RecordFilter.Proofs.Clause.Printing
import RecordFilter.Proofs.Clause.Quotes
import RecordFilter.Proofs.Clause.Reading
import RecordFilter.Proofs.Clause.Rejection
import RecordFilter.Proofs.Clause.Values
import RecordFilter.Proofs.Clause.Words
import RecordFilter.Proofs.Command.Failures
import RecordFilter.Proofs.Command.Find
import RecordFilter.Proofs.Command.Records
import RecordFilter.Proofs.Command.Reports
import RecordFilter.Proofs.Command.Tasks
import RecordFilter.Proofs.Filter.AllOrNothing
import RecordFilter.Proofs.Filter.Coherence
import RecordFilter.Proofs.Filter.Combination
import RecordFilter.Proofs.Filter.Containment
import RecordFilter.Proofs.Filter.Emptiness
import RecordFilter.Proofs.Filter.Exclusion
import RecordFilter.Proofs.Filter.Expansion
import RecordFilter.Proofs.Filter.Faults
import RecordFilter.Proofs.Filter.Interchange
import RecordFilter.Proofs.Filter.Measures
import RecordFilter.Proofs.Filter.Narrowing
import RecordFilter.Proofs.Filter.Numbers
import RecordFilter.Proofs.Filter.Opposites
import RecordFilter.Proofs.Filter.Rereading
import RecordFilter.Proofs.Filter.RoundTrip
import RecordFilter.Proofs.Filter.Selection
import RecordFilter.Proofs.Filter.Spellings
import RecordFilter.Proofs.Json.Data
import RecordFilter.Proofs.Json.Readings
import RecordFilter.Proofs.Json.RoundTrip
import RecordFilter.Proofs.Json.Tokens
import RecordFilter.Proofs.Json.Trimming
import RecordFilter.Proofs.Json.Truncation
import RecordFilter.Proofs.Json.Writing
import RecordFilter.Proofs.Number.Decimal
import RecordFilter.Proofs.Number.Digits
import RecordFilter.Proofs.Number.FloatText
import RecordFilter.Proofs.Number.Nearest
import RecordFilter.Proofs.Number.Range
import RecordFilter.Proofs.Number.Shortest
import RecordFilter.Proofs.Outcome
import RecordFilter.Proofs.Quantity.Cascade
import RecordFilter.Proofs.Quantity.Clock
import RecordFilter.Proofs.Quantity.ClockText
import RecordFilter.Proofs.Quantity.Minutes
import RecordFilter.Proofs.Quantity.NumberText
import RecordFilter.Proofs.Quantity.Overlaps
import RecordFilter.Proofs.Quantity.SizeText
import RecordFilter.Proofs.Text.Capitals
import RecordFilter.Proofs.Text.Case
import RecordFilter.Proofs.Text.Ends
import RecordFilter.Proofs.Text.Lowering
import RecordFilter.Proofs.Text.Search
import RecordFilter.Proofs.Text.Sigma
import RecordFilter.Proofs.Value.Alike
import RecordFilter.Proofs.Value.Measures
import RecordFilter.Proofs.Value.Numbers
import RecordFilter.Proofs.Value.Ordering
import RecordFilter.Proofs.Value.Settled
import RecordFilter.Quantity.ByteSize
import RecordFilter.Quantity.Duration
import RecordFilter.Quantity.Number
import RecordFilter.Quantity.ReadError
import RecordFilter.Quantity.Scalar
import RecordFilter.Report.Basic
import RecordFilter.Report.Failure
import RecordFilter.Report.Shown
import RecordFilter.Report.View
import RecordFilter.Screen.CellWidth
import RecordFilter.Screen.Cluster
import RecordFilter.Screen.Color
import RecordFilter.Screen.Emoji
import RecordFilter.Screen.EmojiTable
import RecordFilter.Screen.Markup
import RecordFilter.Screen.Style
import RecordFilter.Screen.Table
import RecordFilter.Screen.Wrap
import RecordFilter.Settings.Basic
import RecordFilter.Text.Alphanumeric
import RecordFilter.Text.Basic
import RecordFilter.Text.Blank
import RecordFilter.Text.Case
import RecordFilter.Text.CaseTable
import RecordFilter.Text.CharName
import RecordFilter.Text.CharNameTable
import RecordFilter.Text.Digit
import RecordFilter.Text.Name
import RecordFilter.Text.Printable
import RecordFilter.Text.Quoted
import RecordFilter.Text.Ranges
import RecordFilter.Toml.Basic
import RecordFilter.Toml.Lexeme
import RecordFilter.Toml.Reader
import RecordFilter.Value.Basic
import RecordFilter.Value.Comparison
import RecordFilter.Value.Display
import RecordFilter.Value.Equality
import RecordFilter.Proofs.Clause.Separators
import RecordFilter.Proofs.Calendar.Dates
import RecordFilter.Proofs.Clause.Restoration
import RecordFilter.Proofs.Clause.Sameness
import RecordFilter.Proofs.Calendar.Ranges
import RecordFilter.Proofs.Calendar.Windows
import RecordFilter.Proofs.Toml.Lexemes
import RecordFilter.Proofs.Toml.Faults
import RecordFilter.Proofs.Command.Files
import RecordFilter.Proofs.Number.Whole
import RecordFilter.Proofs.Quantity.Compact
import RecordFilter.Proofs.Quantity.SizeOrder
import RecordFilter.Proofs.Calendar.Moments
import RecordFilter.Proofs.Calendar.Periods
import RecordFilter.Proofs.Calendar.Layouts
import RecordFilter.Proofs.Calendar.Writing
import RecordFilter.Proofs.Command.Warnings
import RecordFilter.Proofs.Preset.Views
