import RollupAudit.Check.Age
import RollupAudit.Check.Anchor
import RollupAudit.Check.Basic
import RollupAudit.Check.Operator
import RollupAudit.Check.Oracle
import RollupAudit.Check.Quantity
import RollupAudit.Check.Upgrade
import RollupAudit.Check.Withdrawal
import RollupAudit.Command.Arguments
import RollupAudit.Command.Catalogue
import RollupAudit.Command.Failure
import RollupAudit.Command.Options
import RollupAudit.Command.Run
import RollupAudit.Command.Settings
import RollupAudit.Digest.Sha256
import RollupAudit.Evaluation.Basic
import RollupAudit.Evaluation.Options
import RollupAudit.Evaluation.Pool
import RollupAudit.Evaluation.TimeLimit
import RollupAudit.Facts.Address
import RollupAudit.Facts.Basic
import RollupAudit.Facts.Canonical
import RollupAudit.Facts.Override
import RollupAudit.Facts.Parameter
import RollupAudit.Facts.Reading
import RollupAudit.Files.Document
import RollupAudit.Files.Path
import RollupAudit.Files.Tree
import RollupAudit.Json.Basic
import RollupAudit.Json.Reader
import RollupAudit.Json.Writer
import RollupAudit.Main
import RollupAudit.Number.Basic
import RollupAudit.Number.Binary64
import RollupAudit.Number.Binary64Arithmetic
import RollupAudit.Number.Binary64Reading
import RollupAudit.Number.Binary64Text
import RollupAudit.Number.Decimal
import RollupAudit.Number.DecimalArithmetic
import RollupAudit.Number.DecimalText
import RollupAudit.Policy.Basic
import RollupAudit.Policy.Constant
import RollupAudit.Policy.File
import RollupAudit.Policy.Model
import RollupAudit.Policy.Schema
import RollupAudit.Proofs.Evaluation.Pool
import RollupAudit.Proofs.Evaluation.Schedule
import RollupAudit.Proofs.Report.Dedupe
import RollupAudit.Proofs.Report.Order
import RollupAudit.Report.Aggregate
import RollupAudit.Report.Basic
import RollupAudit.Report.Category
import RollupAudit.Report.Finding
import RollupAudit.Report.Markdown
import RollupAudit.Report.Outcome
import RollupAudit.Report.Severity
import RollupAudit.Rule.Attempt
import RollupAudit.Rule.Basic
import RollupAudit.Rule.Builtin
import RollupAudit.Rule.Catalogue
import RollupAudit.Rule.Registry
import RollupAudit.Snapshot.Selection
import RollupAudit.Snapshot.Source
import RollupAudit.Snapshot.Store
import RollupAudit.Text.Blank
import RollupAudit.Text.CaseTables
import RollupAudit.Text.CodePoint
import RollupAudit.Text.DecimalDigit
import RollupAudit.Text.IntLiteral
import RollupAudit.Text.LetterCase
import RollupAudit.Text.Numeral
import RollupAudit.Text.Printable
import RollupAudit.Text.Quoted
import RollupAudit.Text.Scientific
import RollupAudit.Text.Split
import RollupAudit.Text.Utf8
import RollupAudit.Time.Calendar
import RollupAudit.Time.Duration
import RollupAudit.Time.Instant
import RollupAudit.Time.InternetTime
import RollupAudit.Time.IsoReading
import RollupAudit.Time.Timestamp
import RollupAudit.Time.UnixTime
import RollupAudit.Validation.Checked
import RollupAudit.Validation.Fields
import RollupAudit.Validation.IntText
import RollupAudit.Validation.Issue
import RollupAudit.Validation.Scalar
import RollupAudit.Value.Basic
import RollupAudit.Value.Key
import RollupAudit.Value.Serial
import RollupAudit.Value.Text
import RollupAudit.Yaml.Cursor
import RollupAudit.Yaml.Denotation
import RollupAudit.Yaml.Fault
import RollupAudit.Yaml.Grammar
import RollupAudit.Yaml.Lexer
import RollupAudit.Yaml.MarkLexer
import RollupAudit.Yaml.Node
import RollupAudit.Yaml.Reader
import RollupAudit.Yaml.ScalarLexer
import RollupAudit.Yaml.ScalarText
import RollupAudit.Yaml.ScalarValue
import RollupAudit.Yaml.Tag
import RollupAudit.Yaml.Token
import RollupAudit.Yaml.Writer
import RollupAudit.Proofs.Evaluation.Judgements
import RollupAudit.Proofs.Evaluation.Reports
import RollupAudit.Proofs.Report.Aggregation
import RollupAudit.Proofs.Report.Survivors
import RollupAudit.Proofs.Text.Digits
import RollupAudit.Proofs.Text.Scientific
import RollupAudit.Proofs.Text.LowerCase
import RollupAudit.Proofs.Number.DecimalText
import RollupAudit.Proofs.Number.Binary64Text
import RollupAudit.Proofs.Json.Numbers
import RollupAudit.Proofs.Json.Strings
import RollupAudit.Proofs.Json.RoundTrip
import RollupAudit.Proofs.Text.Utf8
import RollupAudit.Proofs.Time.Calendar
import RollupAudit.Proofs.Time.InstantText
import RollupAudit.Proofs.Json.Characters
import RollupAudit.Proofs.Json.Sorted
import RollupAudit.Proofs.Facts.Address
import RollupAudit.Proofs.Facts.Normal
import RollupAudit.Proofs.Facts.Sections
import RollupAudit.Proofs.Facts.RoundTrip
import RollupAudit.Proofs.Validation.Results
import RollupAudit.Proofs.Files.Tree
import RollupAudit.Proofs.Snapshot.Replay
import RollupAudit.Proofs.Number.DecimalProduct
import RollupAudit.Proofs.Rule.Configuration
import RollupAudit.Proofs.Check.Durations
import RollupAudit.Proofs.Check.Totality
import RollupAudit.Proofs.Rule.Totality
import RollupAudit.Proofs.Value.Paths
import RollupAudit.Proofs.Facts.Slots
import RollupAudit.Proofs.Facts.Leaves
import RollupAudit.Proofs.Facts.Records
import RollupAudit.Proofs.Facts.SectionSlots
import RollupAudit.Proofs.Facts.ParameterSlots
import RollupAudit.Proofs.Facts.SnapshotSlots
import RollupAudit.Proofs.Facts.Overrides
import RollupAudit.Proofs.Facts.Invariants
import RollupAudit.Proofs.Report.Consistency
import RollupAudit.Proofs.Evaluation.Isolation
import RollupAudit.Proofs.Facts.Equality
import RollupAudit.Proofs.Value.Rearranged
import RollupAudit.Proofs.Facts.Writings
import RollupAudit.Proofs.Facts.Documents
import RollupAudit.Proofs.Evaluation.Cancellation
import RollupAudit.Proofs.Evaluation.Sharding
import RollupAudit.Proofs.Rule.PolicyEntries
import RollupAudit.Proofs.Evaluation.PolicyEntries
import RollupAudit.Proofs.Validation.Faults
import RollupAudit.Proofs.Facts.Breakdown
import RollupAudit.Proofs.Snapshot.Selection
import RollupAudit.Proofs.Files.Directory
import RollupAudit.Proofs.Snapshot.Source
import RollupAudit.Proofs.Command.Steps
import RollupAudit.Proofs.Command.ExitCode
import RollupAudit.Proofs.Command.BrokenInputs
import RollupAudit.Proofs.Command.Loading
import RollupAudit.Proofs.Command.BreakingOff
import RollupAudit.Proofs.Number.DecimalValue
import RollupAudit.Proofs.Number.DecimalRounding
import RollupAudit.Proofs.Rule.Coverage
import RollupAudit.Proofs.Rule.Timing
import RollupAudit.Proofs.Rule.Thresholds
import RollupAudit.Proofs.Facts.SharedText
import RollupAudit.Proofs.Rule.NonFinite
import RollupAudit.Proofs.Evaluation.Course
import RollupAudit.Proofs.Evaluation.SharedText
import RollupAudit.Proofs.Number.Binary64Quotient
import RollupAudit.Proofs.Rule.Staleness
import RollupAudit.Proofs.Evaluation.Locality
import RollupAudit.Proofs.Time.DurationText
import RollupAudit.Proofs.Rule.Failover
import RollupAudit.Proofs.Facts.GivenParameters
import RollupAudit.Proofs.Rule.Quantities
import RollupAudit.Proofs.Rule.Registration
import RollupAudit.Proofs.Time.DirectoryName
import RollupAudit.Proofs.Files.MadeDirectories
import RollupAudit.Proofs.Snapshot.Keeping
import RollupAudit.Proofs.Rule.Catalogue
import RollupAudit.Proofs.Json.Faults
import RollupAudit.Proofs.Yaml.Tokens
import RollupAudit.Proofs.Yaml.Faults
import RollupAudit.Proofs.Snapshot.Unavailable
