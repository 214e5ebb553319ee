import TraceTally.CommandLine.Basic
import TraceTally.CommandLine.Help
import TraceTally.CommandLine.Level
import TraceTally.CommandLine.Parse
import TraceTally.Decimal.Binary64
import TraceTally.Decimal.Rounding
import TraceTally.Decimal.Shortest
import TraceTally.Duration
import TraceTally.Error
import TraceTally.Files
import TraceTally.Json.Basic
import TraceTally.Json.Printer
import TraceTally.Json.Reader
import TraceTally.Log.Basic
import TraceTally.Log.Directive
import TraceTally.Log.Filter
import TraceTally.Log.Pattern
import TraceTally.Main
import TraceTally.Output
import TraceTally.Proofs.Averages
import TraceTally.Proofs.ColumnRoundTrip
import TraceTally.Proofs.Conservation
import TraceTally.Proofs.CsvText
import TraceTally.Proofs.DocumentText
import TraceTally.Proofs.DurationGrammar
import TraceTally.Proofs.ErrorTexts
import TraceTally.Proofs.History
import TraceTally.Proofs.JsonText
import TraceTally.Proofs.JsonValue
import TraceTally.Proofs.Ledger
import TraceTally.Proofs.LineBreaks
import TraceTally.Proofs.LineLayout
import TraceTally.Proofs.MisplacedSeparators
import TraceTally.Proofs.ModeBlind
import TraceTally.Proofs.Noninterference
import TraceTally.Proofs.OptionPlacement
import TraceTally.Proofs.PairOrder
import TraceTally.Proofs.PairedPass
import TraceTally.Proofs.Passes
import TraceTally.Proofs.RecordingEffect
import TraceTally.Proofs.Renderings
import TraceTally.Proofs.Reordering
import TraceTally.Proofs.SaturatedTotal
import TraceTally.Proofs.SessionOutcome
import TraceTally.Proofs.SettingsDocument
import TraceTally.Proofs.SinkPrefix
import TraceTally.Proofs.SummaryTable
import TraceTally.Proofs.TallyIndex
import TraceTally.Proofs.TomlStrings
import TraceTally.Proofs.Untimed
import TraceTally.Report.Csv
import TraceTally.Report.Document
import TraceTally.Report.Summary
import TraceTally.Session
import TraceTally.Settings
import TraceTally.Sink
import TraceTally.Tally.Basic
import TraceTally.Tally.Column
import TraceTally.Tally.Pass
import TraceTally.Tally.Recording
import TraceTally.Tally.Totals
import TraceTally.Text.Alphanumeric
import TraceTally.Text.Blank
import TraceTally.Text.Digits
import TraceTally.Text.Lines
import TraceTally.Text.Padding
import TraceTally.Text.Plain
import TraceTally.Text.Quoted
import TraceTally.Text.Unprintable
import TraceTally.Toml.Basic
import TraceTally.Toml.Date
import TraceTally.Toml.Number
import TraceTally.Toml.Reader
import TraceTally.Toml.Table
import TraceTally.Toml.Text
