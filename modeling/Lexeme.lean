import Lexeme.CharClass
import Lexeme.CommandLine.Arguments
import Lexeme.CommandLine.Run
import Lexeme.CommandLine.Usage
import Lexeme.Decimal.Fixed
import Lexeme.Decimal.Magnitude
import Lexeme.Decimal.Shortest
import Lexeme.Files.Disk
import Lexeme.Files.Loader
import Lexeme.Files.Metadata
import Lexeme.Files.Tree
import Lexeme.Json.Numeral
import Lexeme.Json.Reader
import Lexeme.Json.Scan
import Lexeme.Json.Settings
import Lexeme.Json.Text
import Lexeme.Json.Value
import Lexeme.Limits
import Lexeme.Limits.Profile
import Lexeme.Log.Code
import Lexeme.Log.Event
import Lexeme.Log.EventText
import Lexeme.Log.Level
import Lexeme.Log.Memory
import Lexeme.Log.Recorder
import Lexeme.Log.Session
import Lexeme.Log.Sink
import Lexeme.Log.Traced
import Lexeme.Main
import Lexeme.Munch
import Lexeme.Piece
import Lexeme.Pipeline.Failure
import Lexeme.Pipeline.Output
import Lexeme.Pipeline.Processing
import Lexeme.Pipeline.Result
import Lexeme.Proofs.Accounting
import Lexeme.Proofs.AppendedText
import Lexeme.Proofs.BuildLimits
import Lexeme.Proofs.CharClass
import Lexeme.Proofs.ClassTests
import Lexeme.Proofs.CommandWords
import Lexeme.Proofs.Coverage
import Lexeme.Proofs.CursorSteps
import Lexeme.Proofs.Cuts
import Lexeme.Proofs.DiagnosticBuffer
import Lexeme.Proofs.Dictionary
import Lexeme.Proofs.EarlierLines
import Lexeme.Proofs.EventContext
import Lexeme.Proofs.EventLines
import Lexeme.Proofs.Extensions
import Lexeme.Proofs.FileProcessing
import Lexeme.Proofs.FileTree
import Lexeme.Proofs.FirstKeys
import Lexeme.Proofs.Fractions
import Lexeme.Proofs.Indifference
import Lexeme.Proofs.JsonForms
import Lexeme.Proofs.JsonText
import Lexeme.Proofs.LatestEvents
import Lexeme.Proofs.Layout
import Lexeme.Proofs.Loading
import Lexeme.Proofs.Lowercase
import Lexeme.Proofs.MaximalMunch
import Lexeme.Proofs.Numerals
import Lexeme.Proofs.OperatorUses
import Lexeme.Proofs.PathExtensions
import Lexeme.Proofs.Places
import Lexeme.Proofs.Processing
import Lexeme.Proofs.QuoteSplit
import Lexeme.Proofs.RangeTree
import Lexeme.Proofs.Rejoining
import Lexeme.Proofs.Reports
import Lexeme.Proofs.Rounding
import Lexeme.Proofs.Routing
import Lexeme.Proofs.Runs
import Lexeme.Proofs.SafeCut
import Lexeme.Proofs.ScanMetrics
import Lexeme.Proofs.ScanOutput
import Lexeme.Proofs.ScanTrace
import Lexeme.Proofs.Separation
import Lexeme.Proofs.SettingsLayers
import Lexeme.Proofs.SettingsText
import Lexeme.Proofs.ShortMessages
import Lexeme.Proofs.Shortest
import Lexeme.Proofs.SourceContext
import Lexeme.Proofs.StrictScan
import Lexeme.Proofs.TextReports
import Lexeme.Proofs.Tiling
import Lexeme.Proofs.TokenAt
import Lexeme.Proofs.TokenReaders
import Lexeme.Proofs.TomlDocument
import Lexeme.Proofs.TomlStrings
import Lexeme.Proofs.Troubles
import Lexeme.Scan.Counts
import Lexeme.Scan.Cursor
import Lexeme.Scan.Diagnostic
import Lexeme.Scan.LoggedCursor
import Lexeme.Scan.Metrics
import Lexeme.Scan.Output
import Lexeme.Scan.Trace
import Lexeme.Settings.Basic
import Lexeme.Settings.Environment
import Lexeme.Settings.File
import Lexeme.Settings.Format
import Lexeme.Span
import Lexeme.Text.Blank
import Lexeme.Text.DecimalDigits
import Lexeme.Text.Dictionary
import Lexeme.Text.Extension
import Lexeme.Text.Hexadecimal
import Lexeme.Text.LetterCase
import Lexeme.Text.Letters
import Lexeme.Text.Lines
import Lexeme.Text.Lowercase
import Lexeme.Text.Quoted
import Lexeme.Text.RangeTree
import Lexeme.Text.Unprintable
import Lexeme.Text.Utf8
import Lexeme.Time.Duration
import Lexeme.Time.Instant
import Lexeme.Token
import Lexeme.Toml.Document
import Lexeme.Toml.Quoted
import Lexeme.Toml.Reader
import Lexeme.Toml.Scalars
import Lexeme.Toml.Settings
import Lexeme.Toml.Strings
import Lexeme.Toml.Tree
import Lexeme.Toml.Value
