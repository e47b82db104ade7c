import MarkupLog.Cli.Choice
import MarkupLog.Cli.Commands
import MarkupLog.Cli.Failure
import MarkupLog.Cli.Invocation
import MarkupLog.Cli.Options
import MarkupLog.Cli.Run
import MarkupLog.Cli.Screen
import MarkupLog.Color
import MarkupLog.Console
import MarkupLog.Diagnostics.Layout
import MarkupLog.Diagnostics.Level
import MarkupLog.Diagnostics.Record
import MarkupLog.Diagnostics.Reporter
import MarkupLog.Diagnostics.Style
import MarkupLog.Entries
import MarkupLog.Environment
import MarkupLog.Files.FileSystem
import MarkupLog.Files.Path
import MarkupLog.Logger.Basic
import MarkupLog.Logger.Progress
import MarkupLog.Logger.Session
import MarkupLog.Main
import MarkupLog.Markup.Line
import MarkupLog.Markup.Marker
import MarkupLog.Markup.Segment
import MarkupLog.Number.Binary64
import MarkupLog.Number.Layout
import MarkupLog.Number.Literal
import MarkupLog.Number.Rounding
import MarkupLog.Number.Shortest
import MarkupLog.Palette
import MarkupLog.Program
import MarkupLog.Proofs.Content
import MarkupLog.Proofs.DiagnosticFlags
import MarkupLog.Proofs.Encoding
import MarkupLog.Proofs.ExclusiveFlags
import MarkupLog.Proofs.FartherFiles
import MarkupLog.Proofs.FileContents
import MarkupLog.Proofs.GroupLists
import MarkupLog.Proofs.Groups
import MarkupLog.Proofs.Isolation
import MarkupLog.Proofs.LargeIntegers
import MarkupLog.Proofs.Layering
import MarkupLog.Proofs.Layers
import MarkupLog.Proofs.Line
import MarkupLog.Proofs.Markers
import MarkupLog.Proofs.NearestFile
import MarkupLog.Proofs.Overflow
import MarkupLog.Proofs.Palettes
import MarkupLog.Proofs.PlainText
import MarkupLog.Proofs.ProgramOutput
import MarkupLog.Proofs.ProgressLines
import MarkupLog.Proofs.ProgressScreen
import MarkupLog.Proofs.Removal
import MarkupLog.Proofs.Replies
import MarkupLog.Proofs.Runs
import MarkupLog.Proofs.Screen
import MarkupLog.Proofs.Sinks
import MarkupLog.Proofs.Thawing
import MarkupLog.Settings.Basic
import MarkupLog.Settings.ColorMode
import MarkupLog.Settings.Discovery
import MarkupLog.Settings.Layers
import MarkupLog.Settings.Resolve
import MarkupLog.Settings.Shown
import MarkupLog.Settings.Source
import MarkupLog.Sink
import MarkupLog.Template.Directive
import MarkupLog.Template.Filling
import MarkupLog.Template.Message
import MarkupLog.Terminal.Probe
import MarkupLog.Terminal.Sequence
import MarkupLog.Text.Blank
import MarkupLog.Text.Case
import MarkupLog.Text.Digit
import MarkupLog.Text.LineEnds
import MarkupLog.Text.Printable
import MarkupLog.Text.Quoted
import MarkupLog.Text.Range
import MarkupLog.Text.Replace
import MarkupLog.Text.Split
import MarkupLog.Text.Utf8
import MarkupLog.Toml.Document
import MarkupLog.Toml.Expression
import MarkupLog.Toml.Key
import MarkupLog.Toml.Moment
import MarkupLog.Toml.Numeral
import MarkupLog.Toml.Quote
import MarkupLog.Toml.Scan
import MarkupLog.Toml.Table
import MarkupLog.Value
import MarkupLog.Verbosity
import MarkupLog.Proofs.Arity
import MarkupLog.Proofs.Retries
import MarkupLog.Proofs.WrittenSegments
import MarkupLog.Proofs.Operands
import MarkupLog.Proofs.StripCommand
import MarkupLog.Proofs.MergedForm
import MarkupLog.Proofs.LetterCase
import MarkupLog.Proofs.Numerals
import MarkupLog.Proofs.MinimalLine
import MarkupLog.Proofs.Seams
import MarkupLog.Proofs.TableMerges
import MarkupLog.Proofs.FailedSources
import MarkupLog.Proofs.ColorNames
import MarkupLog.Proofs.ProgressMarks
import MarkupLog.Proofs.RelativeStarts
import MarkupLog.Proofs.LevelValues
import MarkupLog.Proofs.LineNumbers
import MarkupLog.Proofs.LongIntegers
