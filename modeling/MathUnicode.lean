import MathUnicode.Cli.Arguments
import MathUnicode.Cli.Json
import MathUnicode.Cli.Options
import MathUnicode.Cli.Program
import MathUnicode.Cli.Report
import MathUnicode.Cli.Workspace
import MathUnicode.Convert
import MathUnicode.FileError
import MathUnicode.Markup.CharClass
import MathUnicode.Markup.Command
import MathUnicode.Markup.Error
import MathUnicode.Markup.Formula
import MathUnicode.Markup.Outline
import MathUnicode.Markup.Parse
import MathUnicode.Markup.Descent
import MathUnicode.Render.Basic
import MathUnicode.Render.Warning
import MathUnicode.Style
import MathUnicode.Symbols
import MathUnicode.Tables.Basic
import MathUnicode.Tables.Build
import MathUnicode.Tables.Snapshot
import MathUnicode.Tables.Variant
import MathUnicode.Text.Hex
import MathUnicode.Text.Lines
import MathUnicode.Text.Quoted
import MathUnicode.Text.Typography
import MathUnicode.Unicode.Alphanumeric
import MathUnicode.Unicode.Printable
import MathUnicode.Unicode.RangeSet
import MathUnicode.Unicode.WhiteSpace
import MathUnicode.Proofs.VariantSelection
import MathUnicode.Main
import MathUnicode.Proofs.ReaderSound
import MathUnicode.Proofs.Grammar
import MathUnicode.Proofs.ReaderComplete
import MathUnicode.Proofs.Content
import MathUnicode.Proofs.RenderRun
import MathUnicode.Proofs.RenderSemantics
import MathUnicode.Proofs.RenderFailure
import MathUnicode.Proofs.UniqueReading
import MathUnicode.Proofs.Printing
import MathUnicode.Proofs.TableBuild
import MathUnicode.Proofs.FailureMark
import MathUnicode.Proofs.ByteTables
import MathUnicode.Proofs.ReaderState
import MathUnicode.Proofs.FaultPlaces
import MathUnicode.Proofs.Nesting
import MathUnicode.Proofs.CommandLine
import MathUnicode.Proofs.SubstitutionRuns
import MathUnicode.Proofs.StyleLaws
import MathUnicode.Proofs.Wrapping
import MathUnicode.Proofs.Descent
