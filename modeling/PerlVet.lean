import PerlVet.Architecture
import PerlVet.Checker
import PerlVet.CommandLine
import PerlVet.Config.Basic
import PerlVet.Config.Checked
import PerlVet.Config.Load
import PerlVet.Console
import PerlVet.Decimal.Nearest
import PerlVet.Decimal.Shortest
import PerlVet.Diagnostic.Basic
import PerlVet.Diagnostic.Checked
import PerlVet.Diagnostic.Document
import PerlVet.Diagnostic.Severity
import PerlVet.Failure
import PerlVet.Files.Basic
import PerlVet.Files.Program
import PerlVet.Glob
import PerlVet.Host
import PerlVet.IncludePath
import PerlVet.Inspector.Basic
import PerlVet.Inspector.Compilation
import PerlVet.Inspector.LineScan
import PerlVet.Issue
import PerlVet.Json.Reader
import PerlVet.Json.Writer
import PerlVet.Main
import PerlVet.Output.Line
import PerlVet.Output.Report
import PerlVet.Output.Restatement
import PerlVet.Output.Wording
import PerlVet.Path
import PerlVet.Pattern.Basic
import PerlVet.Pattern.Member
import PerlVet.Pattern.Parser
import PerlVet.Pattern.Search
import PerlVet.Pattern.Width
import PerlVet.Predicate.Basic
import PerlVet.Predicate.Import
import PerlVet.Predicate.Member
import PerlVet.Predicate.Module
import PerlVet.Predicate.Reference
import PerlVet.Process
import PerlVet.Proofs.Location
import PerlVet.Proofs.Text
import PerlVet.Session
import PerlVet.Shebang
import PerlVet.Shell.Arithmetic
import PerlVet.Shell.Basic
import PerlVet.Shell.Builtin
import PerlVet.Shell.Field
import PerlVet.Shell.Format
import PerlVet.Shell.Machine
import PerlVet.Shell.Parser
import PerlVet.Shell.Run
import PerlVet.Shell.Source
import PerlVet.Shell.Test
import PerlVet.SkipRules
import PerlVet.Text.Blank
import PerlVet.Text.Case
import PerlVet.Text.CharName
import PerlVet.Text.CharName.Alphabets
import PerlVet.Text.CharName.Ancient
import PerlVet.Text.CharName.Basic
import PerlVet.Text.CharName.EastAsian
import PerlVet.Text.CharName.Further
import PerlVet.Text.CharName.Pictures
import PerlVet.Text.CharName.Signs
import PerlVet.Text.CharName.Syllabaries
import PerlVet.Text.CharName.Symbols
import PerlVet.Text.Columns
import PerlVet.Text.Digit
import PerlVet.Text.Identifier
import PerlVet.Text.Integer
import PerlVet.Text.Letter
import PerlVet.Text.Lines
import PerlVet.Text.Printable
import PerlVet.Text.Quoted
import PerlVet.Text.Ranges
import PerlVet.Text.Utf8
import PerlVet.Text.Word
import PerlVet.Toml.Basic
import PerlVet.Toml.Parser
import PerlVet.Toml.Scalar
import PerlVet.Value
import PerlVet.Proofs.Rendering
import PerlVet.Proofs.Report
import PerlVet.Proofs.JsonRoundTrip
import PerlVet.Proofs.DiagnosticDocument
import PerlVet.Proofs.Lifecycle
import PerlVet.Proofs.Reconfiguration
import PerlVet.Proofs.History
import PerlVet.Proofs.Shape
import PerlVet.Proofs.Recency
import PerlVet.Proofs.SharedDirectories
import PerlVet.Proofs.Strays
import PerlVet.Proofs.Utf8
import PerlVet.Proofs.Resolution
import PerlVet.Proofs.TomlReading
import PerlVet.Proofs.ConfigFile
import PerlVet.Proofs.LineGrammar
import PerlVet.Proofs.Promotion
import PerlVet.Proofs.ControlSequences
import PerlVet.Proofs.LineNumbers
import PerlVet.Proofs.LogIndependence
import PerlVet.Proofs.RunOutcome
import PerlVet.Proofs.Variants
import PerlVet.Proofs.Restatements
import PerlVet.Proofs.Replacement
import PerlVet.Proofs.Traversal
import PerlVet.Proofs.FileLines
import PerlVet.Proofs.SearchOrder
import PerlVet.Proofs.TextDocument
import PerlVet.Proofs.References
import PerlVet.Proofs.ImportRoot
import PerlVet.Proofs.StartedProgram
import PerlVet.Proofs.Recovery
import PerlVet.Proofs.ProjectTop
import PerlVet.Proofs.UnknownKeys
import PerlVet.Proofs.PatternSearch
import PerlVet.Proofs.InterpreterLine
import PerlVet.Proofs.RuleForms
import PerlVet.Proofs.ModulePath
import PerlVet.Proofs.Override
import PerlVet.Proofs.GlobScope
import PerlVet.Proofs.FatalWording
