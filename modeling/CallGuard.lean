import CallGuard.Analyzer.Basic
import CallGuard.Analyzer.Discovery
import CallGuard.Analyzer.Listeners
import CallGuard.Analyzer.Run
import CallGuard.Analyzer.Scan
import CallGuard.CallSite
import CallGuard.CommandLine.Arguments
import CallGuard.CommandLine.Check
import CallGuard.CommandLine.Configuration
import CallGuard.CommandLine.ListGroups
import CallGuard.CommandLine.Outcome
import CallGuard.CommandLine.Reads
import CallGuard.CommandLine.Request
import CallGuard.CommandLine.Run
import CallGuard.CommandLine.Starter
import CallGuard.Exclusion
import CallGuard.FileTree
import CallGuard.Finding.Basic
import CallGuard.Finding.Json
import CallGuard.Finding.Order
import CallGuard.Glob
import CallGuard.Group
import CallGuard.GroupSet
import CallGuard.GroupSet.Toml
import CallGuard.Guard
import CallGuard.Ignore.Line
import CallGuard.Ignore.Pattern
import CallGuard.Ignore.Tree
import CallGuard.Json.Basic
import CallGuard.Json.Printer
import CallGuard.Json.Reader
import CallGuard.Main
import CallGuard.NamePattern.Basic
import CallGuard.NamePattern.Matching
import CallGuard.Path
import CallGuard.Php.Declaration
import CallGuard.Php.Expression
import CallGuard.Php.Extent
import CallGuard.Php.Goal
import CallGuard.Php.Grammar
import CallGuard.Php.Leaf
import CallGuard.Php.Lexeme
import CallGuard.Php.Lexer
import CallGuard.Php.Shell
import CallGuard.Php.Sign
import CallGuard.Php.Statement
import CallGuard.Php.Tokenizer
import CallGuard.Php.Type
import CallGuard.PlainText
import CallGuard.Preset
import CallGuard.Proofs.Analyzer.Coverage
import CallGuard.Proofs.Analyzer.Discovery
import CallGuard.Proofs.Analyzer.Dispatch
import CallGuard.Proofs.Analyzer.Failures
import CallGuard.Proofs.Analyzer.Independence
import CallGuard.Proofs.Analyzer.Places
import CallGuard.Proofs.Analyzer.Relocation
import CallGuard.Proofs.Analyzer.ReportedPaths
import CallGuard.Proofs.Analyzer.Run
import CallGuard.Proofs.Analyzer.Sorting
import CallGuard.Proofs.CallSite.Lookback
import CallGuard.Proofs.CommandLine.Selection
import CallGuard.Proofs.Exclusion.Reading
import CallGuard.Proofs.FileTree.Contents
import CallGuard.Proofs.Finding.Json
import CallGuard.Proofs.Finding.Order
import CallGuard.Proofs.Glob.Folders
import CallGuard.Proofs.Glob.Reach
import CallGuard.Proofs.Group.Covering
import CallGuard.Proofs.Group.Identifiers
import CallGuard.Proofs.GroupSet.Loading
import CallGuard.Proofs.GroupSet.Merging
import CallGuard.Proofs.GroupSet.OrderedMap
import CallGuard.Proofs.GroupSet.Resolution
import CallGuard.Proofs.Guard.Batches
import CallGuard.Proofs.Guard.Case
import CallGuard.Proofs.Guard.Context
import CallGuard.Proofs.Guard.Exclusions
import CallGuard.Proofs.Guard.Findings
import CallGuard.Proofs.Guard.Literals
import CallGuard.Proofs.Guard.Locality
import CallGuard.Proofs.Guard.Pass
import CallGuard.Proofs.Guard.Preparation
import CallGuard.Proofs.Guard.Trivia
import CallGuard.Proofs.Ignore.Agreement
import CallGuard.Proofs.Ignore.Relocation
import CallGuard.Proofs.Json.Objects
import CallGuard.Proofs.NamePattern.Case
import CallGuard.Proofs.NamePattern.Occurrence
import CallGuard.Proofs.NamePattern.Search
import CallGuard.Proofs.NamePattern.Segments
import CallGuard.Proofs.Path.Below
import CallGuard.Proofs.Path.Components
import CallGuard.Proofs.Php.Emission
import CallGuard.Proofs.Regex.Grammar
import CallGuard.Proofs.Regex.Meaning
import CallGuard.Proofs.Regex.WrittenForm
import CallGuard.Proofs.Settings.Defaults
import CallGuard.Proofs.Template.Pieces
import CallGuard.Proofs.Text.Bytes
import CallGuard.Proofs.Text.Case
import CallGuard.Proofs.Text.Cutting
import CallGuard.Proofs.Text.Folding
import CallGuard.Proofs.Toml.Keys
import CallGuard.Report
import CallGuard.Rule
import CallGuard.Settings.Basic
import CallGuard.Settings.Toml
import CallGuard.Severity
import CallGuard.Template
import CallGuard.Text.Basic
import CallGuard.Text.CaseRun
import CallGuard.Text.Fold
import CallGuard.Text.Lowercase
import CallGuard.Text.Marks
import CallGuard.Text.Quoted
import CallGuard.Text.Utf8
import CallGuard.Text.Word
import CallGuard.Token
import CallGuard.Tokenizer
import CallGuard.Toml.Document
import CallGuard.Toml.Float
import CallGuard.Toml.Scalar
import CallGuard.Toml.Shape
import CallGuard.Toml.Table
import CallGuard.Toml.Value
