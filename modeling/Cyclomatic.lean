import Cyclomatic.Analysis
import Cyclomatic.Calendar
import Cyclomatic.CommandLine.Arguments
import Cyclomatic.CommandLine.Grammar
import Cyclomatic.CommandLine.Session
import Cyclomatic.DecisionTable
import Cyclomatic.Discovery
import Cyclomatic.Fault
import Cyclomatic.FileTree
import Cyclomatic.FileTree.Content
import Cyclomatic.Glob
import Cyclomatic.Json.Reader
import Cyclomatic.Json.Writer
import Cyclomatic.Language
import Cyclomatic.Language.Detection
import Cyclomatic.Ledger
import Cyclomatic.Lexicon
import Cyclomatic.Lexicon.Lexeme
import Cyclomatic.LineSet
import Cyclomatic.Log
import Cyclomatic.Main
import Cyclomatic.Number
import Cyclomatic.Number.Binary64
import Cyclomatic.Number.Decimal
import Cyclomatic.Number.Literal
import Cyclomatic.ParameterList
import Cyclomatic.Path
import Cyclomatic.Proofs.Alike
import Cyclomatic.Proofs.Analysis
import Cyclomatic.Proofs.BlankLine
import Cyclomatic.Proofs.Braces
import Cyclomatic.Proofs.Brackets
import Cyclomatic.Proofs.CarriageReturn
import Cyclomatic.Proofs.Closings
import Cyclomatic.Proofs.CodeLines
import Cyclomatic.Proofs.Colours
import Cyclomatic.Proofs.ColumnOrder
import Cyclomatic.Proofs.CommentText
import Cyclomatic.Proofs.Concatenation
import Cyclomatic.Proofs.Concatenation.Following
import Cyclomatic.Proofs.Concatenation.Indent
import Cyclomatic.Proofs.Conditional
import Cyclomatic.Proofs.Correspondence
import Cyclomatic.Proofs.DecisionBalance
import Cyclomatic.Proofs.Declaration
import Cyclomatic.Proofs.Discovery
import Cyclomatic.Proofs.FileTree
import Cyclomatic.Proofs.Forest
import Cyclomatic.Proofs.GoFunctions
import Cyclomatic.Proofs.Indentation
import Cyclomatic.Proofs.LastLine
import Cyclomatic.Proofs.Ledger.History
import Cyclomatic.Proofs.Ledger.Lowered
import Cyclomatic.Proofs.Ledger.Moved
import Cyclomatic.Proofs.Ledger.Outline
import Cyclomatic.Proofs.Ledger.Reading
import Cyclomatic.Proofs.Ledger.Row
import Cyclomatic.Proofs.Lexicon.BlankLine
import Cyclomatic.Proofs.Lexicon.CarriageReturn
import Cyclomatic.Proofs.Lexicon.CommentText
import Cyclomatic.Proofs.Lexicon.Lines
import Cyclomatic.Proofs.Lexicon.Literal
import Cyclomatic.Proofs.Lexicon.Lookahead
import Cyclomatic.Proofs.Lexicon.OneLine
import Cyclomatic.Proofs.Lexicon.Operators
import Cyclomatic.Proofs.Lexicon.Places
import Cyclomatic.Proofs.Lexicon.Spelling
import Cyclomatic.Proofs.Lexicon.Touched
import Cyclomatic.Proofs.Limit
import Cyclomatic.Proofs.LineSynchrony
import Cyclomatic.Proofs.LogicalLines
import Cyclomatic.Proofs.MatchingBraces
import Cyclomatic.Proofs.Measured
import Cyclomatic.Proofs.Merge
import Cyclomatic.Proofs.Nesting
import Cyclomatic.Proofs.OpenBrackets
import Cyclomatic.Proofs.OpenBrackets.Indent
import Cyclomatic.Proofs.Page
import Cyclomatic.Proofs.ParameterList
import Cyclomatic.Proofs.Path
import Cyclomatic.Proofs.Path.Below
import Cyclomatic.Proofs.Pool
import Cyclomatic.Proofs.Recognizer.Alike
import Cyclomatic.Proofs.Recognizer.Colon
import Cyclomatic.Proofs.Recognizer.Endings
import Cyclomatic.Proofs.Recognizer.Go
import Cyclomatic.Proofs.Recognizer.GoHeading
import Cyclomatic.Proofs.Recognizer.GoSignature
import Cyclomatic.Proofs.Recognizer.Header
import Cyclomatic.Proofs.Recognizer.HiddenBrackets
import Cyclomatic.Proofs.Recognizer.Indent
import Cyclomatic.Proofs.Recognizer.Lowered
import Cyclomatic.Proofs.Recognizer.Moved
import Cyclomatic.Proofs.Recognizer.Openings
import Cyclomatic.Proofs.Recognizer.OutermostGroup
import Cyclomatic.Proofs.Recognizer.Pass
import Cyclomatic.Proofs.Recognizer.PassMoved
import Cyclomatic.Proofs.Recognizer.Refusal
import Cyclomatic.Proofs.Recognizer.Script
import Cyclomatic.Proofs.Recognizer.ScriptCorrespondence
import Cyclomatic.Proofs.Recognizer.ScriptEnding
import Cyclomatic.Proofs.Recognizer.ScriptMoved
import Cyclomatic.Proofs.Recognizer.ScriptOutline
import Cyclomatic.Proofs.Recognizer.ScriptPass
import Cyclomatic.Proofs.Recognizer.ScriptReturnType
import Cyclomatic.Proofs.Recognizer.Snapshot
import Cyclomatic.Proofs.Report
import Cyclomatic.Proofs.ReturnType
import Cyclomatic.Proofs.Scan
import Cyclomatic.Proofs.Schedule
import Cyclomatic.Proofs.ScopeStack
import Cyclomatic.Proofs.Score
import Cyclomatic.Proofs.Selection
import Cyclomatic.Proofs.Settings
import Cyclomatic.Proofs.StatementEnding
import Cyclomatic.Proofs.StringLiteral
import Cyclomatic.Proofs.Survey
import Cyclomatic.Proofs.Survey.Decisions
import Cyclomatic.Proofs.Survey.Order
import Cyclomatic.Proofs.Token
import Cyclomatic.Proofs.TokenCredit
import Cyclomatic.Proofs.Value
import Cyclomatic.Proofs.Value.Unlinking
import Cyclomatic.Recognizer
import Cyclomatic.Recognizer.Braces
import Cyclomatic.Recognizer.Go
import Cyclomatic.Recognizer.Indent
import Cyclomatic.Recognizer.Script
import Cyclomatic.Report
import Cyclomatic.Report.Format
import Cyclomatic.Report.Page
import Cyclomatic.Report.Record
import Cyclomatic.Scalar
import Cyclomatic.Scale
import Cyclomatic.Scan
import Cyclomatic.Score
import Cyclomatic.Settings
import Cyclomatic.Settings.File
import Cyclomatic.Text.Base64
import Cyclomatic.Text.CaseContextTable
import Cyclomatic.Text.CaseTable
import Cyclomatic.Text.CharClass
import Cyclomatic.Text.Layout
import Cyclomatic.Text.LetterTable
import Cyclomatic.Text.LowerCase
import Cyclomatic.Text.NumeralTable
import Cyclomatic.Text.PrintableTable
import Cyclomatic.Text.Quoted
import Cyclomatic.Text.Ranges
import Cyclomatic.Text.Utf8
import Cyclomatic.Token
import Cyclomatic.Value
import Cyclomatic.Value.Arithmetic
import Cyclomatic.Value.Mapping
import Cyclomatic.Web
import Cyclomatic.Yaml.Block
import Cyclomatic.Yaml.Cursor
import Cyclomatic.Yaml.Document
import Cyclomatic.Yaml.Feed
import Cyclomatic.Yaml.Label
import Cyclomatic.Yaml.Meaning
import Cyclomatic.Yaml.Node
import Cyclomatic.Yaml.Plain
import Cyclomatic.Yaml.Problem
import Cyclomatic.Yaml.Quotation
import Cyclomatic.Yaml.Reader
import Cyclomatic.Yaml.Symbol
import Cyclomatic.Yaml.Tag
import Cyclomatic.Yaml.Writer
