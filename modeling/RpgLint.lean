import RpgLint.Check.Codec
import RpgLint.Check.Columns
import RpgLint.Check.Continuation
import RpgLint.Check.Definition
import RpgLint.Check.FreeForm
import RpgLint.Check.Issue
import RpgLint.Check.Legacy
import RpgLint.Check.Length
import RpgLint.Check.Level
import RpgLint.Check.Names
import RpgLint.Check.Order
import RpgLint.Check.Pass
import RpgLint.Check.Statement
import RpgLint.Cli.Arguments
import RpgLint.Cli.Grammar
import RpgLint.Command.Basic
import RpgLint.Command.Check
import RpgLint.Command.Grammar
import RpgLint.Command.Run
import RpgLint.Command.Sources
import RpgLint.Config.Basic
import RpgLint.Config.Codec
import RpgLint.Failure
import RpgLint.Json.Basic
import RpgLint.Json.Printer
import RpgLint.Json.Reader
import RpgLint.Json.Record
import RpgLint.Line.Basic
import RpgLint.Line.Bytes
import RpgLint.Line.Directive
import RpgLint.Line.Field
import RpgLint.Line.Content
import RpgLint.Line.Opcode
import RpgLint.Line.Span
import RpgLint.Line.SpecType
import RpgLint.Line.Statistics
import RpgLint.Machine.Host
import RpgLint.Machine.Tree
import RpgLint.Main
import RpgLint.Pattern.Automaton
import RpgLint.Pattern.Basic
import RpgLint.Pattern.Bracket
import RpgLint.Pattern.CaseFolding
import RpgLint.Pattern.CharSet
import RpgLint.Pattern.Encoding
import RpgLint.Pattern.Escape
import RpgLint.Pattern.Flags
import RpgLint.Pattern.Footprint
import RpgLint.Pattern.GroupName
import RpgLint.Pattern.Reader
import RpgLint.Pattern.WordCharacter
import RpgLint.Proofs.Report.Monotone
import RpgLint.Proofs.Report.Sorting
import RpgLint.Render.Terminal
import RpgLint.Render.Format
import RpgLint.Render.Json
import RpgLint.Render.Markdown
import RpgLint.Render.Text
import RpgLint.Report.Basic
import RpgLint.Report.Check
import RpgLint.Rule.Action
import RpgLint.Rule.Basic
import RpgLint.Rule.Change
import RpgLint.Rule.Codec
import RpgLint.Rule.Compiled
import RpgLint.Rule.Store
import RpgLint.Source.Filter
import RpgLint.Source.Glob
import RpgLint.Source.GlobReader
import RpgLint.Source.Path
import RpgLint.Text.Characters
import RpgLint.Text.DoubleByte
import RpgLint.Text.Letters
import RpgLint.Text.Utf8
import RpgLint.Toml.Basic
import RpgLint.Toml.Reader
import RpgLint.Toml.Scalar
import RpgLint.Proofs.Check.MainSection
import RpgLint.Proofs.Check.Order
import RpgLint.Proofs.Json.Record
import RpgLint.Proofs.Json.RoundTrip
import RpgLint.Proofs.Rule.Codec
import RpgLint.Proofs.Rule.History
import RpgLint.Proofs.Rule.WriteThrough
import RpgLint.Proofs.Rule.Identity
import RpgLint.Proofs.Check.Codec
import RpgLint.Proofs.Check.LateDefinition
import RpgLint.Proofs.Check.CodeArea
import RpgLint.Proofs.Check.ProcedureBody
import RpgLint.Proofs.Check.CommentArea
import RpgLint.Proofs.Report.CommentArea
import RpgLint.Proofs.Report.Disabling
import RpgLint.Proofs.Report.Totals
import RpgLint.Proofs.Check.Findings
import RpgLint.Proofs.Check.RuleNames
import RpgLint.Proofs.Report.Scopes
import RpgLint.Proofs.Report.Comments
import RpgLint.Proofs.Line.Classification
import RpgLint.Proofs.Line.Directives
import RpgLint.Proofs.Report.Places
import RpgLint.Proofs.Report.Specifications
import RpgLint.Proofs.Report.Unreachable
import RpgLint.Proofs.Line.Statistics
import RpgLint.Proofs.Check.Realigned
import RpgLint.Proofs.Check.SizeCorrection
import RpgLint.Proofs.Check.ContinuedNames
import RpgLint.Proofs.Check.SpacingCorrection
import RpgLint.Proofs.Line.Continuation
import RpgLint.Proofs.Check.Statements
import RpgLint.Proofs.Check.InterleavedComments
import RpgLint.Proofs.Check.SeveralStatements
import RpgLint.Proofs.Check.FreeDirectives
import RpgLint.Proofs.Check.FreeBlocks
import RpgLint.Proofs.Check.RulesOnce
import RpgLint.Proofs.Rule.Merge
import RpgLint.Proofs.Text.DoubleByte
import RpgLint.Proofs.Check.LineLength
import RpgLint.Proofs.Check.Indicators
import RpgLint.Proofs.Check.ProcedureNames
import RpgLint.Proofs.Rule.Compilable
import RpgLint.Proofs.Check.Literals
import RpgLint.Proofs.Check.DeprecatedCodes
import RpgLint.Proofs.Line.StoredColumns
