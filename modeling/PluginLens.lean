import PluginLens.Text.Source
import PluginLens.Text.PathText
import PluginLens.Json.Value
import PluginLens.Decimal.Rounding
import PluginLens.Decimal.Shortest
import PluginLens.Text.Printable
import PluginLens.Text.Quoted
import PluginLens.Json.Print
import PluginLens.Json.Read
import PluginLens.Syntax.Lexer
import PluginLens.Syntax.Semicolon
import PluginLens.Syntax.Node
import PluginLens.Syntax.Reader
import PluginLens.Syntax.Context
import PluginLens.Syntax.Literal
import PluginLens.Syntax.Markup
import PluginLens.Syntax.Pattern
import PluginLens.Syntax.Expression
import PluginLens.Syntax.Statement
import PluginLens.Syntax.Reading
import PluginLens.Syntax.Recovery
import PluginLens.Syntax.Tree
import PluginLens.Syntax.Dialect
import PluginLens.Inspection.Error
import PluginLens.Decimal.Read
import PluginLens.Syntax.Value
import PluginLens.Plugin.MemberPath
import PluginLens.Plugin.Declaration
import PluginLens.Plugin.Export
import PluginLens.Plugin.Capability
import PluginLens.Plugin.Binding
import PluginLens.Docs.Block
import PluginLens.Docs.Target
import PluginLens.Docs.Doclet
import PluginLens.Report.Basic
import PluginLens.Report.Render
import PluginLens.Docs.Extractor
import PluginLens.Docs.Command
import PluginLens.Inspection.Inspector
import PluginLens.Toml.Basic
import PluginLens.Toml.Reader
import PluginLens.Settings.Basic
import PluginLens.Settings.Decode
import PluginLens.Workspace.Basic
import PluginLens.Workspace.Scan
import PluginLens.Settings.File
import PluginLens.Command.Outcome
import PluginLens.Command.ByteStr
import PluginLens.Command.Paths
import PluginLens.Command.Numeral
import PluginLens.Command.Script.Syntax
import PluginLens.Command.Script.Parse
import PluginLens.Command.Script.Pattern
import PluginLens.Command.Script.Arith
import PluginLens.Command.Format
import PluginLens.Command.Test
import PluginLens.Command.Utility.Options
import PluginLens.Command.Utility.Basic
import PluginLens.Command.Utility.Files
import PluginLens.Command.Utility.Translate
import PluginLens.Command.Utility.Simple
import PluginLens.Command.Utility.Regex
import PluginLens.Command.Utility.Expr
import PluginLens.Command.Utility.Catalog
import PluginLens.Command.Script.State
import PluginLens.Command.Script.Expand
import PluginLens.Command.Script.Builtins
import PluginLens.Command.Script.Run
import PluginLens.Command.Programs
import PluginLens.Docs.External
import PluginLens.Inspection.Setup
import PluginLens.Service.Request
import PluginLens.Service.Session
import PluginLens.Cli.LogFilter
import PluginLens.Cli.Arguments
import PluginLens.Cli.Run
import PluginLens.Main
import PluginLens.Proofs.Inspection
import PluginLens.Proofs.Offsets
import PluginLens.Proofs.Binding
import PluginLens.Proofs.Spans
import PluginLens.Proofs.Dialect
import PluginLens.Proofs.Session
import PluginLens.Proofs.Position
import PluginLens.Proofs.Exports
import PluginLens.Proofs.TargetSearch
import PluginLens.Proofs.DocTargets
import PluginLens.Proofs.PropertyDocs
import PluginLens.Proofs.Extraction
import PluginLens.Proofs.KeyNames
import PluginLens.Proofs.ExportDocs
import PluginLens.Proofs.StringValues
import PluginLens.Proofs.TagTypes
import PluginLens.Proofs.PluginScan
import PluginLens.Proofs.Comments
