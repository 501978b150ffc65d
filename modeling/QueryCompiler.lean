import QueryCompiler.Cell.Binary
import QueryCompiler.Cell.Decoder
import QueryCompiler.Cell.Row
import QueryCompiler.Cell.Value
import QueryCompiler.Code.Accessor
import QueryCompiler.Code.Module
import QueryCompiler.Code.Quoted
import QueryCompiler.Code.Record
import QueryCompiler.Code.Writer
import QueryCompiler.Command.Help
import QueryCompiler.Command.Line
import QueryCompiler.Command.Run
import QueryCompiler.Compile.Files
import QueryCompiler.Compile.Source
import QueryCompiler.Config.Document
import QueryCompiler.Config.Quoted
import QueryCompiler.Config.Scalar
import QueryCompiler.Config.Settings
import QueryCompiler.Config.Template
import QueryCompiler.Config.Value
import QueryCompiler.Derive.Entity
import QueryCompiler.Derive.Spacing
import QueryCompiler.Files.Path
import QueryCompiler.Files.Store
import QueryCompiler.Files.Tree
import QueryCompiler.Host.Expr
import QueryCompiler.Host.Grammar.Basic
import QueryCompiler.Host.Grammar.Expr
import QueryCompiler.Host.Grammar.Item
import QueryCompiler.Host.Grammar.Pattern
import QueryCompiler.Host.Grammar.Type
import QueryCompiler.Host.Item
import QueryCompiler.Host.Lexeme
import QueryCompiler.Host.Literal.Basic
import QueryCompiler.Host.Literal.Number
import QueryCompiler.Host.Literal.Quoted
import QueryCompiler.Host.Literal.Scan
import QueryCompiler.Host.Parse
import QueryCompiler.Host.Reader
import QueryCompiler.Host.Token
import QueryCompiler.Main
import QueryCompiler.Proofs.BackslashEscapes
import QueryCompiler.Proofs.BuilderRuns
import QueryCompiler.Proofs.CallOrder
import QueryCompiler.Proofs.Clauses
import QueryCompiler.Proofs.CodeText
import QueryCompiler.Proofs.CommentLines
import QueryCompiler.Proofs.CompiledPrefix
import QueryCompiler.Proofs.Conjunction
import QueryCompiler.Proofs.DeclaredColumns
import QueryCompiler.Proofs.DeriveUnion
import QueryCompiler.Proofs.DerivedEntities
import QueryCompiler.Proofs.Directories
import QueryCompiler.Proofs.Draft
import QueryCompiler.Proofs.Expansion
import QueryCompiler.Proofs.FileTree
import QueryCompiler.Proofs.FilterColumns
import QueryCompiler.Proofs.Gathering
import QueryCompiler.Proofs.GeneratedCode
import QueryCompiler.Proofs.Indentation
import QueryCompiler.Proofs.InputKept
import QueryCompiler.Proofs.ItemOrder
import QueryCompiler.Proofs.LiteralValues
import QueryCompiler.Proofs.Module
import QueryCompiler.Proofs.NameClashes
import QueryCompiler.Proofs.NumberLiterals
import QueryCompiler.Proofs.Parentheses
import QueryCompiler.Proofs.Parts
import QueryCompiler.Proofs.Placeholders
import QueryCompiler.Proofs.Places
import QueryCompiler.Proofs.Policies
import QueryCompiler.Proofs.Precedence
import QueryCompiler.Proofs.QuotedLiterals
import QueryCompiler.Proofs.QuotedText
import QueryCompiler.Proofs.ReadBack
import QueryCompiler.Proofs.RenderedLists
import QueryCompiler.Proofs.Report
import QueryCompiler.Proofs.RowMapping
import QueryCompiler.Proofs.RuntimeNames
import QueryCompiler.Proofs.Scope
import QueryCompiler.Proofs.Spelling
import QueryCompiler.Proofs.Sublanguage
import QueryCompiler.Proofs.TagGrammar
import QueryCompiler.Proofs.WellFormed
import QueryCompiler.Proofs.WholeNumbers
import QueryCompiler.Query.Call
import QueryCompiler.Query.Declared
import QueryCompiler.Query.Draft
import QueryCompiler.Query.Error
import QueryCompiler.Query.Module
import QueryCompiler.Query.Operation
import QueryCompiler.Query.Report
import QueryCompiler.Query.Scope
import QueryCompiler.Schema.Table
import QueryCompiler.Schema.Tag
import QueryCompiler.Sql.Builder
import QueryCompiler.Sql.Dialect
import QueryCompiler.Sql.Expr
import QueryCompiler.Sql.Literal
import QueryCompiler.Sql.Statement
import QueryCompiler.Sql.Token
import QueryCompiler.Text.Alphanumeric
import QueryCompiler.Text.Class
import QueryCompiler.Text.Decimal
import QueryCompiler.Text.Hex
import QueryCompiler.Text.IdentContinue
import QueryCompiler.Text.IdentStart
import QueryCompiler.Text.Lowercase
import QueryCompiler.Text.Position
import QueryCompiler.Text.Ranges
import QueryCompiler.Text.Snake
import QueryCompiler.Text.Split
import QueryCompiler.Text.Word
