import RowFilter.Bounds
import RowFilter.Text.Basic
import RowFilter.Text.Blank
import RowFilter.Text.Decimal
import RowFilter.Text.Quoted
import RowFilter.Trie
import RowFilter.Keywords
import RowFilter.Token
import RowFilter.Token.Scan
import RowFilter.Token.Draw
import RowFilter.Operator
import RowFilter.ValueType
import RowFilter.Date
import RowFilter.Date.Pattern
import RowFilter.Date.Reading
import RowFilter.Fields
import RowFilter.Schema
import RowFilter.Rejection
import RowFilter.Expr
import RowFilter.Expr.Checked
import RowFilter.Expr.Unfinished
import RowFilter.Compiler
import RowFilter.Sql.Value
import RowFilter.Sql.Statement
import RowFilter.Expr.Sql
import RowFilter.Query
import RowFilter.Json.Text
import RowFilter.Json.Document
import RowFilter.Binary64.Basic
import RowFilter.Binary64.Shortest
import RowFilter.Json.Numeral
import RowFilter.Json.Token
import RowFilter.Config
import RowFilter.Config.Json
import RowFilter.Command
import RowFilter.CommandLine.Scan
import RowFilter.CommandLine.Numeral
import RowFilter.CommandLine.Files
import RowFilter.CommandLine.Arguments
import RowFilter.CommandLine.Run
import RowFilter.Main
import RowFilter.Proofs.Computations
import RowFilter.Proofs.Grammar
import RowFilter.Proofs.Grammar.Operands
import RowFilter.Proofs.Grammar.Soundness
import RowFilter.Proofs.Grammar.Parse
import RowFilter.Proofs.Grammar.Typed
import RowFilter.Proofs.Relabel
import RowFilter.Proofs.LiteralIndependence
import RowFilter.Proofs.LayoutIndependence
import RowFilter.Proofs.Sql.Pieces
import RowFilter.Proofs.Sql.Placeholders
import RowFilter.Proofs.Sql.Phrase
import RowFilter.Proofs.Sql.Grouping
import RowFilter.Proofs.Sql.Shelter
import RowFilter.Proofs.Sql.Settings
import RowFilter.Proofs.Sql.Renumber
import RowFilter.Proofs.Sql.Identifiers
import RowFilter.Proofs.Keywords
import RowFilter.Proofs.Lexing.Runs
import RowFilter.Proofs.Lexing.Scan
import RowFilter.Proofs.Nesting
import RowFilter.Proofs.Lexing.Layout
import RowFilter.Proofs.Lexing.Continued
import RowFilter.Proofs.Lexing.Spacing
import RowFilter.Proofs.Lexing.Source
import RowFilter.Proofs.Lexing.Drawn
import RowFilter.Proofs.Lexing.Account
import RowFilter.Proofs.Lexing.Lossless
import RowFilter.Proofs.Lexing.Separators
import RowFilter.Proofs.Limits
import RowFilter.Proofs.FieldIndependence
import RowFilter.Proofs.Rejections
import RowFilter.Proofs.Finality
import RowFilter.Proofs.Impasses
import RowFilter.Proofs.CommandAgreement
import RowFilter.Proofs.Provenance
import RowFilter.Proofs.Written
import RowFilter.Proofs.Written.Names
import RowFilter.Proofs.Written.ReadBack
import RowFilter.Proofs.Date.Text
import RowFilter.Proofs.Date.ReadBack
import RowFilter.Proofs.Insertions
import RowFilter.Proofs.Nodes
import RowFilter.Proofs.Text.Quoted
import RowFilter.Proofs.TypeNames
import RowFilter.Proofs.Report
import RowFilter.Proofs.Json.Text
import RowFilter.Proofs.Json.Token
import RowFilter.Proofs.Json.Document
import RowFilter.Proofs.Json.Value
import RowFilter.Proofs.Config.Reading
import RowFilter.Proofs.Config.Members
import RowFilter.Proofs.Config.Normal
