import GraphQL.Cli.Arguments
import GraphQL.Cli.Help
import GraphQL.Cli.Run
import GraphQL.Cli.Target
import GraphQL.Data.Datum
import GraphQL.Data.Display
import GraphQL.Data.Equality
import GraphQL.Data.Naming
import GraphQL.Data.Record
import GraphQL.Diff.Close
import GraphQL.Diff.Script
import GraphQL.Diff.Unified
import GraphQL.Main
import GraphQL.Number.Binary64
import GraphQL.Number.Calendar
import GraphQL.Number.Decimal
import GraphQL.Number.Digit
import GraphQL.Number.Hex
import GraphQL.Number.Iso
import GraphQL.Number.Shortest
import GraphQL.Number.Uuid
import GraphQL.Number.Whole
import GraphQL.Request.Build
import GraphQL.Request.Collection
import GraphQL.Request.Construct
import GraphQL.Request.Enumeration
import GraphQL.Request.Fault
import GraphQL.Request.Json
import GraphQL.Request.Key
import GraphQL.Request.Layout
import GraphQL.Request.Literal
import GraphQL.Request.Node
import GraphQL.Request.Numeral
import GraphQL.Request.Part
import GraphQL.Request.Payload
import GraphQL.Request.Writing
import GraphQL.Request.Written
import GraphQL.Schema.Class
import GraphQL.Schema.Description
import GraphQL.Schema.FieldType
import GraphQL.Schema.Register
import GraphQL.Schema.Sdl
import GraphQL.Source.Document
import GraphQL.Source.Equivalence
import GraphQL.Source.Error
import GraphQL.Source.Lexer
import GraphQL.Source.Parser
import GraphQL.Source.Printer
import GraphQL.Source.Token
import GraphQL.Text.Alphanumeric
import GraphQL.Text.Block
import GraphQL.Text.Display
import GraphQL.Text.File
import GraphQL.Text.Identifier
import GraphQL.Text.Lines
import GraphQL.Text.Name
import GraphQL.Text.NormalForm
import GraphQL.Text.Printable
import GraphQL.Text.Quoted
import GraphQL.Text.Utf8
import GraphQL.Proofs.Outcome
import GraphQL.Proofs.Data.Keyed
import GraphQL.Proofs.Data.Record
import GraphQL.Proofs.Request.Literal
import GraphQL.Proofs.Request.Payload
import GraphQL.Proofs.Schema.Declaration
import GraphQL.Proofs.Schema.Description
import GraphQL.Proofs.Schema.Instance
import GraphQL.Proofs.Request.Alike
import GraphQL.Proofs.Request.WrittenAlike
import GraphQL.Proofs.Request.Equal
import GraphQL.Proofs.Schema.Nullability
import GraphQL.Proofs.Request.Json
import GraphQL.Proofs.Source.Lexing
import GraphQL.Proofs.Source.Spelling
import GraphQL.Proofs.Source.Parsing.TypeSystem
import GraphQL.Proofs.Text.Block
import GraphQL.Proofs.Text.Name
import GraphQL.Proofs.Source.Number
import GraphQL.Proofs.Text.Quoted
import GraphQL.Proofs.Request.Numeral
import GraphQL.Proofs.Request.Layout
import GraphQL.Proofs.Request.Mirror
import GraphQL.Proofs.Request.Mirrored
import GraphQL.Proofs.Request.Name
import GraphQL.Proofs.Request.Relayout
import GraphQL.Proofs.Request.Gate
import GraphQL.Proofs.Request.Spread
import GraphQL.Proofs.Request.Conversion
import GraphQL.Proofs.Schema.Sdl
import GraphQL.Proofs.Data.Within
import GraphQL.Proofs.Request.Apart
import GraphQL.Proofs.Request.Factory
import GraphQL.Proofs.Request.Built
import GraphQL.Proofs.Request.Repeat
import GraphQL.Proofs.Request.Distinct
import GraphQL.Proofs.Request.Sending
import GraphQL.Proofs.Request.Agreement
import GraphQL.Proofs.Request.Placement
import GraphQL.Proofs.Data.Sameness
import GraphQL.Proofs.Source.Equivalence
import GraphQL.Proofs.Schema.Order
import GraphQL.Proofs.Cli.Check
import GraphQL.Proofs.Request.Sorting
import GraphQL.Proofs.Request.Printed
import GraphQL.Proofs.Request.Lines
import GraphQL.Proofs.Source.Difference
import GraphQL.Proofs.Cli.Normalize
import GraphQL.Proofs.Request.Rational
import GraphQL.Proofs.Request.Constant
import GraphQL.Proofs.Schema.Marks
