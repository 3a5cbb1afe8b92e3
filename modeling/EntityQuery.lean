import EntityQuery.Alias
import EntityQuery.Calendar.Date
import EntityQuery.Calendar.Fields
import EntityQuery.Calendar.Pattern
import EntityQuery.Calendar.Reader
import EntityQuery.Calendar.Time
import EntityQuery.Call.Name
import EntityQuery.Call.Operator
import EntityQuery.Call.Plan
import EntityQuery.Clause
import EntityQuery.Coercion
import EntityQuery.Config
import EntityQuery.Derive.Attribute
import EntityQuery.Derive.CallText
import EntityQuery.Derive.Comment
import EntityQuery.Derive.Evaluation
import EntityQuery.Derive.Expansion
import EntityQuery.Derive.Fault
import EntityQuery.Derive.Generics
import EntityQuery.Derive.Item
import EntityQuery.Derive.Literal
import EntityQuery.Derive.Token
import EntityQuery.Derive.TypeText
import EntityQuery.Error
import EntityQuery.Expr
import EntityQuery.Expr.Text
import EntityQuery.FieldType
import EntityQuery.Ident
import EntityQuery.Json
import EntityQuery.Json.Number
import EntityQuery.Json.Printer
import EntityQuery.Json.Reader
import EntityQuery.Keyed
import EntityQuery.Metadata
import EntityQuery.Numeric.Binary64
import EntityQuery.Numeric.Binary64.Text
import EntityQuery.Numeric.BinaryFormat
import EntityQuery.Numeric.Decimal96
import EntityQuery.Numeric.Decimal96.Binary
import EntityQuery.Numeric.Decimal96.Text
import EntityQuery.Numeric.Integer
import EntityQuery.Numeric.Shortest
import EntityQuery.Parameters
import EntityQuery.Proofs.Call.Effect
import EntityQuery.Proofs.Call.Grammar
import EntityQuery.Proofs.Call.Predicate
import EntityQuery.Proofs.Call.Spelling
import EntityQuery.Proofs.Call.Steps
import EntityQuery.Proofs.Coercion.Integer
import EntityQuery.Proofs.Coercion.Members
import EntityQuery.Proofs.Coercion.Temporal
import EntityQuery.Proofs.Derive.Acceptance
import EntityQuery.Proofs.Derive.Agreement
import EntityQuery.Proofs.Derive.DefaultColumn
import EntityQuery.Proofs.Derive.Splitting
import EntityQuery.Proofs.Expr.Placeholders
import EntityQuery.Proofs.Expr.Precedence
import EntityQuery.Proofs.Expr.Reading
import EntityQuery.Proofs.Ident.Grammar
import EntityQuery.Proofs.Ident.Rendering
import EntityQuery.Proofs.Paginator
import EntityQuery.Proofs.Parameters.Freshness
import EntityQuery.Proofs.Parameters.Lookup
import EntityQuery.Proofs.Parameters.Search
import EntityQuery.Proofs.Record
import EntityQuery.Proofs.Registry
import EntityQuery.Proofs.Session.Alias
import EntityQuery.Proofs.Session.Attachment
import EntityQuery.Proofs.Session.Clause
import EntityQuery.Proofs.Session.Collected
import EntityQuery.Proofs.Session.Count
import EntityQuery.Proofs.Session.Failure
import EntityQuery.Proofs.Session.FirstUse
import EntityQuery.Proofs.Session.Join
import EntityQuery.Proofs.Session.Membership
import EntityQuery.Proofs.Session.Mutation
import EntityQuery.Proofs.Session.Naming
import EntityQuery.Proofs.Session.OneAlias
import EntityQuery.Proofs.Session.Page
import EntityQuery.Proofs.Session.Shape
import EntityQuery.Proofs.Sql.AliasReference
import EntityQuery.Proofs.Sql.Copying
import EntityQuery.Proofs.Sql.Qualified
import EntityQuery.Proofs.Sql.Substitution
import EntityQuery.Proofs.Wire.Array
import EntityQuery.Record
import EntityQuery.Registry
import EntityQuery.Repository
import EntityQuery.Session
import EntityQuery.Session.Build
import EntityQuery.Session.Fetch
import EntityQuery.Session.Text
import EntityQuery.Sql.Segment
import EntityQuery.Sql.Writer
import EntityQuery.Text.Basic
import EntityQuery.Text.Hex
import EntityQuery.Text.Letters
import EntityQuery.Text.Letters.Alphanumeric
import EntityQuery.Text.Letters.Case
import EntityQuery.Text.Words
import EntityQuery.Uuid
import EntityQuery.Value
import EntityQuery.Value.Kind
import EntityQuery.Wire.Bytes
import EntityQuery.Wire.Cell
import EntityQuery.Wire.ColumnType
import EntityQuery.Wire.Connection
import EntityQuery.Wire.Groups
import EntityQuery.Wire.Instant
import EntityQuery.Wire.Parameter
