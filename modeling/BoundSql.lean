import BoundSql.Argument.Codec
import BoundSql.Argument.Tag
import BoundSql.Calendar.Date
import BoundSql.Calendar.DateTime
import BoundSql.Calendar.Duration
import BoundSql.Condition.Basic
import BoundSql.Condition.Expression
import BoundSql.Condition.Slice
import BoundSql.Condition.Token
import BoundSql.Connection.Engine
import BoundSql.Connection.Settings
import BoundSql.Connection.Url
import BoundSql.Entries
import BoundSql.Error
import BoundSql.Keyword
import BoundSql.Log
import BoundSql.Model.Basic
import BoundSql.Model.Conversion
import BoundSql.Model.FieldType
import BoundSql.Model.Instance
import BoundSql.Model.Registry
import BoundSql.Model.Schema
import BoundSql.Number.Binary64
import BoundSql.Number.Decimal
import BoundSql.Number.Fault
import BoundSql.Number.Literal
import BoundSql.Number.Shortest
import BoundSql.Number.Uuid
import BoundSql.Proofs.Outcome
import BoundSql.Proofs.Sql.Numbering
import BoundSql.Proofs.Sql.Placeholder
import BoundSql.Selection.Basic
import BoundSql.Selection.Rows
import BoundSql.Session.Call
import BoundSql.Session.Database
import BoundSql.Session.Exchange
import BoundSql.Session.Store
import BoundSql.Sql.Dialect
import BoundSql.Sql.Fragment
import BoundSql.Sql.Statement
import BoundSql.Text.Blank
import BoundSql.Text.Case
import BoundSql.Text.CaseTable
import BoundSql.Text.CodeRange
import BoundSql.Text.Digit
import BoundSql.Text.Matching
import BoundSql.Text.Printable
import BoundSql.Text.Quoted
import BoundSql.Traced
import BoundSql.Value.Basic
import BoundSql.Value.Equality
import BoundSql.Value.Number
import BoundSql.Value.Text
import BoundSql.Proofs.Selection.Slots
import BoundSql.Proofs.Sql.Recipe
import BoundSql.Proofs.Argument.Encoding
import BoundSql.Proofs.Condition.Composed
import BoundSql.Proofs.Number.Digits
import BoundSql.Proofs.Number.Rounding
import BoundSql.Proofs.Number.Shortest
import BoundSql.Proofs.Number.RealText
import BoundSql.Proofs.Argument.RoundTrip
import BoundSql.Proofs.Sql.Binding
import BoundSql.Proofs.Calendar.IsoText
import BoundSql.Proofs.Model.Stored
import BoundSql.Proofs.Model.Reading
import BoundSql.Proofs.Sql.Text
import BoundSql.Proofs.Session.Sent
import BoundSql.Proofs.Session.RoundTrip
import BoundSql.Proofs.Selection.Refusal
import BoundSql.Proofs.Selection.Rows
import BoundSql.Proofs.Selection.OwnColumns
import BoundSql.Proofs.Sql.Erasure
import BoundSql.Proofs.Selection.Erasure
import BoundSql.Proofs.Condition.Meaning
import BoundSql.Proofs.Selection.Restriction
import BoundSql.Proofs.Session.Composition
import BoundSql.Proofs.Session.Runs
import BoundSql.Proofs.Session.Transaction
import BoundSql.Proofs.Session.Bracketing
import BoundSql.Proofs.Session.Refusal
import BoundSql.Proofs.Sql.Spelling
import BoundSql.Proofs.Condition.Chain
import BoundSql.Proofs.Condition.Placement
import BoundSql.Proofs.Condition.Seams
import BoundSql.Proofs.Argument.Member
import BoundSql.Proofs.Text.Folding
import BoundSql.Proofs.Text.CaseVariant
import BoundSql.Proofs.Condition.Token
import BoundSql.Proofs.Argument.Spelling
import BoundSql.Proofs.Argument.Decoding
import BoundSql.Proofs.Argument.Qualifier
import BoundSql.Proofs.Calendar.Order
import BoundSql.Proofs.Session.Unencoded
import BoundSql.Proofs.Calendar.Width
import BoundSql.Proofs.Model.Registration
import BoundSql.Proofs.Model.LastRegistration
import BoundSql.Proofs.Selection.Tuples
import BoundSql.Proofs.Session.Migration
import BoundSql.Proofs.Connection.Agreement
import BoundSql.Proofs.Model.Definition
import BoundSql.Proofs.Model.Table
import BoundSql.Proofs.Model.AutoKey
import BoundSql.Proofs.Sql.Insertion
import BoundSql.Proofs.Sql.Assignment
import BoundSql.Proofs.Sql.Literal
import BoundSql.Proofs.Model.Default
import BoundSql.Proofs.Session.FirstRow
