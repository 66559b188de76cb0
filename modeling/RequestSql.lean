import RequestSql.Dialect.Raw
import RequestSql.Session
import RequestSql.Proofs.Reader.Basic
import RequestSql.Proofs.Reader.Lexeme
import RequestSql.Proofs.Reader.Filter
import RequestSql.Proofs.Reader.Writing
import RequestSql.Proofs.Reader.Joins
import RequestSql.Proofs.Reader.Selection
import RequestSql.Proofs.Fields
import RequestSql.Proofs.Statement.Clauses
import RequestSql.Proofs.Statement.Routing
import RequestSql.Proofs.Lexical
import RequestSql.Proofs.Request.Form
import RequestSql.Proofs.Pipeline.Outcome
import RequestSql.Proofs.Pipeline.Check
import RequestSql.Proofs.Statement.Metadata
import RequestSql.Proofs.Request.Fault
import RequestSql.Proofs.Request.Grammar
import RequestSql.Proofs.Json.Read
import RequestSql.Proofs.Http.BodyLimit
import RequestSql.Proofs.Http.Call
import RequestSql.Proofs.Value.Finite
import RequestSql.Proofs.Http.Compile
import RequestSql.Proofs.Statement.Dependence
import RequestSql.Proofs.Request.Keyword
import RequestSql.Proofs.Request.Written
import RequestSql.Proofs.Request.Normal
import RequestSql.Proofs.Registry
import RequestSql.Proofs.Session
import RequestSql.Proofs.Request.Recognized
import RequestSql.Proofs.Statement.Deletion
import RequestSql.Proofs.Pipeline.Deletion
import RequestSql.Proofs.Http.DeclaredLength
import RequestSql.Proofs.Reader.Escape
import RequestSql.Proofs.Text.Replace
import RequestSql.Proofs.Request.Ordering
import RequestSql.Proofs.Decimal.Digits
import RequestSql.Proofs.Decimal.Plain
import RequestSql.Proofs.Decimal.Numeral
import RequestSql.Proofs.Decimal.Datum
import RequestSql.Proofs.Decimal.Units
import RequestSql.Proofs.Decimal.Rounding
import RequestSql.Proofs.Decimal.Shortest
import RequestSql.Proofs.Decimal.RoundTrip
import RequestSql.Proofs.Number
