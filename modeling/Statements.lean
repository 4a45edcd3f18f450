import Statements.Session
import Statements.Outcome.Records
import Statements.Proofs.Except
import Statements.Proofs.TableName
import Statements.Proofs.Entries.Collapse
import Statements.Proofs.Text.Balanced
import Statements.Proofs.Text.Listing
import Statements.Proofs.Text.Lines
import Statements.Proofs.Text.Paragraphs
import Statements.Proofs.Binary64.Figures
import Statements.Proofs.Scalar.Literal
import Statements.Proofs.Scalar.Listing
import Statements.Proofs.Scalar.Equality
import Statements.Proofs.Filter.Unambiguous
import Statements.Proofs.Filter.Comparison
import Statements.Proofs.Filter.Equality
import Statements.Proofs.Select.Flow
import Statements.Proofs.Select.Growth
import Statements.Proofs.Select.Unambiguous
import Statements.Proofs.Filter.Precedence
import Statements.Proofs.Execution.Journal
import Statements.Proofs.Upsert.Unambiguous
import Statements.Proofs.Equality
import Statements.Proofs.BulkUpsert.Halves
import Statements.Proofs.BulkUpsert.Paragraphs
import Statements.Proofs.BulkUpsert.Binding
import Statements.Proofs.Json.Escape
import Statements.Proofs.Json.Numeral
import Statements.Proofs.Json.Value
import Statements.Proofs.Binary64.Overflow
import Statements.Proofs.Json.Integer
import Statements.Proofs.Row.RoundTrip
import Statements.Proofs.Json.Object
import Statements.Proofs.Row.Readings
import Statements.Proofs.Scalar.Integer
import Statements.Proofs.Row.Acceptance
import Statements.Proofs.Outcome.Rows
import Statements.Proofs.Outcome.Records
import Statements.Proofs.Outcome.Visits
import Statements.Proofs.Session.Independence
