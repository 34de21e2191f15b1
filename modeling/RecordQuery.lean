import RecordQuery.Declaration.Code
import RecordQuery.Inspect
import RecordQuery.RequestJson
import RecordQuery.Proofs.Filter.Grouping
import RecordQuery.Proofs.Order.Preorder
import RecordQuery.Proofs.Number.Exact
import RecordQuery.Proofs.Value.Order
import RecordQuery.Proofs.Order.Lexicographic
import RecordQuery.Proofs.Order.StableSort
import RecordQuery.Proofs.Query.Window
import RecordQuery.Proofs.Query.Pages
import RecordQuery.Proofs.Value.Coercion
import RecordQuery.Proofs.Condition.Applicability
import RecordQuery.Proofs.Condition.Built
import RecordQuery.Proofs.Condition.Operators
import RecordQuery.Proofs.Schema.Path
import RecordQuery.Proofs.Filter.WellFormed
import RecordQuery.Proofs.Except
import RecordQuery.Proofs.Query.Visibility
import RecordQuery.Proofs.Json.Lexing
import RecordQuery.Proofs.Json.Parsing
import RecordQuery.Proofs.Json.Decoding
import RecordQuery.Proofs.Request.RoundTrip
import RecordQuery.Proofs.Filter.Conservation
import RecordQuery.Proofs.Order.Chained
import RecordQuery.Proofs.Filter.Usable
import RecordQuery.Proofs.Json.Spelling
import RecordQuery.Proofs.Json.Acceptance
import RecordQuery.Proofs.Request.Acceptance
import RecordQuery.Proofs.Schema.Typing
import RecordQuery.Proofs.Query.Execution
import RecordQuery.Proofs.Query.Intervals
import RecordQuery.Proofs.Calendar.Text
import RecordQuery.Proofs.Number.Text
import RecordQuery.Proofs.Guid
import RecordQuery.Proofs.Value.Shown
import RecordQuery.Proofs.Filter.Shown
import RecordQuery.Proofs.Condition.Complement
import RecordQuery.Proofs.Request.Compilation
import RecordQuery.Proofs.Declaration.Marks
import RecordQuery.Proofs.Declaration.Agreement
import RecordQuery.Proofs.Declaration.Addressing
import RecordQuery.Proofs.Text.Lookup
import RecordQuery.Proofs.Text.Decomposition
import RecordQuery.Proofs.Collation.Letters
import RecordQuery.Proofs.Text.LowerCase
import RecordQuery.Proofs.Condition.LetterCase
import RecordQuery.Proofs.Collation.LetterCase
import RecordQuery.Proofs.Number.Rounding
import RecordQuery.Proofs.Number.Order
import RecordQuery.Proofs.Value.Integer
import RecordQuery.Proofs.Schema.Resolution
import RecordQuery.Proofs.Filter.Skipped
import RecordQuery.Proofs.Condition.LabelSearch
import RecordQuery.Proofs.LabelTable
import RecordQuery.Proofs.Order.Compilation
import RecordQuery.Proofs.Calendar.DayNumber
import RecordQuery.Proofs.Condition.DayWindow
import RecordQuery.Proofs.Calendar.Offset
import RecordQuery.Proofs.Filter.Instants
import RecordQuery.Proofs.Declaration.Naming
import RecordQuery.Proofs.Declaration.Hidden
import RecordQuery.Proofs.Order.Redundancy
import RecordQuery.Proofs.Declaration.Discriminant
import RecordQuery.Proofs.Declaration.Enumeration
import RecordQuery.Proofs.Declaration.Members
