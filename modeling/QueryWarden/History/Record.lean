import QueryWarden.Generation.Answer
import QueryWarden.Time.Timestamp

/-!
# History records

An attempt to generate or run a query, as it is handed in and as it is kept.
-/

namespace QueryWarden.History

open QueryWarden.Generation QueryWarden.Json

/-- An attempt as it is handed in. Statements that were not generated have no question. -/
structure Attempt where
  question : Option String
  sqlQuery : String
  explanation : String
  chart : Chart
  connectionId : Int
  isSuccessful : Bool
  errorMessage : Option String
  deriving DecidableEq, Repr

/-- An attempt with its id and its time. -/
structure Record where
  id : Int
  attempt : Attempt
  executedAt : Time.Timestamp
  deriving DecidableEq, Repr

/-- The object for a record. -/
def Record.toValue (record : Record) : Value :=
  let attempt := record.attempt
  .object [("id", .integer record.id), ("question", .ofOption attempt.question),
    ("sqlQuery", .text attempt.sqlQuery), ("explanation", .text attempt.explanation),
    ("chartType", .text attempt.chart.name), ("connectionId", .integer attempt.connectionId),
    ("executedAt", .text record.executedAt.text), ("isSuccessful", .bool attempt.isSuccessful),
    ("errorMessage", .ofOption attempt.errorMessage)]

end QueryWarden.History
