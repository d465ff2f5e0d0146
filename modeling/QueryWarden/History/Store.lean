import QueryWarden.Database.Failure
import QueryWarden.History.Record
import QueryWarden.Text.Order

/-!
# The history store

The log of attempts as it is stored: charts and times as text, ids from a sequence that never goes
back. Entries are only ever added; the one removal takes them all.
-/

namespace QueryWarden.History

open QueryWarden.Database QueryWarden.Generation

/-- A row of the log. -/
structure StoredRecord where
  id : Int
  question : Option String
  sqlQuery : String
  explanation : String
  chart : String
  connectionId : Int
  executedAt : String
  isSuccessful : Bool
  errorMessage : Option String
  deriving DecidableEq, Repr

/-- The log and the next id of its sequence. -/
structure Store where
  rows : List StoredRecord
  nextId : Int
  deriving DecidableEq, Repr

/-- How many records a listing has unless another number is asked for. -/
def defaultLimit : UInt64 := 50

/-- The most rows the engine can be asked for. -/
def largestLimit : Nat := Nat.pow 2 62

/-- Why the engine refuses to list so many rows, if it does. -/
def limitRefusal? (limit : Int) : Option Failure :=
  if limit < 0 then some (.engine "the limit is negative")
  else if largestLimit < limit then some (.engine "the limit is too large")
  else none

/-- The row for an attempt. -/
def StoredRecord.ofRecord (record : Record) : StoredRecord :=
  let attempt := record.attempt
  ⟨record.id, attempt.question, attempt.sqlQuery, attempt.explanation, attempt.chart.name,
    attempt.connectionId, record.executedAt.storedText, attempt.isSuccessful,
    attempt.errorMessage⟩

/-- A row with its chart and its time read. -/
def StoredRecord.decode (row : StoredRecord) : Except Failure Record :=
  match Time.Timestamp.ofText? row.executedAt.toList with
  | .error fault => .error (.engine ("bad timestamp: " ++ fault.message))
  | .ok executedAt =>
      .ok ⟨row.id,
        ⟨row.question, row.sqlQuery, row.explanation, Chart.ofName row.chart, row.connectionId,
          row.isSuccessful, row.errorMessage⟩, executedAt⟩

/-- The first row is listed before the second or in its place: later times first, then larger
ids. -/
def StoredRecord.listedBefore (row other : StoredRecord) : Bool :=
  if row.executedAt = other.executedAt then decide (other.id ≤ row.id)
  else Text.textLess other.executedAt.toList row.executedAt.toList

namespace Store

/-- A store without records. -/
def empty : Store := ⟨[], 1⟩

/-- Adds a row unless its id is taken. -/
def insert (store : Store) (row : StoredRecord) : Except Failure Unit × Store :=
  if store.rows.any fun other => other.id == row.id then
    (.error (.engine "the id is taken"), store)
  else (.ok (), { store with rows := store.rows ++ [row] })

/-- Adds an attempt under the next id of the sequence. -/
def append (store : Store) (now : Time.Timestamp) (attempt : Attempt) :
    Except Failure Record × Store :=
  let record : Record := ⟨store.nextId, attempt, now⟩
  let (outcome, changed) :=
    { store with nextId := store.nextId + 1 }.insert (.ofRecord record)
  (outcome.map fun () => record, changed)

/-- The rows in the order of a listing. -/
def listing (store : Store) : List StoredRecord :=
  store.rows.mergeSort StoredRecord.listedBefore

/-- The latest records, as many as `limit` at most. The engine is given the word of the limit as one
with a sign, and looks at it only if there is something to list. -/
def list (store : Store) (limit : UInt64) : Except Failure (List Record) :=
  let asked := limit.toInt64.toInt
  if store.rows.isEmpty then .ok []
  else
    match limitRefusal? asked with
    | some refusal => .error refusal
    | none => (store.listing.take asked.toNat).mapM StoredRecord.decode

/-- Removes all records and tells how many there were. -/
def clear (store : Store) : Nat × Store :=
  (store.rows.length, { store with rows := [] })

end Store

end QueryWarden.History
