import QueryWarden.Json.Value

/-!
# Results of queries

Columns and rows of an executed query. A row is an object with one member for each column name;
columns that share a name share the member, which keeps the first place and the last value.
-/

namespace QueryWarden.Database

open QueryWarden.Json

/-- The members of a row, in the order of the columns. -/
abbrev ResultRow := List (String × Value)

/-- The result of a query. -/
structure QueryResult where
  columns : List String
  rows : List ResultRow
  rowCount : Nat
  executionMillis : Nat

/-- A row from the columns' names and values. -/
def rowOf (cells : List (String × Value)) : ResultRow :=
  cells.foldl (fun row cell => setMember cell.1 cell.2 row) []

/-- The result with rows of values under the names of the columns. -/
def QueryResult.ofCells (columns : List String) (rows : List (List Value)) : QueryResult :=
  ⟨columns, rows.map fun row => rowOf (columns.zip row), rows.length, 0⟩

/-- The object for a result. -/
def QueryResult.toValue (result : QueryResult) : Value :=
  .object [("columns", .ofTexts result.columns), ("rows", .list (result.rows.map .object)),
    ("rowCount", .ofNat result.rowCount), ("executionTimeMs", .ofNat result.executionMillis)]

end QueryWarden.Database
