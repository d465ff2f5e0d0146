import QueryWarden.Time.Span

/-!
# Failures of databases

What can go wrong with the service's own store and with the databases it queries, and how it is
worded. The embedded engine's own wording is passed on as a detail.
-/

namespace QueryWarden.Database

/-- A failure of a database. -/
inductive Failure where
  /-- The embedded engine refused. -/
  | engine (detail : String)
  /-- A driver of a remote engine failed. -/
  | driver (detail : String)
  /-- SQL Server refused, or answered what cannot be read. -/
  | sqlServer (detail : String)
  /-- A server was not reached. -/
  | network (detail : String)
  /-- No connection to the store was free. -/
  | pool (detail : String)
  /-- A column could not be converted. -/
  | conversion (detail : String)
  /-- A row could not be written as JSON. -/
  | row (detail : String)
  /-- No connection is registered under an id. -/
  | notFound (id : Int)
  /-- A connection is not set up properly. -/
  | invalidConfiguration (detail : String)
  /-- A query took longer than it may. -/
  | timeout (limit : Time.Span)
  /-- A connection string could not be opened. -/
  | secret (detail : String)
  /-- A task ended before its time. -/
  | task (detail : String)
  deriving DecidableEq, Repr

/-- The failure in words. -/
def Failure.message : Failure → String
  | .engine detail => "DuckDB error: " ++ detail
  | .driver detail => "Database driver error: " ++ detail
  | .sqlServer detail => "SQL Server error: " ++ detail
  | .network detail => "Network error: " ++ detail
  | .pool detail => "Connection pool error: " ++ detail
  | .conversion detail => "Arrow conversion error: " ++ detail
  | .row detail => "Row serialization error: " ++ detail
  | .notFound id => "Database configuration " ++ toString id ++ " not found"
  | .invalidConfiguration detail => "Invalid database configuration: " ++ detail
  | .timeout limit => "Query timed out after " ++ limit.text
  | .secret detail => "Connection secret error: " ++ detail
  | .task detail => "Background task failed: " ++ detail

end QueryWarden.Database
