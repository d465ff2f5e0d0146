import QueryWarden.Text.CharClass

/-!
# SQL dialects

The four dialects a target database may speak, the names each goes by, and the reminders about its
syntax that a language model is given.
-/

namespace QueryWarden.Sql

/-- The dialect spoken by a target database. -/
inductive Dialect where
  | sqlServer
  | postgreSql
  | mySql
  | duckDb
  deriving DecidableEq, Repr, Inhabited

namespace Dialect

/-- The canonical tag, which is how a dialect is stored and answered. -/
def tag : Dialect → String
  | .sqlServer => "SqlServer"
  | .postgreSql => "PostgreSql"
  | .mySql => "MySql"
  | .duckDb => "DuckDb"

/-- The engine's name as prompts spell it. -/
def displayName : Dialect → String
  | .sqlServer => "SQL Server"
  | .postgreSql => "PostgreSQL"
  | .mySql => "MySQL"
  | .duckDb => "DuckDB"

/-- The reminders about the dialect's syntax that go into a prompt. -/
def hints : Dialect → List String
  | .sqlServer =>
      ["Use TOP N instead of LIMIT N",
       "Use GETDATE() instead of NOW()",
       "Use DATEADD() for date arithmetic",
       "Use DATEDIFF() for date differences",
       "Quote identifiers with square brackets, never backticks"]
  | .postgreSql =>
      ["Use LIMIT N (and OFFSET M) for row limits",
       "Use NOW() or CURRENT_DATE for the current time",
       "Use INTERVAL '1 year' style literals for date arithmetic",
       "Quote identifiers with double quotes when they contain upper case letters"]
  | .mySql =>
      ["Use LIMIT N (and OFFSET M) for row limits",
       "Use NOW() for the current time",
       "Use DATE_SUB() and DATE_ADD() for date arithmetic",
       "Quote identifiers with backticks"]
  | .duckDb =>
      ["Use LIMIT N (and OFFSET M) for row limits",
       "Use current_date or now() for the current time",
       "Use date_trunc() and INTERVAL literals for date arithmetic",
       "Quote identifiers with double quotes"]

/-- The spellings accepted in documents, tag and aliases, in the order they are listed when a
spelling is refused. Case matters. -/
def spellings : List (String × Dialect) :=
  [("SqlServer", .sqlServer), ("mssql", .sqlServer), ("sqlserver", .sqlServer),
   ("PostgreSql", .postgreSql), ("postgres", .postgreSql), ("postgresql", .postgreSql),
   ("MySql", .mySql), ("mysql", .mySql),
   ("DuckDb", .duckDb), ("duckdb", .duckDb)]

/-- The dialect a document's spelling stands for. -/
def ofSpelling? (spelling : String) : Option Dialect :=
  spellings.lookup spelling

/-- A name in ASCII lower case. -/
def loweredName (name : String) : String :=
  String.ofList (Text.asciiLower name.toList)

/-- The dialect of a stored or typed name, in any ASCII case. -/
def ofName? (name : String) : Option Dialect :=
  let lowered := loweredName name
  if lowered = "sqlserver" ∨ lowered = "mssql" then some .sqlServer
  else if lowered = "postgresql" ∨ lowered = "postgres" then some .postgreSql
  else if lowered = "mysql" then some .mySql
  else if lowered = "duckdb" then some .duckDb
  else none

/-- What is said about a name that stands for no dialect. The name is shown in lower case. -/
def unsupported (name : String) : String :=
  "Unsupported dialect: " ++ loweredName name

end Dialect

end QueryWarden.Sql
