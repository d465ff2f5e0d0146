import QueryWarden.Database.AdoString
import QueryWarden.Net.Network
import QueryWarden.Sql.Dialect
import QueryWarden.Targets.Server

/-!
# Remote engines

The engines that are queried over a network: the statements each is sent, how it is reached and how
its refusals are worded.
-/

namespace QueryWarden.Targets

open QueryWarden.Database

/-- A remote engine. -/
inductive Engine where
  | postgreSql
  | mySql
  | sqlServer
  deriving DecidableEq, Repr

namespace Engine

/-- The namespaces of PostgreSQL that belong to the engine itself. -/
def excludedSpaces : String := "('pg_catalog', 'information_schema', 'pg_toast')"

/-- The statement that asks a question of the catalogue. -/
def catalogueStatement : Engine → CatalogueQuery → String
  | .postgreSql, .tables =>
      "SELECT table_schema::text, table_name::text FROM information_schema.tables " ++
        "WHERE table_schema NOT IN " ++ excludedSpaces ++ " ORDER BY table_schema, table_name"
  | .postgreSql, .primaryKeys =>
      "SELECT kcu.table_schema::text, kcu.table_name::text, kcu.column_name::text " ++
        "FROM information_schema.table_constraints tc " ++
        "JOIN information_schema.key_column_usage kcu " ++
        "ON tc.constraint_name = kcu.constraint_name AND tc.table_schema = kcu.table_schema " ++
        "WHERE tc.constraint_type = 'PRIMARY KEY'"
  | .postgreSql, .columns =>
      "SELECT table_schema::text, table_name::text, column_name::text, data_type::text, " ++
        "is_nullable::text FROM information_schema.columns " ++
        "WHERE table_schema NOT IN " ++ excludedSpaces ++
        " ORDER BY table_schema, table_name, ordinal_position"
  | .postgreSql, .foreignKeys =>
      "SELECT kcu.table_schema::text, kcu.table_name::text, kcu.column_name::text, " ++
        "ccu.table_name::text, ccu.column_name::text " ++
        "FROM information_schema.table_constraints tc " ++
        "JOIN information_schema.key_column_usage kcu " ++
        "ON tc.constraint_name = kcu.constraint_name AND tc.table_schema = kcu.table_schema " ++
        "JOIN information_schema.constraint_column_usage ccu " ++
        "ON ccu.constraint_name = tc.constraint_name AND ccu.table_schema = tc.table_schema " ++
        "WHERE tc.constraint_type = 'FOREIGN KEY'"
  | .mySql, .tables =>
      "SELECT CAST(TABLE_SCHEMA AS CHAR), CAST(TABLE_NAME AS CHAR) " ++
        "FROM INFORMATION_SCHEMA.TABLES " ++
        "WHERE TABLE_TYPE = 'BASE TABLE' AND TABLE_SCHEMA = DATABASE() ORDER BY TABLE_NAME"
  | .mySql, .primaryKeys =>
      "SELECT CAST(TABLE_SCHEMA AS CHAR), CAST(TABLE_NAME AS CHAR), CAST(COLUMN_NAME AS CHAR) " ++
        "FROM INFORMATION_SCHEMA.KEY_COLUMN_USAGE " ++
        "WHERE TABLE_SCHEMA = DATABASE() AND CONSTRAINT_NAME = 'PRIMARY'"
  | .mySql, .columns =>
      "SELECT CAST(TABLE_SCHEMA AS CHAR), CAST(TABLE_NAME AS CHAR), CAST(COLUMN_NAME AS CHAR), " ++
        "CAST(DATA_TYPE AS CHAR), CAST(IS_NULLABLE AS CHAR) FROM INFORMATION_SCHEMA.COLUMNS " ++
        "WHERE TABLE_SCHEMA = DATABASE() ORDER BY TABLE_NAME, ORDINAL_POSITION"
  | .mySql, .foreignKeys =>
      "SELECT CAST(TABLE_SCHEMA AS CHAR), CAST(TABLE_NAME AS CHAR), CAST(COLUMN_NAME AS CHAR), " ++
        "CAST(REFERENCED_TABLE_NAME AS CHAR), CAST(REFERENCED_COLUMN_NAME AS CHAR) " ++
        "FROM INFORMATION_SCHEMA.KEY_COLUMN_USAGE " ++
        "WHERE TABLE_SCHEMA = DATABASE() AND REFERENCED_TABLE_NAME IS NOT NULL"
  | .sqlServer, .tables =>
      "\n    SELECT TABLE_SCHEMA, TABLE_NAME\n" ++
        "    FROM INFORMATION_SCHEMA.TABLES\n" ++
        "    WHERE TABLE_TYPE = 'BASE TABLE'\n" ++
        "    ORDER BY TABLE_SCHEMA, TABLE_NAME\n"
  | .sqlServer, .primaryKeys =>
      "\n    SELECT kcu.TABLE_SCHEMA, kcu.TABLE_NAME, kcu.COLUMN_NAME\n" ++
        "    FROM INFORMATION_SCHEMA.TABLE_CONSTRAINTS tc\n" ++
        "    JOIN INFORMATION_SCHEMA.KEY_COLUMN_USAGE kcu\n" ++
        "      ON tc.CONSTRAINT_NAME = kcu.CONSTRAINT_NAME AND " ++
        "tc.TABLE_SCHEMA = kcu.TABLE_SCHEMA\n" ++
        "    WHERE tc.CONSTRAINT_TYPE = 'PRIMARY KEY'\n"
  | .sqlServer, .columns =>
      "\n    SELECT TABLE_SCHEMA, TABLE_NAME, COLUMN_NAME, DATA_TYPE, IS_NULLABLE\n" ++
        "    FROM INFORMATION_SCHEMA.COLUMNS\n" ++
        "    ORDER BY TABLE_SCHEMA, TABLE_NAME, ORDINAL_POSITION\n"
  | .sqlServer, .foreignKeys =>
      "\n    SELECT fk.TABLE_SCHEMA, fk.TABLE_NAME, fk.COLUMN_NAME, " ++
        "pk.TABLE_NAME, pk.COLUMN_NAME\n" ++
        "    FROM INFORMATION_SCHEMA.REFERENTIAL_CONSTRAINTS rc\n" ++
        "    JOIN INFORMATION_SCHEMA.KEY_COLUMN_USAGE fk\n" ++
        "      ON fk.CONSTRAINT_NAME = rc.CONSTRAINT_NAME AND " ++
        "fk.CONSTRAINT_SCHEMA = rc.CONSTRAINT_SCHEMA\n" ++
        "    JOIN INFORMATION_SCHEMA.KEY_COLUMN_USAGE pk\n" ++
        "      ON pk.CONSTRAINT_NAME = rc.UNIQUE_CONSTRAINT_NAME\n" ++
        "     AND pk.CONSTRAINT_SCHEMA = rc.UNIQUE_CONSTRAINT_SCHEMA\n" ++
        "     AND pk.ORDINAL_POSITION = fk.ORDINAL_POSITION\n"

/-- How nulls in the catalogue are taken. -/
def nullReading : Engine → NullReading
  | .sqlServer => .asEmpty
  | .postgreSql | .mySql => .refused

/-- What a driver makes of a row of the answer to a question. Only SQL Server's leaves the rest of a
column unread unless its table is found. -/
def readRow (engine : Engine) (query : CatalogueQuery) (draft : SchemaDraft) (row : CatalogueRow) :
    Except Failure SchemaDraft :=
  match query with
  | .tables => engine.nullReading.addTable draft row
  | .primaryKeys => engine.nullReading.addPrimaryKey draft row
  | .columns =>
      match engine with
      | .postgreSql | .mySql => engine.nullReading.addColumn draft row
      | .sqlServer => engine.nullReading.addFoundColumn draft row
  | .foreignKeys => engine.nullReading.addForeignKey draft row

/-- Whether a client that has all it asked of the catalogue takes its leave of the server. -/
def takesLeave : Engine → Bool
  | .postgreSql | .mySql => true
  | .sqlServer => false

/-- A statement around a query, and whether its failure matters. -/
structure Frame where
  statement : String
  mustSucceed : Bool
  deriving DecidableEq, Repr

/-- The statements sent before a query: the transaction is read only and limited in time, as far as
the engine can do that. -/
def opening (engine : Engine) (limit : Time.Span) : List Frame :=
  let millis := toString (limit.nanos / 1000000)
  match engine with
  | .postgreSql =>
      [⟨"BEGIN", true⟩, ⟨"SET TRANSACTION READ ONLY", true⟩,
       ⟨"SET LOCAL statement_timeout = " ++ millis, true⟩]
  | .mySql =>
      [⟨"SET SESSION max_execution_time = " ++ millis, false⟩,
       ⟨"SET TRANSACTION READ ONLY", true⟩, ⟨"BEGIN", true⟩]
  | .sqlServer => [⟨"BEGIN TRANSACTION", true⟩]

/-- The statement sent after a query. -/
def closing : Engine → String
  | .postgreSql | .mySql => "ROLLBACK"
  | .sqlServer => "ROLLBACK TRANSACTION"

/-- A refusal as a failure. -/
def refusalFailure (engine : Engine) (refusal : Refusal) : Failure :=
  match engine with
  | .postgreSql => .driver ("error returned from database: " ++ refusal.message)
  | .mySql =>
      .driver ("error returned from database: " ++ refusal.code ++ " (" ++ refusal.state ++
        "): " ++ refusal.message)
  | .sqlServer =>
      .sqlServer ("Token error: '" ++ refusal.message ++ "' on server " ++ refusal.server ++
        " executing batch on line " ++ toString refusal.line ++ " (code: " ++ refusal.code ++
        ", state: " ++ refusal.state ++ ", class: " ++ toString refusal.severity ++ ")")

/-- Trouble with the network as a failure. -/
def networkFailure (engine : Engine) (reason : String) : Failure :=
  match engine with
  | .sqlServer => .network reason
  | .postgreSql | .mySql => .driver ("error communicating with database: " ++ reason)

/-- The port that the engine listens on unless another is given. -/
def defaultPort : Engine → Nat
  | .postgreSql => 5432
  | .mySql => 3306
  | .sqlServer => 1433

/-- The engine of a dialect, if it is a remote one. -/
def ofDialect? : Sql.Dialect → Option Engine
  | .sqlServer => some .sqlServer
  | .postgreSql => some .postgreSql
  | .mySql => some .mySql
  | .duckDb => none

/-- The host and the port that a connection string names. -/
def address (engine : Engine) (connectionString : String) :
    Except Failure (List Char × Nat) :=
  match engine with
  | .sqlServer =>
      match parseAdoString connectionString with
      | .ok address => .ok (address.host, address.port)
      | .error fault =>
          .error (.invalidConfiguration
            ("invalid SQL Server connection string: " ++ fault.message))
  | .postgreSql | .mySql =>
      match Net.Url.parse connectionString.toList with
      | .ok url =>
          .ok ((url.host.filter fun host => !host.isEmpty).getD "localhost".toList,
            url.port.getD engine.defaultPort)
      | .error fault => .error (.driver ("error with configuration: " ++ fault.message))

end Engine

end QueryWarden.Targets
