import QueryWarden.Text.CharClass

/-!
# Snapshots of a database's structure

What a target database looked like when it was last introspected: its tables in order, each with
its columns and foreign keys, and the plain text in which a language model is shown them.
-/

namespace QueryWarden.Schema

/-- A column of a table. -/
structure Column where
  name : String
  dataType : String
  nullable : Bool
  isPrimaryKey : Bool
  deriving DecidableEq, Repr, Inhabited

/-- A column that refers to a column of another table. -/
structure ForeignKey where
  column : String
  referencedTable : String
  referencedColumn : String
  deriving DecidableEq, Repr, Inhabited

/-- A table within its namespace, which may be empty. -/
structure Table where
  name : String
  space : String
  columns : List Column
  foreignKeys : List ForeignKey
  deriving DecidableEq, Repr, Inhabited

/-- The tables of one database. -/
structure Snapshot where
  tables : List Table
  deriving DecidableEq, Repr, Inhabited

/-- A column that is no key. -/
def Column.plain (name dataType : String) (nullable : Bool) : Column :=
  ⟨name, dataType, nullable, false⟩

/-- The column as a primary key, which is never null. -/
def Column.asPrimaryKey (column : Column) : Column :=
  { column with isPrimaryKey := true, nullable := false }

/-- A table without columns. -/
def Table.bare (space name : String) : Table :=
  ⟨name, space, [], []⟩

/-- The table with one more column at the end. -/
def Table.withColumn (table : Table) (column : Column) : Table :=
  { table with columns := table.columns ++ [column] }

/-- The table with one more foreign key at the end. -/
def Table.withForeignKey (table : Table) (key : ForeignKey) : Table :=
  { table with foreignKeys := table.foreignKeys ++ [key] }

/-- The name with its namespace in front, if there is one. -/
def Table.qualifiedName (table : Table) : String :=
  if table.space.isEmpty then table.name else table.space ++ "." ++ table.name

namespace Snapshot

/-- There are no tables. -/
def isEmpty (snapshot : Snapshot) : Bool :=
  snapshot.tables.isEmpty

/-- The first table of that name, in any ASCII case. -/
def table? (snapshot : Snapshot) (name : String) : Option Table :=
  snapshot.tables.find? fun table =>
    Text.asciiLower table.name.toList == Text.asciiLower name.toList

end Snapshot

/-! ## Prompt text -/

/-- The line for a column. -/
def Column.line (column : Column) : String :=
  "  - " ++ column.name ++ " (" ++ column.dataType ++ ", " ++
    (if column.nullable then "NULL" else "NOT NULL") ++
    (if column.isPrimaryKey then ", PRIMARY KEY" else "") ++ ")\n"

/-- The line for a foreign key. -/
def ForeignKey.line (key : ForeignKey) : String :=
  "  - " ++ key.column ++ " -> " ++ key.referencedTable ++ "." ++ key.referencedColumn ++ "\n"

/-- The paragraph for a table. -/
def Table.paragraph (table : Table) : String :=
  "TABLE: " ++ table.qualifiedName ++ "\nCOLUMNS:\n" ++
    String.join (table.columns.map Column.line) ++
    (if table.foreignKeys.isEmpty then ""
     else "FOREIGN KEYS:\n" ++ String.join (table.foreignKeys.map ForeignKey.line)) ++
    "\n"

/-- The text a language model is shown. -/
def Snapshot.promptText (snapshot : Snapshot) : String :=
  "DATABASE SCHEMA:\n================\n\n" ++
    String.join (snapshot.tables.map Table.paragraph)

end QueryWarden.Schema
