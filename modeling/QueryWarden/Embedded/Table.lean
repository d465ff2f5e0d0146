import QueryWarden.Database.Catalogue
import QueryWarden.Json.Value

/-!
# Embedded databases

The contents of a database file: tables with typed columns and rows. Names are compared without
regard to ASCII case.
-/

namespace QueryWarden.Embedded

open QueryWarden.Database QueryWarden.Json QueryWarden.Schema

/-! ## Values -/

/-- A fraction of a second with as many digits as it needs: none, three or six. -/
def fractionText (digits : List Char) : List Char :=
  let micros := (digits ++ List.replicate 6 '0').take 6
  if micros.all (· == '0') then []
  else if (micros.drop 3).all (· == '0') then '.' :: micros.take 3
  else '.' :: micros

/-- A moment as the engine writes it: a `T` between date and time, and a short fraction. -/
def momentText (text : List Char) : List Char :=
  let whole := text.takeWhile (· != '.')
  whole.map (fun c => if c = ' ' then 'T' else c) ++ fractionText (text.drop (whole.length + 1))

/-- A value as a column of a type keeps it: numbers become floating where the column is, those that
are not finite are null, and moments are written the engine's way. -/
def storedValue (dataType : String) (value : Value) : Value :=
  match dataType, value with
  | "DOUBLE", .integer number => .float (Float.ofInt number)
  | "DOUBLE", .float number => if number.isFinite then .float number else .null
  | "DOUBLE", .text _ => .null
  | "TIMESTAMP", .text text => .text (String.ofList (momentText text.toList))
  | _, value => value

/-! ## Tables -/

/-- A table with its data; each row has one value for each column. -/
structure StoredTable where
  shape : Table
  rows : List (List Value)

/-- The contents of a database file. -/
structure EmbeddedDatabase where
  tables : List StoredTable

/-- A table with its data, each value as its column keeps it. -/
def StoredTable.ofRows (shape : Table) (rows : List (List Value)) : StoredTable :=
  ⟨shape, rows.map fun row => (shape.columns.zip row).map fun (column, value) =>
    storedValue column.dataType value⟩

/-- A database without tables. -/
def EmbeddedDatabase.empty : EmbeddedDatabase := ⟨[]⟩

/-- The engine's own spelling of a column type. -/
def canonicalType (dataType : String) : String :=
  if Text.asciiLower dataType.toList = "int".toList then "INTEGER" else dataType

/-- What the catalogue of a database lists. -/
def EmbeddedDatabase.catalogue (database : EmbeddedDatabase) : Catalogue :=
  let key (table : Table) : TableKey := ⟨table.space, table.name⟩
  let tables := database.tables.map StoredTable.shape
  { tables := tables.map key
    primaryKeys := tables.flatMap fun table =>
      (table.columns.filter Column.isPrimaryKey).map fun column => ⟨key table, column.name⟩
    columns := tables.flatMap fun table => table.columns.map fun column =>
      ⟨key table, column.name, canonicalType column.dataType,
        if column.nullable then "YES" else "NO"⟩
    foreignKeys := tables.flatMap fun table => table.foreignKeys.map fun foreign =>
      ⟨key table, foreign⟩ }

/-- The structure of a database. -/
def EmbeddedDatabase.introspect (database : EmbeddedDatabase) : Snapshot :=
  database.catalogue.draft.snapshot

/-- The database files there are, by path. The path of a database in memory needs no file. -/
abbrev Files := List (String × EmbeddedDatabase)

/-- The path of an empty database in memory. -/
def memoryPath : String := ":memory:"

/-- Opens a database file for reading. -/
def Files.open? (files : Files) (path : String) : Except Failure EmbeddedDatabase :=
  if path = memoryPath then .ok .empty
  else
    match files.lookup path with
    | some database => .ok database
    | none => .error (.engine "the file cannot be opened")

end QueryWarden.Embedded
