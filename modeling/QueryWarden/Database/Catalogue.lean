import QueryWarden.Database.Failure
import QueryWarden.Schema.Snapshot
import QueryWarden.Text.Order

/-!
# Catalogues

What a database tells about its own structure comes as four lists of rows: tables, primary keys,
columns and foreign keys. An introspection goes through them row by row. It keeps the tables in a
map that is ordered by their keys, looks up the table that a column or a foreign key belongs to, and
appends to it. Rows about tables that are not in the map are passed over.
-/

namespace QueryWarden.Database

open QueryWarden.Schema

/-- The questions asked of a catalogue, in the order they are asked. -/
inductive CatalogueQuery where
  | tables
  | primaryKeys
  | columns
  | foreignKeys
  deriving DecidableEq, Repr

/-- A table's namespace and name. -/
structure TableKey where
  space : String
  name : String
  deriving DecidableEq, Repr

/-- A column that belongs to a primary key. -/
structure KeyEntry where
  table : TableKey
  column : String
  deriving DecidableEq, Repr

/-- A column as the catalogue lists it; `nullable` is the catalogue's word. -/
structure ColumnEntry where
  table : TableKey
  column : String
  dataType : String
  nullable : String
  deriving DecidableEq, Repr

/-- A foreign key as the catalogue lists it. -/
structure ForeignKeyEntry where
  table : TableKey
  key : ForeignKey
  deriving DecidableEq, Repr

/-- What a catalogue lists. -/
structure Catalogue where
  tables : List TableKey
  primaryKeys : List KeyEntry
  columns : List ColumnEntry
  foreignKeys : List ForeignKeyEntry
  deriving DecidableEq, Repr, Inhabited

/-! ## Tables by key -/

/-- The order of tables: by namespace, then by name, both byte by byte. -/
def TableKey.before (left right : TableKey) : Bool :=
  if left.space = right.space then Text.textLess left.name.toList right.name.toList
  else Text.textLess left.space.toList right.space.toList

/-- Tables under their keys, in the order of these. -/
abbrev TableMap := List (TableKey × Table)

/-- Puts a table under a key, in the place of the one that is there. -/
def TableMap.put (key : TableKey) (table : Table) : TableMap → TableMap
  | [] => [(key, table)]
  | (other, found) :: tables =>
      if key = other then (key, table) :: tables
      else if key.before other then (key, table) :: (other, found) :: tables
      else (other, found) :: put key table tables

/-! ## Going through the rows -/

/-- What an introspection has put together so far: the tables, and the columns that are listed as
part of primary keys, each once. -/
structure SchemaDraft where
  tables : TableMap
  primaryKeys : List KeyEntry
  deriving DecidableEq, Repr, Inhabited

namespace SchemaDraft

/-- A table is listed: a new one without columns is put under its key. -/
def addTable (draft : SchemaDraft) (key : TableKey) : SchemaDraft :=
  { draft with tables := draft.tables.put key (.bare key.space key.name) }

/-- A column is listed as part of a primary key. -/
def addPrimaryKey (draft : SchemaDraft) (entry : KeyEntry) : SchemaDraft :=
  { draft with primaryKeys := draft.primaryKeys.insert entry }

/-- Changes the table under a key, if there is one. -/
def changeTable (draft : SchemaDraft) (key : TableKey) (change : Table → Table) : SchemaDraft :=
  match draft.tables.lookup key with
  | none => draft
  | some table => { draft with tables := draft.tables.put key (change table) }

/-- A column as a table has it: nullable only by the word for it, and never in a primary key. -/
def column (draft : SchemaDraft) (entry : ColumnEntry) : Column :=
  let column := Column.plain entry.column entry.dataType (entry.nullable == "YES")
  if draft.primaryKeys.contains ⟨entry.table, entry.column⟩ then column.asPrimaryKey else column

/-- A column is listed: its table gets it behind those it has. -/
def addColumn (draft : SchemaDraft) (entry : ColumnEntry) : SchemaDraft :=
  draft.changeTable entry.table (·.withColumn (draft.column entry))

/-- A foreign key is listed: its table gets it behind those it has. -/
def addForeignKey (draft : SchemaDraft) (entry : ForeignKeyEntry) : SchemaDraft :=
  draft.changeTable entry.table (·.withForeignKey entry.key)

/-- The tables in the order of their keys. -/
def snapshot (draft : SchemaDraft) : Snapshot :=
  ⟨draft.tables.map Prod.snd⟩

end SchemaDraft

/-- What comes of a catalogue whose rows are gone through question by question. -/
def Catalogue.draft (catalogue : Catalogue) : SchemaDraft :=
  let draft := catalogue.tables.foldl SchemaDraft.addTable default
  let draft := catalogue.primaryKeys.foldl SchemaDraft.addPrimaryKey draft
  let draft := catalogue.columns.foldl SchemaDraft.addColumn draft
  catalogue.foreignKeys.foldl SchemaDraft.addForeignKey draft

/-! ## Reading rows -/

/-- A row of a catalogue's answer; a cell may be null. -/
abbrev CatalogueRow := List (Option String)

/-- How nulls in a catalogue's answer are taken. -/
inductive NullReading where
  | asEmpty
  | refused
  deriving DecidableEq, Repr

namespace NullReading

variable (reading : NullReading)

/-- The text of a cell. -/
def cell (row : CatalogueRow) (index : Nat) : Except Failure String :=
  match row[index]?.join, reading with
  | some text, _ => .ok text
  | none, .asEmpty => .ok ""
  | none, .refused =>
      .error (.driver ("error occurred while decoding column " ++ toString index ++
        ": unexpected null; try decoding as an \x60Option\x60"))

/-- The table that the first two cells of a row name. -/
def tableKey (row : CatalogueRow) : Except Failure TableKey := do
  let space ← reading.cell row 0
  let name ← reading.cell row 1
  .ok ⟨space, name⟩

/-- A row that lists a table. -/
def addTable (draft : SchemaDraft) (row : CatalogueRow) : Except Failure SchemaDraft := do
  .ok (draft.addTable (← reading.tableKey row))

/-- A row that lists a column of a primary key. -/
def addPrimaryKey (draft : SchemaDraft) (row : CatalogueRow) : Except Failure SchemaDraft := do
  let table ← reading.tableKey row
  .ok (draft.addPrimaryKey ⟨table, ← reading.cell row 2⟩)

/-- A row that lists a column. It is read as a whole before its table is looked up. -/
def addColumn (draft : SchemaDraft) (row : CatalogueRow) : Except Failure SchemaDraft := do
  let table ← reading.tableKey row
  let column ← reading.cell row 2
  let dataType ← reading.cell row 3
  let nullable ← reading.cell row 4
  .ok (draft.addColumn ⟨table, column, dataType, nullable⟩)

/-- A row that lists a column. Its type and whether it is nullable are only read once its table is
found. -/
def addFoundColumn (draft : SchemaDraft) (row : CatalogueRow) : Except Failure SchemaDraft := do
  let table ← reading.tableKey row
  let column ← reading.cell row 2
  match draft.tables.lookup table with
  | none => .ok draft
  | some _ =>
      let dataType ← reading.cell row 3
      let nullable ← reading.cell row 4
      .ok (draft.addColumn ⟨table, column, dataType, nullable⟩)

/-- A row that lists a foreign key, of which only the table is read until that is found. -/
def addForeignKey (draft : SchemaDraft) (row : CatalogueRow) : Except Failure SchemaDraft := do
  let table ← reading.tableKey row
  match draft.tables.lookup table with
  | none => .ok draft
  | some _ =>
      let column ← reading.cell row 2
      let referencedTable ← reading.cell row 3
      let referencedColumn ← reading.cell row 4
      .ok (draft.addForeignKey ⟨table, ⟨column, referencedTable, referencedColumn⟩⟩)

end NullReading

end QueryWarden.Database
