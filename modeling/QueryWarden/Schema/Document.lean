import QueryWarden.Json.Decoder
import QueryWarden.Schema.Snapshot

/-!
# Snapshots as JSON documents

The members of the objects that snapshots are written as, and the decoders that read them back.
Key flags and foreign keys may be left out.
-/

namespace QueryWarden.Schema

open QueryWarden.Json

/-! ## Writing -/

/-- The object for a column. -/
def Column.toValue (column : Column) : Value :=
  .object [("name", .text column.name), ("dataType", .text column.dataType),
    ("nullable", .bool column.nullable), ("isPrimaryKey", .bool column.isPrimaryKey)]

/-- The object for a foreign key. -/
def ForeignKey.toValue (key : ForeignKey) : Value :=
  .object [("column", .text key.column), ("referencedTable", .text key.referencedTable),
    ("referencedColumn", .text key.referencedColumn)]

/-- The object for a table. -/
def Table.toValue (table : Table) : Value :=
  .object [("name", .text table.name), ("schema", .text table.space),
    ("columns", .list (table.columns.map Column.toValue)),
    ("foreignKeys", .list (table.foreignKeys.map ForeignKey.toValue))]

/-- The object for a snapshot. -/
def Snapshot.toValue (snapshot : Snapshot) : Value :=
  .object [("tables", .list (snapshot.tables.map Table.toValue))]

/-! ## Reading -/

/-- The shape of a column. -/
def columnShape : RecordShape Column :=
  ⟨"ColumnDescriptor",
   [.required "name" [] stringDecoder fun column name => { column with name },
    .required "dataType" [] stringDecoder fun column dataType => { column with dataType },
    .required "nullable" [] boolDecoder fun column nullable => { column with nullable },
    .optional "isPrimaryKey" [] boolDecoder fun column isPrimaryKey =>
      { column with isPrimaryKey }]⟩

/-- The shape of a foreign key. -/
def foreignKeyShape : RecordShape ForeignKey :=
  ⟨"ForeignKeyDescriptor",
   [.required "column" [] stringDecoder fun key column => { key with column },
    .required "referencedTable" [] stringDecoder fun key referencedTable =>
      { key with referencedTable },
    .required "referencedColumn" [] stringDecoder fun key referencedColumn =>
      { key with referencedColumn }]⟩

/-- The shape of a table. -/
def tableShape : RecordShape Table :=
  ⟨"TableDescriptor",
   [.required "name" [] stringDecoder fun table name => { table with name },
    .required "schema" [] stringDecoder fun table space => { table with space },
    .required "columns" [] (listDecoder (columnShape.decoder default)) fun table columns =>
      { table with columns },
    .optional "foreignKeys" [] (listDecoder (foreignKeyShape.decoder default))
      fun table foreignKeys => { table with foreignKeys }]⟩

/-- The shape of a snapshot. -/
def snapshotShape : RecordShape Snapshot :=
  ⟨"SchemaSnapshot",
   [.required "tables" [] (listDecoder (tableShape.decoder default)) fun snapshot tables =>
      { snapshot with tables }]⟩

/-- Reads a table. -/
def tableDecoder : Decoder Table := tableShape.decoder default

/-- Reads a snapshot. -/
def snapshotDecoder : Decoder Snapshot := snapshotShape.decoder default

/-- Reads a whole text as a snapshot. -/
def Snapshot.ofText? (text : String) : Except Fault Snapshot :=
  snapshotDecoder.document text.toList

end QueryWarden.Schema
