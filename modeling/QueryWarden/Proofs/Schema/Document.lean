import QueryWarden.Proofs.Json.Forms
import QueryWarden.Schema.Document

/-!
# Snapshots survive their documents

A snapshot may be written in many ways: with white space between the parts and escapes in the texts,
with the members of its objects in any order and others among them, without key flags that are off
and without empty lists of foreign keys, and with lists in place of objects. All of them are read as
that snapshot, and its compact text is one of them.
-/

namespace QueryWarden.Schema

open QueryWarden.Json

/-! ## Forms -/

/-- How a column may be written: the key flag is left out for no key only. -/
def Column.forms : List (FieldForm Column) :=
  [⟨"name", fun column => StringText column.name, fun _ => False⟩,
   ⟨"dataType", fun column => StringText column.dataType, fun _ => False⟩,
   ⟨"nullable", fun column => BoolText column.nullable, fun _ => False⟩,
   ⟨"isPrimaryKey", fun column => BoolText column.isPrimaryKey,
    fun column => column.isPrimaryKey = false⟩]

/-- How a foreign key may be written. -/
def ForeignKey.forms : List (FieldForm ForeignKey) :=
  [⟨"column", fun key => StringText key.column, fun _ => False⟩,
   ⟨"referencedTable", fun key => StringText key.referencedTable, fun _ => False⟩,
   ⟨"referencedColumn", fun key => StringText key.referencedColumn, fun _ => False⟩]

/-- How a table may be written: the foreign keys are left out only if there are none. -/
def Table.forms : List (FieldForm Table) :=
  [⟨"name", fun table => StringText table.name, fun _ => False⟩,
   ⟨"schema", fun table => StringText table.space, fun _ => False⟩,
   ⟨"columns", fun table => ListText (RecordText Column.forms) table.columns, fun _ => False⟩,
   ⟨"foreignKeys", fun table => ListText (RecordText ForeignKey.forms) table.foreignKeys,
    fun table => table.foreignKeys = []⟩]

/-- How a snapshot may be written. -/
def Snapshot.forms : List (FieldForm Snapshot) :=
  [⟨"tables", fun snapshot => ListText (RecordText Table.forms) snapshot.tables, fun _ => False⟩]

/-- The documents of a snapshot. -/
inductive Snapshot.IsDocument (snapshot : Snapshot) : List Char → Prop
  | mk {before text after : List Char} (hbefore : IsGap before)
      (htext : RecordText Snapshot.forms snapshot text) (hafter : IsGap after) :
      snapshot.IsDocument (before ++ (text ++ after))

/-! ## Reading -/

/-- A column agrees with the wanted one in the field at an index. -/
def Column.AgreesAt (goal : Column) : Nat → Column → Prop
  | 0, record => record.name = goal.name
  | 1, record => record.dataType = goal.dataType
  | 2, record => record.nullable = goal.nullable
  | 3, record => record.isPrimaryKey = goal.isPrimaryKey
  | _, _ => True

theorem columnShape_matches (column : Column) :
    columnShape.Matches Column.forms 1 column.AgreesAt default column where
  length_eq := rfl
  names := by decide
  fields := by
    rintro (_ | _ | _ | _ | _) field form ⟨⟩ ⟨⟩
    -- Each value is put into its own field of the record and no other.
    · refine Field.required_matches id (fun _ => stringDecoder_takes) ?_
      rintro record (_ | _ | _ | _ | _) (⟨⟨⟩⟩ | hagrees) <;> first | rfl | exact hagrees
    · refine Field.required_matches id (fun _ => stringDecoder_takes) ?_
      rintro record (_ | _ | _ | _ | _) (⟨⟨⟩⟩ | hagrees) <;> first | rfl | exact hagrees
    · refine Field.required_matches id (fun _ => boolDecoder_takes) ?_
      rintro record (_ | _ | _ | _ | _) (⟨⟨⟩⟩ | hagrees) <;> first | rfl | exact hagrees
    · refine Field.optional_matches Eq.symm (fun _ => boolDecoder_takes) ?_
      rintro record (_ | _ | _ | _ | _) (⟨⟨⟩⟩ | hagrees) <;> first | rfl | exact hagrees
  eq_goal := by
    intro record hagrees
    obtain ⟨_, _, _, _⟩ := record
    obtain rfl := hagrees 0 (by decide)
    obtain rfl := hagrees 1 (by decide)
    obtain rfl := hagrees 2 (by decide)
    obtain rfl := hagrees 3 (by decide)
    rfl

/-- A foreign key agrees with the wanted one in the field at an index. -/
def ForeignKey.AgreesAt (goal : ForeignKey) : Nat → ForeignKey → Prop
  | 0, record => record.column = goal.column
  | 1, record => record.referencedTable = goal.referencedTable
  | 2, record => record.referencedColumn = goal.referencedColumn
  | _, _ => True

theorem foreignKeyShape_matches (key : ForeignKey) :
    foreignKeyShape.Matches ForeignKey.forms 1 key.AgreesAt default key where
  length_eq := rfl
  names := by decide
  fields := by
    rintro (_ | _ | _ | _) field form ⟨⟩ ⟨⟩
    · refine Field.required_matches id (fun _ => stringDecoder_takes) ?_
      rintro record (_ | _ | _ | _) (⟨⟨⟩⟩ | hagrees) <;> first | rfl | exact hagrees
    · refine Field.required_matches id (fun _ => stringDecoder_takes) ?_
      rintro record (_ | _ | _ | _) (⟨⟨⟩⟩ | hagrees) <;> first | rfl | exact hagrees
    · refine Field.required_matches id (fun _ => stringDecoder_takes) ?_
      rintro record (_ | _ | _ | _) (⟨⟨⟩⟩ | hagrees) <;> first | rfl | exact hagrees
  eq_goal := by
    intro record hagrees
    obtain ⟨_, _, _⟩ := record
    obtain rfl := hagrees 0 (by decide)
    obtain rfl := hagrees 1 (by decide)
    obtain rfl := hagrees 2 (by decide)
    rfl

/-- A table agrees with the wanted one in the field at an index. -/
def Table.AgreesAt (goal : Table) : Nat → Table → Prop
  | 0, record => record.name = goal.name
  | 1, record => record.space = goal.space
  | 2, record => record.columns = goal.columns
  | 3, record => record.foreignKeys = goal.foreignKeys
  | _, _ => True

theorem tableShape_matches (table : Table) :
    tableShape.Matches Table.forms 3 table.AgreesAt default table where
  length_eq := rfl
  names := by decide
  fields := by
    have hcolumns : ∀ columns text, ListText (RecordText Column.forms) columns text →
        (listDecoder (columnShape.decoder default)).Takes 3 text columns :=
      fun _ _ htext =>
        htext.takes (fun column _ => (columnShape_matches column).takes le_rfl) one_le_two
    have hkeys : ∀ keys text, ListText (RecordText ForeignKey.forms) keys text →
        (listDecoder (foreignKeyShape.decoder default)).Takes 3 text keys :=
      fun _ _ htext =>
        htext.takes (fun key _ => (foreignKeyShape_matches key).takes le_rfl) one_le_two
    rintro (_ | _ | _ | _ | _) field form ⟨⟩ ⟨⟩
    · refine Field.required_matches id (fun _ => stringDecoder_takes) ?_
      rintro record (_ | _ | _ | _ | _) (⟨⟨⟩⟩ | hagrees) <;> first | rfl | exact hagrees
    · refine Field.required_matches id (fun _ => stringDecoder_takes) ?_
      rintro record (_ | _ | _ | _ | _) (⟨⟨⟩⟩ | hagrees) <;> first | rfl | exact hagrees
    · refine Field.required_matches id (hcolumns table.columns) ?_
      rintro record (_ | _ | _ | _ | _) (⟨⟨⟩⟩ | hagrees) <;> first | rfl | exact hagrees
    · refine Field.optional_matches Eq.symm (hkeys table.foreignKeys) ?_
      rintro record (_ | _ | _ | _ | _) (⟨⟨⟩⟩ | hagrees) <;> first | rfl | exact hagrees
  eq_goal := by
    intro record hagrees
    obtain ⟨_, _, _, _⟩ := record
    obtain rfl := hagrees 0 (by decide)
    obtain rfl := hagrees 1 (by decide)
    obtain rfl := hagrees 2 (by decide)
    obtain rfl := hagrees 3 (by decide)
    rfl

theorem snapshotShape_matches (snapshot : Snapshot) :
    snapshotShape.Matches Snapshot.forms 5
      (fun index record => index = 0 → record.tables = snapshot.tables) default snapshot where
  length_eq := rfl
  names := by decide
  fields := by
    have htables : ∀ tables text, ListText (RecordText Table.forms) tables text →
        (listDecoder (tableShape.decoder default)).Takes 5 text tables :=
      fun _ _ htext => htext.takes (fun table _ => (tableShape_matches table).takes (by decide))
        (by decide)
    rintro (_ | _) field form ⟨⟩ ⟨⟩
    exact Field.required_matches id (htables snapshot.tables) fun _ _ _ _ => rfl
  eq_goal := by
    intro record hagrees
    obtain ⟨_⟩ := record
    obtain rfl := hagrees 0 (by decide) rfl
    rfl

/-- Every document of a snapshot is read as that snapshot. -/
theorem Snapshot.IsDocument.reads {snapshot : Snapshot} {text : List Char}
    (hdocument : snapshot.IsDocument text) : snapshotDecoder.document text = .ok snapshot := by
  obtain ⟨hbefore, htext, hafter⟩ := hdocument
  have htakes := (snapshotShape_matches snapshot).takes (by decide) htext
  exact htakes.document (by decide) hbefore hafter

/-! ## Writing -/

theorem Column.recordText_render (column : Column) :
    RecordText Column.forms column column.toValue.render :=
  Json.recordText_render (by decide) <|
    .cons ⟨rfl, stringText_render _⟩ <| .cons ⟨rfl, stringText_render _⟩ <|
    .cons ⟨rfl, boolText_render _⟩ <| .cons ⟨rfl, boolText_render _⟩ .nil

theorem ForeignKey.recordText_render (key : ForeignKey) :
    RecordText ForeignKey.forms key key.toValue.render :=
  Json.recordText_render (by decide) <|
    .cons ⟨rfl, stringText_render _⟩ <| .cons ⟨rfl, stringText_render _⟩ <|
    .cons ⟨rfl, stringText_render _⟩ .nil

theorem Table.recordText_render (table : Table) :
    RecordText Table.forms table table.toValue.render :=
  Json.recordText_render (by decide) <|
    .cons ⟨rfl, stringText_render _⟩ <| .cons ⟨rfl, stringText_render _⟩ <|
    .cons ⟨rfl, listText_render fun column _ => column.recordText_render⟩ <|
    .cons ⟨rfl, listText_render fun key _ => key.recordText_render⟩ .nil

/-- The compact text of a snapshot is one of its documents. -/
theorem Snapshot.isDocument_render (snapshot : Snapshot) :
    snapshot.IsDocument snapshot.toValue.render := by
  have htext : RecordText Snapshot.forms snapshot snapshot.toValue.render :=
    Json.recordText_render (by decide) <|
      .cons ⟨rfl, listText_render fun table _ => table.recordText_render⟩ .nil
  have hdocument := Snapshot.IsDocument.mk .nil htext .nil
  rwa [List.nil_append, List.append_nil] at hdocument

/-! ## Both ways -/

/-- Reading what is written for a snapshot gives it back, whether it was made or read before, and so
does reading any of its documents. -/
structure Snapshot.RoundTrips (snapshot : Snapshot) : Prop where
  written : Snapshot.ofText? snapshot.toValue.compact = .ok snapshot
  reread : ∀ text, Snapshot.ofText? text = .ok snapshot →
    Snapshot.ofText? snapshot.toValue.compact = Snapshot.ofText? text
  documents : ∀ text : String, snapshot.IsDocument text.toList →
    Snapshot.ofText? text = .ok snapshot

theorem Snapshot.roundTrips (snapshot : Snapshot) : snapshot.RoundTrips := by
  have hwritten : Snapshot.ofText? snapshot.toValue.compact = .ok snapshot := by
    rw [Snapshot.ofText?, Value.compact, String.toList_ofList]
    exact snapshot.isDocument_render.reads
  exact {
    written := hwritten
    reread := fun text hread => hwritten.trans hread.symm
    documents := fun text hdocument => hdocument.reads }

/-- A snapshot and a table are lists, the table has no foreign keys, and the members of a column
come in another order, with an escape in a name, an unknown member and no key flag. -/
example : (Snapshot.ofText? ("[ [[\"t\",\"\", [\x7b\"nullable\":true,\"\\u006eame\":\"c\"," ++
    "\"x\":[1e3,null],\"dataType\":\"int\"\x7d]]]]\n")).toOption =
      some ⟨[⟨"t", "", [⟨"c", "int", true, false⟩], []⟩]⟩ := by
  decide +kernel

end QueryWarden.Schema
