import QueryWarden.Proofs.Lookup
import QueryWarden.Proofs.Outcome
import QueryWarden.Proofs.Text.Order
import QueryWarden.Targets.Source
import Mathlib.Data.List.Sort

/-!
# Introspection

What an introspected snapshot is, in terms of the rows that a catalogue answers with: the tables
that are listed, each once and in the order of their bytes, with the columns and foreign keys whose
rows name them, in the order of the rows. Row by row the tables in hand are those of the rows so
far. There is only one such snapshot, so the drivers agree, and how often or in which order tables
and keys are listed does not matter.
-/

namespace QueryWarden.Database

open QueryWarden.Schema

/-! ## Order of tables -/

/-- A table comes before another one: its namespace has the smaller bytes, or its name within the
same namespace. -/
def TableKey.Precedes (key other : TableKey) : Prop :=
  Bytes.encodeText key.space.toList < Bytes.encodeText other.space.toList ∨
    key.space = other.space ∧
      Bytes.encodeText key.name.toList < Bytes.encodeText other.name.toList

namespace TableKey

theorem before_iff {key other : TableKey} : key.before other = true ↔ key.Precedes other := by
  rw [before, Precedes]
  split
  next hspace =>
    rw [Text.textLess_iff, hspace]
    simp [List.lt_irrefl]
  next hspace =>
    rw [Text.textLess_iff]
    simp [hspace]

instance : Std.Irrefl Precedes where
  irrefl key hkey := by
    rcases hkey with hspace | ⟨-, hname⟩
    · exact List.lt_irrefl _ hspace
    · exact List.lt_irrefl _ hname

theorem Precedes.trans {first second third : TableKey} (hfirst : first.Precedes second)
    (hsecond : second.Precedes third) : first.Precedes third := by
  rcases hfirst with hspace | ⟨hspace, hname⟩
  · rcases hsecond with hspace' | ⟨hspace', -⟩
    · exact .inl (List.lt_trans hspace hspace')
    · exact .inl (hspace' ▸ hspace)
  · rcases hsecond with hspace' | ⟨hspace', hname'⟩
    · exact .inl (hspace ▸ hspace')
    · exact .inr ⟨hspace.trans hspace', List.lt_trans hname hname'⟩

instance : IsTrans TableKey Precedes where
  trans _ _ _ := Precedes.trans

theorem precedes_trichotomy (key other : TableKey) :
    key.Precedes other ∨ key = other ∨ other.Precedes key := by
  obtain ⟨space, name⟩ := key
  obtain ⟨space', name'⟩ := other
  simp only [Precedes, ← Text.textLess_iff, TableKey.mk.injEq]
  rcases Text.textLess_trichotomy space.toList space'.toList with hless | heq | hgreater
  · exact .inl (.inl hless)
  · obtain rfl := String.toList_inj.mp heq
    rcases Text.textLess_trichotomy name.toList name'.toList with hless | heq | hgreater
    · exact .inl (.inr ⟨rfl, hless⟩)
    · exact .inr (.inl ⟨rfl, String.toList_inj.mp heq⟩)
    · exact .inr (.inr (.inr ⟨rfl, hgreater⟩))
  · exact .inr (.inr (.inl hgreater))

end TableKey

/-! ## Tables by key -/

namespace TableMap

variable {key other : TableKey} {table : Table} {tables : TableMap}

theorem mem_keys_put_iff :
    other ∈ (tables.put key table).map Prod.fst ↔ other = key ∨ other ∈ tables.map Prod.fst := by
  induction tables with
  | nil => simp [put]
  | cons first tables ih =>
      rw [put]
      split
      next hkey => simp [hkey]
      next =>
        split
        · rw [List.map_cons, List.mem_cons]
        · rw [List.map_cons, List.mem_cons, ih, List.map_cons, List.mem_cons, or_left_comm]

/-- Putting a table keeps the keys in order. -/
theorem pairwise_put (htables : (tables.map Prod.fst).Pairwise TableKey.Precedes) :
    ((tables.put key table).map Prod.fst).Pairwise TableKey.Precedes := by
  induction tables with
  | nil => simp [put]
  | cons first tables ih =>
      obtain ⟨hfirst, hrest⟩ := List.pairwise_cons.mp htables
      rw [put]
      split
      next hkey => exact hkey ▸ htables
      next hne =>
        split
        next hbefore =>
          have hless := TableKey.before_iff.mp hbefore
          refine List.pairwise_cons.mpr ⟨?_, htables⟩
          refine List.forall_mem_cons.mpr ⟨hless, fun other hother => ?_⟩
          exact hless.trans (hfirst other hother)
        next hbefore =>
          have hgreater : first.1.Precedes key := by
            rcases TableKey.precedes_trichotomy key first.1 with hless | heq | hgreater
            · exact absurd (TableKey.before_iff.mpr hless) hbefore
            · exact absurd heq hne
            · exact hgreater
          refine List.pairwise_cons.mpr ⟨fun other hother => ?_, ih hrest⟩
          rcases mem_keys_put_iff.mp hother with rfl | hother
          · exact hgreater
          · exact hfirst other hother

/-- Putting a table changes what is under its key and nothing else. -/
theorem lookup_put :
    (tables.put key table).lookup other = if other = key then some table
      else tables.lookup other := by
  induction tables with
  | nil => exact lookup_cons (key, table) [] other
  | cons first tables ih =>
      rw [put]
      split
      next hfirst =>
        rw [lookup_cons, lookup_cons, hfirst]
        split <;> rfl
      next hfirst =>
        split
        · exact lookup_cons _ _ other
        · rw [lookup_cons, ih, lookup_cons]
          by_cases hother : other = first.1
          · have hskip : ¬ other = key := hother ▸ Ne.symm hfirst
            rw [if_pos hother, if_neg hskip, if_pos hother]
          · rw [if_neg hother, if_neg hother]

end TableMap

/-! ## Grouping -/

/-- The namespace and the name of a table of a snapshot. -/
def tableKey (table : Table) : TableKey :=
  ⟨table.space, table.name⟩

/-- A column of a snapshot is what a row tells: a primary key when the keys list it, and nullable
when it is none and the row says so. -/
structure Describes (primaryKeys : List KeyEntry) (entry : ColumnEntry) (column : Column) :
    Prop where
  name : column.name = entry.column
  dataType : column.dataType = entry.dataType
  isPrimaryKey_iff : column.isPrimaryKey = true ↔ ⟨entry.table, entry.column⟩ ∈ primaryKeys
  nullable_iff : column.nullable = true ↔
    ⟨entry.table, entry.column⟩ ∉ primaryKeys ∧ entry.nullable = "YES"

/-- The table has the columns and the foreign keys of its rows, in the order of the rows. -/
structure Catalogue.Gathers (catalogue : Catalogue) (table : Table) : Prop where
  columns : List.Forall₂ (Describes catalogue.primaryKeys)
    (catalogue.columns.filter fun entry => entry.table = tableKey table) table.columns
  foreignKeys : table.foreignKeys =
    (catalogue.foreignKeys.filter fun entry => entry.table = tableKey table).map ForeignKeyEntry.key

/-- The snapshot has the tables that are listed, in order and each once, with the columns and
foreign keys of their rows. -/
structure Catalogue.GroupedAs (catalogue : Catalogue) (snapshot : Snapshot) : Prop where
  ordered : (snapshot.tables.map tableKey).Pairwise TableKey.Precedes
  listed : ∀ key, key ∈ snapshot.tables.map tableKey ↔ key ∈ catalogue.tables
  gathered : ∀ table ∈ snapshot.tables, catalogue.Gathers table

/-! ## Going through the rows -/

/-- The draft has what the catalogue lists: the tables under their keys and in order, each as the
rows about it make it. -/
structure SchemaDraft.Holds (draft : SchemaDraft) (catalogue : Catalogue) : Prop where
  ordered : (draft.tables.map Prod.fst).Pairwise TableKey.Precedes
  listed : ∀ key, key ∈ draft.tables.map Prod.fst ↔ key ∈ catalogue.tables
  primaryKeys : ∀ entry, entry ∈ draft.primaryKeys ↔ entry ∈ catalogue.primaryKeys
  gathered : ∀ key table, draft.tables.lookup key = some table →
    tableKey table = key ∧ catalogue.Gathers table

namespace SchemaDraft

variable {draft : SchemaDraft} {catalogue next : Catalogue} {tables : List TableKey}
  {primaryKeys : List KeyEntry} {columns : List ColumnEntry} {foreignKeys : List ForeignKeyEntry}

theorem holds_default : (default : SchemaDraft).Holds ⟨[], [], [], []⟩ :=
  ⟨.nil, fun _ => Iff.rfl, fun _ => Iff.rfl, nofun⟩

/-- A table that is listed again loses what it has, which is nothing as long as only tables and
primary keys are listed. -/
theorem Holds.addTable (hdraft : draft.Holds ⟨tables, primaryKeys, [], []⟩) (key : TableKey) :
    (draft.addTable key).Holds ⟨tables ++ [key], primaryKeys, [], []⟩ where
  ordered := TableMap.pairwise_put hdraft.ordered
  listed other := by
    rw [SchemaDraft.addTable, TableMap.mem_keys_put_iff, hdraft.listed, List.mem_append,
      List.mem_singleton, or_comm]
  primaryKeys := hdraft.primaryKeys
  gathered other table hfound := by
    rw [SchemaDraft.addTable, TableMap.lookup_put] at hfound
    split at hfound
    next hother =>
      obtain rfl := Option.some.inj hfound
      exact ⟨hother.symm, .nil, rfl⟩
    next =>
      obtain ⟨hkey, hgathers⟩ := hdraft.gathered other table hfound
      exact ⟨hkey, hgathers.columns, hgathers.foreignKeys⟩

/-- A primary key counts for the columns that are listed after it. -/
theorem Holds.addPrimaryKey (hdraft : draft.Holds ⟨tables, primaryKeys, [], foreignKeys⟩)
    (entry : KeyEntry) :
    (draft.addPrimaryKey entry).Holds ⟨tables, primaryKeys ++ [entry], [], foreignKeys⟩ where
  ordered := hdraft.ordered
  listed := hdraft.listed
  primaryKeys other := by
    rw [SchemaDraft.addPrimaryKey, List.mem_insert_iff, hdraft.primaryKeys, List.mem_append,
      List.mem_singleton, or_comm]
  gathered key table hfound := by
    obtain ⟨hkey, hgathers⟩ := hdraft.gathered key table hfound
    refine ⟨hkey, ?_, hgathers.foreignKeys⟩
    rw [List.forall₂_nil_left_iff.mp hgathers.columns]
    exact .nil

/-- A row about one table: that table is changed if it is listed, and no other. -/
theorem Holds.changeTable (hdraft : draft.Holds catalogue) {key : TableKey}
    {change : Table → Table} (htables : next.tables = catalogue.tables)
    (hprimary : next.primaryKeys = catalogue.primaryKeys)
    (hkey : ∀ table, tableKey (change table) = tableKey table)
    (hchange : ∀ table, tableKey table = key → catalogue.Gathers table →
      next.Gathers (change table))
    (hothers : ∀ table, tableKey table ≠ key → catalogue.Gathers table → next.Gathers table) :
    (draft.changeTable key change).Holds next := by
  cases hlookup : draft.tables.lookup key with
  | none =>
      have hsame : draft.changeTable key change = draft := by
        simp only [SchemaDraft.changeTable, hlookup]
      rw [hsame]
      refine ⟨hdraft.ordered, htables ▸ hdraft.listed, hprimary ▸ hdraft.primaryKeys, ?_⟩
      intro other table hfound
      obtain ⟨rfl, hgathers⟩ := hdraft.gathered other table hfound
      refine ⟨rfl, hothers table ?_ hgathers⟩
      rintro rfl
      rw [hlookup] at hfound
      cases hfound
  | some found =>
      have hput : draft.changeTable key change =
          { draft with tables := draft.tables.put key (change found) } := by
        simp only [SchemaDraft.changeTable, hlookup]
      rw [hput]
      refine ⟨TableMap.pairwise_put hdraft.ordered, fun other => ?_,
        hprimary ▸ hdraft.primaryKeys, fun other table hfound => ?_⟩
      · rw [TableMap.mem_keys_put_iff, hdraft.listed, htables, or_iff_right_iff_imp]
        rintro rfl
        exact (hdraft.listed other).mp (mem_keys_of_lookup hlookup)
      · rw [TableMap.lookup_put] at hfound
        split at hfound
        next hother =>
          obtain rfl := Option.some.inj hfound
          obtain ⟨hfoundKey, hgathers⟩ := hdraft.gathered key found hlookup
          exact ⟨(hkey found).trans (hfoundKey.trans hother.symm), hchange found hfoundKey hgathers⟩
        next hother =>
          obtain ⟨rfl, hgathers⟩ := hdraft.gathered other table hfound
          exact ⟨rfl, hothers table hother hgathers⟩

/-- The column that a row makes is the one it tells of. -/
theorem Holds.describes_column (hdraft : draft.Holds catalogue) (entry : ColumnEntry) :
    Describes catalogue.primaryKeys entry (draft.column entry) := by
  have hcontains : draft.primaryKeys.contains ⟨entry.table, entry.column⟩ = true ↔
      ⟨entry.table, entry.column⟩ ∈ catalogue.primaryKeys :=
    List.contains_iff_mem.trans (hdraft.primaryKeys _)
  rw [SchemaDraft.column]
  split
  next hkey =>
    have hmem := hcontains.mp hkey
    exact ⟨rfl, rfl, by simpa [Column.asPrimaryKey] using hmem,
      by simp [Column.asPrimaryKey, hmem]⟩
  next hkey =>
    have hmem := (not_congr hcontains).mp hkey
    exact ⟨rfl, rfl, by simp [Column.plain, hmem], by simp [Column.plain, hmem]⟩

theorem Holds.addColumn (hdraft : draft.Holds ⟨tables, primaryKeys, columns, foreignKeys⟩)
    (entry : ColumnEntry) :
    (draft.addColumn entry).Holds ⟨tables, primaryKeys, columns ++ [entry], foreignKeys⟩ := by
  refine hdraft.changeTable rfl rfl (fun _ => rfl) ?_ ?_
  · intro table hkey hgathers
    refine ⟨?_, hgathers.foreignKeys⟩
    have hentry : entry.table = tableKey (table.withColumn (draft.column entry)) := hkey.symm
    rw [List.filter_append, List.filter_singleton, decide_eq_true hentry]
    exact List.rel_append hgathers.columns (.cons (hdraft.describes_column entry) .nil)
  · intro table hkey hgathers
    refine ⟨?_, hgathers.foreignKeys⟩
    rw [List.filter_append, List.filter_singleton, decide_eq_false (Ne.symm hkey),
      cond_false, List.append_nil]
    exact hgathers.columns

theorem Holds.addForeignKey (hdraft : draft.Holds ⟨tables, primaryKeys, columns, foreignKeys⟩)
    (entry : ForeignKeyEntry) :
    (draft.addForeignKey entry).Holds ⟨tables, primaryKeys, columns, foreignKeys ++ [entry]⟩ := by
  refine hdraft.changeTable rfl rfl (fun _ => rfl) ?_ ?_
  · intro table hkey hgathers
    refine ⟨hgathers.columns, ?_⟩
    have hentry : entry.table = tableKey (table.withForeignKey entry.key) := hkey.symm
    rw [List.filter_append, List.filter_singleton, decide_eq_true hentry, List.map_append]
    exact congrArg (· ++ [entry.key]) hgathers.foreignKeys
  · intro table hkey hgathers
    refine ⟨hgathers.columns, ?_⟩
    rw [List.filter_append, List.filter_singleton, decide_eq_false (Ne.symm hkey),
      cond_false, List.append_nil]
    exact hgathers.foreignKeys

/-- What a row adds to what is held, all rows add. -/
theorem holds_foldl {α : Type} {add : SchemaDraft → α → SchemaDraft} (listed : List α → Catalogue)
    (hstep : ∀ draft rows row, Holds draft (listed rows) →
      (add draft row).Holds (listed (rows ++ [row])))
    (hdraft : draft.Holds (listed [])) (rows : List α) :
    (rows.foldl add draft).Holds (listed rows) := by
  induction rows using List.reverseRecOn with
  | nil => exact hdraft
  | append_singleton rows row ih =>
      rw [List.foldl_concat]
      exact hstep _ rows row ih

end SchemaDraft

open SchemaDraft in
/-- Question by question the draft comes to have all that is listed. -/
theorem Catalogue.holds_draft (catalogue : Catalogue) : catalogue.draft.Holds catalogue := by
  obtain ⟨tables, primaryKeys, columns, foreignKeys⟩ := catalogue
  have htables := holds_foldl (fun tables => ⟨tables, [], [], []⟩)
    (fun _ _ row hdraft => hdraft.addTable row) holds_default tables
  have hkeys := holds_foldl (fun primaryKeys => ⟨tables, primaryKeys, [], []⟩)
    (fun _ _ row hdraft => hdraft.addPrimaryKey row) htables primaryKeys
  have hcolumns := holds_foldl (fun columns => ⟨tables, primaryKeys, columns, []⟩)
    (fun _ _ row hdraft => hdraft.addColumn row) hkeys columns
  exact holds_foldl (fun foreignKeys => ⟨tables, primaryKeys, columns, foreignKeys⟩)
    (fun _ _ row hdraft => hdraft.addForeignKey row) hcolumns foreignKeys

/-! ## The one snapshot -/

section Snapshots

variable {draft : SchemaDraft} {catalogue other : Catalogue}

theorem SchemaDraft.Holds.nodup (hdraft : draft.Holds catalogue) :
    (draft.tables.map Prod.fst).Nodup := by
  refine hdraft.ordered.imp ?_
  rintro key other hless rfl
  exact Std.Irrefl.irrefl key hless

theorem SchemaDraft.Holds.tableKey_eq (hdraft : draft.Holds catalogue) {entry : TableKey × Table}
    (hmem : entry ∈ draft.tables) : tableKey entry.2 = entry.1 ∧ catalogue.Gathers entry.2 :=
  hdraft.gathered entry.1 entry.2 (lookup_of_mem hdraft.nodup hmem)

theorem SchemaDraft.Holds.snapshot_groupedAs (hdraft : draft.Holds catalogue) :
    catalogue.GroupedAs draft.snapshot := by
  have hkeys : draft.snapshot.tables.map tableKey = draft.tables.map Prod.fst := by
    rw [SchemaDraft.snapshot, List.map_map]
    exact List.map_congr_left fun entry hmem => (hdraft.tableKey_eq hmem).1
  refine ⟨hkeys ▸ hdraft.ordered, fun key => hkeys ▸ hdraft.listed key, ?_⟩
  intro table hmem
  obtain ⟨entry, hentry, rfl⟩ := List.mem_map.mp hmem
  exact (hdraft.tableKey_eq hentry).2

theorem Catalogue.snapshot_groupedAs (catalogue : Catalogue) :
    catalogue.GroupedAs catalogue.draft.snapshot :=
  catalogue.holds_draft.snapshot_groupedAs

theorem Describes.unique {primaryKeys : List KeyEntry} {entry : ColumnEntry}
    {column column' : Column} (hcolumn : Describes primaryKeys entry column)
    (hcolumn' : Describes primaryKeys entry column') : column = column' := by
  have hkey : column.isPrimaryKey = column'.isPrimaryKey :=
    Bool.eq_iff_iff.mpr (hcolumn.isPrimaryKey_iff.trans hcolumn'.isPrimaryKey_iff.symm)
  have hnullable : column.nullable = column'.nullable :=
    Bool.eq_iff_iff.mpr (hcolumn.nullable_iff.trans hcolumn'.nullable_iff.symm)
  obtain ⟨name, dataType, nullable, isPrimaryKey⟩ := column
  obtain ⟨name', dataType', nullable', isPrimaryKey'⟩ := column'
  obtain rfl := hcolumn.name.trans hcolumn'.name.symm
  obtain rfl := hcolumn.dataType.trans hcolumn'.dataType.symm
  obtain rfl := hkey
  obtain rfl := hnullable
  rfl

theorem Catalogue.Gathers.unique {table table' : Table} (hkey : tableKey table = tableKey table')
    (htable : catalogue.Gathers table) (htable' : catalogue.Gathers table') : table = table' := by
  obtain ⟨hcolumns, hforeign⟩ := htable
  obtain ⟨hcolumns', hforeign'⟩ := htable'
  rw [hkey] at hcolumns hforeign
  have hunique : Relator.RightUnique (Describes catalogue.primaryKeys) :=
    fun _ _ _ => Describes.unique
  have hsame : table.columns = table'.columns := hunique.forall₂ hcolumns hcolumns'
  obtain ⟨name, space, columns, foreignKeys⟩ := table
  obtain ⟨name', space', columns', foreignKeys'⟩ := table'
  obtain ⟨rfl, rfl⟩ := TableKey.mk.inj hkey
  exact congrArg₂ (Table.mk name space) hsame (hforeign.trans hforeign'.symm)

theorem Catalogue.GroupedAs.unique {snapshot snapshot' : Snapshot}
    (hgrouped : catalogue.GroupedAs snapshot) (hgrouped' : catalogue.GroupedAs snapshot') :
    snapshot = snapshot' := by
  have hsubset : ∀ {snapshot snapshot' : Snapshot}, catalogue.GroupedAs snapshot →
      catalogue.GroupedAs snapshot' → ∀ table ∈ snapshot.tables, table ∈ snapshot'.tables := by
    intro snapshot snapshot' hgrouped hgrouped' table hmem
    have hlisted := (hgrouped.listed _).mp (List.mem_map_of_mem hmem)
    obtain ⟨table', hmem', hkey⟩ := List.mem_map.mp ((hgrouped'.listed _).mpr hlisted)
    exact (hgrouped'.gathered table' hmem').unique hkey (hgrouped.gathered table hmem) ▸ hmem'
  have hordered := List.pairwise_map.mp hgrouped.ordered
  have hordered' := List.pairwise_map.mp hgrouped'.ordered
  refine congrArg Snapshot.mk
    (List.Pairwise.eq_of_mem_iff hordered hordered' ?_)
  exact fun table => ⟨hsubset hgrouped hgrouped' table, hsubset hgrouped' hgrouped table⟩

/-- Two catalogues list the same tables and the same primary keys, in whatever order and however
often, and have the same rows of columns and foreign keys. -/
structure Catalogue.SameRows (catalogue other : Catalogue) : Prop where
  tables : ∀ key, key ∈ other.tables ↔ key ∈ catalogue.tables
  primaryKeys : ∀ entry, entry ∈ other.primaryKeys ↔ entry ∈ catalogue.primaryKeys
  columns : other.columns = catalogue.columns
  foreignKeys : other.foreignKeys = catalogue.foreignKeys

theorem Catalogue.SameRows.groupedAs {snapshot : Snapshot} (hsame : catalogue.SameRows other)
    (hgrouped : catalogue.GroupedAs snapshot) : other.GroupedAs snapshot where
  ordered := hgrouped.ordered
  listed key := (hgrouped.listed key).trans (hsame.tables key).symm
  gathered table hmem := by
    obtain ⟨hcolumns, hforeign⟩ := hgrouped.gathered table hmem
    rw [← hsame.columns] at hcolumns
    rw [← hsame.foreignKeys] at hforeign
    refine ⟨hcolumns.imp ?_, hforeign⟩
    rintro entry column ⟨hname, htype, hkey, hnullable⟩
    exact ⟨hname, htype, hkey.trans (hsame.primaryKeys _).symm,
      hnullable.trans (and_congr_left' (not_congr (hsame.primaryKeys _).symm))⟩

end Snapshots

/-! ## Reading the rows -/

namespace Catalogue

variable {catalogue : Catalogue}

/-- The rows in which a catalogue is answered. -/
def rows (catalogue : Catalogue) : CatalogueQuery → List CatalogueRow
  | .tables => catalogue.tables.map fun key => [some key.space, some key.name]
  | .primaryKeys => catalogue.primaryKeys.map fun entry =>
      [some entry.table.space, some entry.table.name, some entry.column]
  | .columns => catalogue.columns.map fun entry =>
      [some entry.table.space, some entry.table.name, some entry.column, some entry.dataType,
        some entry.nullable]
  | .foreignKeys => catalogue.foreignKeys.map fun entry =>
      [some entry.table.space, some entry.table.name, some entry.key.column,
        some entry.key.referencedTable, some entry.key.referencedColumn]

theorem cell_some (reading : NullReading) {row : CatalogueRow} {index : Nat} {text : String}
    (hcell : row[index]? = some (some text)) : reading.cell row index = .ok text := by
  simp only [NullReading.cell, hcell, Option.join_some]

theorem tableKey_row (reading : NullReading) (key : TableKey) (row : CatalogueRow) :
    reading.tableKey (some key.space :: some key.name :: row) = .ok key := by
  rw [NullReading.tableKey, cell_some reading rfl, ok_bind, cell_some reading rfl]
  rfl

section Reading

variable (reading : NullReading) (draft : SchemaDraft)

theorem addTable_row (key : TableKey) :
    reading.addTable draft [some key.space, some key.name] = .ok (draft.addTable key) := by
  rw [NullReading.addTable, tableKey_row]
  rfl

theorem addPrimaryKey_row (entry : KeyEntry) :
    reading.addPrimaryKey draft [some entry.table.space, some entry.table.name, some entry.column] =
      .ok (draft.addPrimaryKey entry) := by
  rw [NullReading.addPrimaryKey, tableKey_row, ok_bind, cell_some reading rfl]
  rfl

theorem addColumn_row (entry : ColumnEntry) :
    reading.addColumn draft [some entry.table.space, some entry.table.name, some entry.column,
      some entry.dataType, some entry.nullable] = .ok (draft.addColumn entry) := by
  rw [NullReading.addColumn, tableKey_row, ok_bind, cell_some reading rfl, ok_bind,
    cell_some reading rfl, ok_bind, cell_some reading rfl]
  rfl

/-- A row that is complete is taken alike, whether it is read to the end at once or only when its
table is found. -/
theorem addFoundColumn_eq_addColumn {row : CatalogueRow} {dataType nullable : String}
    (hdataType : reading.cell row 3 = .ok dataType)
    (hnullable : reading.cell row 4 = .ok nullable) :
    reading.addFoundColumn draft row = reading.addColumn draft row := by
  rw [NullReading.addFoundColumn, NullReading.addColumn, hdataType, hnullable]
  refine bind_congr fun table => bind_congr fun column => ?_
  cases hlookup : draft.tables.lookup table with
  | none => simp only [ok_bind, SchemaDraft.addColumn, SchemaDraft.changeTable, hlookup]
  | some found => rfl

theorem addForeignKey_row (entry : ForeignKeyEntry) :
    reading.addForeignKey draft [some entry.table.space, some entry.table.name,
      some entry.key.column, some entry.key.referencedTable, some entry.key.referencedColumn] =
        .ok (draft.addForeignKey entry) := by
  rw [NullReading.addForeignKey, tableKey_row, ok_bind, cell_some reading rfl,
    cell_some reading rfl, cell_some reading rfl]
  cases hlookup : draft.tables.lookup entry.table with
  | none => simp only [SchemaDraft.addForeignKey, SchemaDraft.changeTable, hlookup]
  | some found => rfl

/-- Rows that are all read are gone through to the end. -/
theorem foldlM_map_ok {α : Type} {write : α → CatalogueRow}
    {read : SchemaDraft → CatalogueRow → Except Failure SchemaDraft}
    {add : SchemaDraft → α → SchemaDraft}
    (hread : ∀ draft row, read draft (write row) = .ok (add draft row)) (rows : List α) :
    (rows.map write).foldlM read draft = .ok (rows.foldl add draft) := by
  induction rows generalizing draft with
  | nil => rfl
  | cons row rows ih =>
      rw [List.map_cons, List.foldlM_cons, hread, ok_bind, ih]
      rfl

end Reading

end Catalogue

end QueryWarden.Database

namespace QueryWarden.Targets

open QueryWarden.Database QueryWarden.Schema

variable {around : Surroundings} {engine : Engine} {connectionString : String}
  {catalogue : Catalogue}

/-- The server behind a connection string is reached, lets the client in and answers the questions
about its catalogue. -/
structure Lists (around : Surroundings) (engine : Engine) (connectionString : String)
    (catalogue : Catalogue) : Prop where
  connects : connect engine around.network connectionString around.server = .ok ()
  replies : ∀ query, around.server.reply (engine.catalogueStatement query) = .done
  rows : ∀ query, around.server.catalogue query = catalogue.rows query

/-- At last it lets the client go, too. -/
structure Answers (around : Surroundings) (engine : Engine) (connectionString : String)
    (catalogue : Catalogue) : Prop extends Lists around engine connectionString catalogue where
  leaves : takeLeave engine around.server = .ok ()

/-- A question that is answered is read, and the next one asked. -/
theorem askCatalogue_cons {server : Server} {query : CatalogueQuery} {draft next : SchemaDraft}
    (hreply : server.reply (engine.catalogueStatement query) = .done)
    (hread : (server.catalogue query).foldlM (engine.readRow query) draft = .ok next)
    (queries : List CatalogueQuery) :
    (askCatalogue engine server (query :: queries) draft).outcome =
      (askCatalogue engine server queries next).outcome := by
  simp only [askCatalogue, hreply, hread]

/-- The columns are read alike by all drivers, as their rows are complete. -/
theorem readRow_column (engine : Engine) (draft : SchemaDraft) (entry : ColumnEntry) :
    engine.readRow .columns draft [some entry.table.space, some entry.table.name,
      some entry.column, some entry.dataType, some entry.nullable] =
        .ok (draft.addColumn entry) := by
  cases engine with
  | postgreSql | mySql => exact Catalogue.addColumn_row _ draft entry
  | sqlServer =>
      have hread := Catalogue.addColumn_row .asEmpty draft entry
      rwa [← Catalogue.addFoundColumn_eq_addColumn .asEmpty draft (Catalogue.cell_some _ rfl)
        (Catalogue.cell_some _ rfl)] at hread

/-- All that is asked is answered, and the draft that comes of it is kept unless the leave fails. -/
theorem Lists.introspect_eq (hlists : Lists around engine connectionString catalogue) :
    (Source.remote engine connectionString).introspect around =
      (takeLeave engine around.server).map fun () => catalogue.draft.snapshot := by
  have hnext : ∀ query queries draft next,
      (catalogue.rows query).foldlM (engine.readRow query) draft = .ok next →
        (askCatalogue engine around.server (query :: queries) draft).outcome =
          (askCatalogue engine around.server queries next).outcome := by
    intro query queries draft next hread
    rw [← hlists.rows] at hread
    exact askCatalogue_cons (hlists.replies query) hread queries
  have hasked : (askCatalogue engine around.server
      [.tables, .primaryKeys, .columns, .foreignKeys] default).outcome = .ok catalogue.draft := by
    rw [hnext .tables _ _ _ (Catalogue.foldlM_map_ok _ (Catalogue.addTable_row _) _),
      hnext .primaryKeys _ _ _ (Catalogue.foldlM_map_ok _ (Catalogue.addPrimaryKey_row _) _),
      hnext .columns _ _ _ (Catalogue.foldlM_map_ok _ (readRow_column engine) _),
      hnext .foreignKeys _ _ _ (Catalogue.foldlM_map_ok _ (Catalogue.addForeignKey_row _) _)]
    rfl
  rw [Source.introspect, introspectRemote, hlists.connects]
  simp only [introspectServer, hasked, ok_bind]
  cases takeLeave engine around.server <;> rfl

/-- A snapshot is lost with the leave that PostgreSQL's and MySQL's drivers take. -/
theorem Lists.introspect_of_farewell (hlists : Lists around engine connectionString catalogue)
    (hengine : engine ≠ .sqlServer) {reason : String}
    (hreason : around.server.farewell = some reason) :
    (Source.remote engine connectionString).introspect around =
      .error (.failure (engine.networkFailure reason)) := by
  have htakes : engine.takesLeave = true := by
    cases engine with
    | postgreSql | mySql => rfl
    | sqlServer => exact absurd rfl hengine
  rw [hlists.introspect_eq]
  simp only [takeLeave, htakes, hreason]
  rfl

/-- Every engine gives the one snapshot that the rows of its catalogue are grouped as, also when
tables and keys are listed in another order or more than once. -/
theorem introspect_groupsRows (catalogue : Catalogue) :
    ∃ snapshot, catalogue.GroupedAs snapshot ∧
      ∀ other, catalogue.SameRows other →
        ∀ (around : Surroundings) (engine : Engine) (connectionString : String),
          Answers around engine connectionString other →
            (Source.remote engine connectionString).introspect around = .ok snapshot := by
  refine ⟨catalogue.draft.snapshot, catalogue.snapshot_groupedAs, ?_⟩
  intro other hsame around engine connectionString hanswers
  have hsnapshot := (hsame.groupedAs catalogue.snapshot_groupedAs).unique other.snapshot_groupedAs
  rw [hanswers.introspect_eq, hanswers.leaves, hsnapshot]
  rfl

/-- A shop's catalogue is read alike from all engines, with its tables listed out of order and
twice, its keys twice, and a foreign key of a table that is not listed. -/
theorem introspect_shop_alike :
    let orders : TableKey := ⟨"shop", "orders"⟩
    let customers : TableKey := ⟨"shop", "customers"⟩
    let columns : List ColumnEntry := [⟨orders, "id", "integer", "YES"⟩,
      ⟨customers, "name", "text", "YES"⟩, ⟨⟨"old", "orders"⟩, "id", "integer", "NO"⟩]
    let foreignKeys : List ForeignKeyEntry := [⟨orders, "customer", "customers", "name"⟩,
      ⟨⟨"old", "orders"⟩, "id", "orders", "id"⟩]
    let catalogue : Catalogue := ⟨[customers, orders], [⟨orders, "id"⟩], columns, foreignKeys⟩
    let other : Catalogue :=
      ⟨[orders, customers, orders], [⟨orders, "id"⟩, ⟨orders, "id"⟩], columns, foreignKeys⟩
    let around : Surroundings :=
      ⟨[], fun _ _ => none, .refusing "", none, fun _ => none, fun _ => false, other.rows, none,
        none⟩
    ∃ snapshot, catalogue.GroupedAs snapshot ∧
      (Source.remote .postgreSql "postgres://db/shop").introspect around = .ok snapshot ∧
      (Source.remote .mySql "mysql://db/shop").introspect around = .ok snapshot ∧
      (Source.remote .sqlServer "Server=db;User Id=sa;Password=x").introspect around =
        .ok snapshot := by
  intro orders customers columns foreignKeys catalogue other around
  obtain ⟨snapshot, hgrouped, hgives⟩ := introspect_groupsRows catalogue
  have hsame : catalogue.SameRows other :=
    ⟨fun key => by simp [catalogue, other]; tauto, fun entry => by simp [catalogue, other], rfl,
      rfl⟩
  exact ⟨snapshot, hgrouped,
    hgives other hsame around .postgreSql _ ⟨⟨rfl, fun _ => rfl, fun _ => rfl⟩, rfl⟩,
    hgives other hsame around .mySql _ ⟨⟨rfl, fun _ => rfl, fun _ => rfl⟩, rfl⟩,
    hgives other hsame around .sqlServer _ ⟨⟨rfl, fun _ => rfl, fun _ => rfl⟩, rfl⟩⟩

end QueryWarden.Targets
