import QueryWarden.Proofs.Lookup
import QueryWarden.Proofs.Outcome
import QueryWarden.Targets.Source
import Mathlib.Data.List.Forall2
import Mathlib.Data.List.Induction
import Mathlib.Data.List.Nodup

/-!
# Results of queries on servers

What becomes of the rows that a server answers with, whatever the packages make of their cells. A
row of a result is an object with the names of the columns as its keys. So a name that several
columns share stands in it once, at the place of the first and with the value of the last, and with
the names all different nothing is lost.
-/

namespace QueryWarden.Json

/-! ## Members of an object -/

theorem keys_setMember (name : String) (value : Value) (members : List (String × Value)) :
    (setMember name value members).map Prod.fst =
      if name ∈ members.map Prod.fst then members.map Prod.fst
      else members.map Prod.fst ++ [name] := by
  induction members with
  | nil => rfl
  | cons member members ih =>
      rw [setMember]
      by_cases hname : member.1 = name
      · simp [hname]
      · have hother : name ≠ member.1 := Ne.symm hname
        rw [if_neg hname, List.map_cons, ih, List.map_cons]
        by_cases hmem : name ∈ members.map Prod.fst
        · rw [if_pos hmem, if_pos (List.mem_cons_of_mem _ hmem)]
        · rw [if_neg hmem, if_neg (List.not_mem_cons_of_ne_of_not_mem hother hmem),
            List.cons_append]

theorem lookup_setMember (name other : String) (value : Value)
    (members : List (String × Value)) :
    (setMember name value members).lookup other =
      if other = name then some value else members.lookup other := by
  induction members with
  | nil => exact lookup_cons (name, value) [] other
  | cons member members ih =>
      rw [setMember]
      by_cases hname : member.1 = name
      · rw [if_pos hname, lookup_cons, lookup_cons, hname]
        by_cases hother : other = name <;> simp [hother]
      · rw [if_neg hname, lookup_cons, lookup_cons, ih]
        by_cases hother : other = member.1
        · have hskip : ¬ other = name := hother ▸ hname
          rw [if_pos hother, if_neg hskip, if_pos hother]
        · rw [if_neg hother, if_neg hother]

theorem setMember_of_not_mem {name : String} {members : List (String × Value)}
    (hname : name ∉ members.map Prod.fst) (value : Value) :
    setMember name value members = members ++ [(name, value)] := by
  induction members with
  | nil => rfl
  | cons member members ih =>
      rw [List.map_cons, List.mem_cons, not_or] at hname
      rw [setMember, if_neg (Ne.symm hname.1), ih hname.2, List.cons_append]

end QueryWarden.Json

namespace QueryWarden.Database

open QueryWarden.Json

/-! ## Rows -/

theorem rowOf_concat (cells : List (String × Value)) (cell : String × Value) :
    rowOf (cells ++ [cell]) = setMember cell.1 cell.2 (rowOf cells) :=
  List.foldl_append

theorem eraseDups_concat (names : List String) (name : String) :
    (names ++ [name]).eraseDups =
      if name ∈ names then names.eraseDups else names.eraseDups ++ [name] := by
  rw [List.eraseDups_append]
  by_cases hname : name ∈ names
  · simp [List.removeAll, hname]
  · simp [List.removeAll, hname, List.eraseDups_cons]

theorem length_eraseDups_le (names : List String) : names.eraseDups.length ≤ names.length := by
  induction names using List.reverseRecOn with
  | nil => exact Nat.le_refl _
  | append_singleton names name ih =>
      rw [eraseDups_concat, List.length_append, List.length_singleton]
      split
      · omega
      · rw [List.length_append, List.length_singleton]
        omega

theorem nodup_of_length_eraseDups {names : List String}
    (hwhole : names.eraseDups.length = names.length) : names.Nodup := by
  induction names using List.reverseRecOn with
  | nil => exact List.nodup_nil
  | append_singleton names name ih =>
      have hle := length_eraseDups_le names
      rw [eraseDups_concat, List.length_append, List.length_singleton] at hwhole
      split at hwhole
      next => omega
      next hname =>
        rw [List.length_append, List.length_singleton] at hwhole
        rw [List.nodup_append_comm, List.singleton_append, List.nodup_cons]
        exact ⟨hname, ih (by omega)⟩

/-- The keys of a row are the names of the columns, each at its first place. -/
theorem keys_rowOf (cells : List (String × Value)) :
    (rowOf cells).map Prod.fst = (cells.map Prod.fst).eraseDups := by
  induction cells using List.reverseRecOn with
  | nil => rfl
  | append_singleton cells cell ih =>
      rw [rowOf_concat, keys_setMember, ih, List.map_append, List.map_singleton,
        eraseDups_concat]
      simp only [List.mem_eraseDups]

/-- The value under a key is that of the last column with the name. -/
theorem lookup_rowOf (cells : List (String × Value)) (name : String) :
    (rowOf cells).lookup name = cells.reverse.lookup name := by
  induction cells using List.reverseRecOn with
  | nil => rfl
  | append_singleton cells cell ih =>
      rw [rowOf_concat, lookup_setMember, ih, List.reverse_concat, lookup_cons]

theorem rowOf_of_nodup {cells : List (String × Value)} (hnames : (cells.map Prod.fst).Nodup) :
    rowOf cells = cells := by
  induction cells using List.reverseRecOn with
  | nil => rfl
  | append_singleton cells cell ih =>
      rw [List.map_append, List.map_singleton, List.nodup_append_comm, List.singleton_append,
        List.nodup_cons] at hnames
      rw [rowOf_concat, ih hnames.2, setMember_of_not_mem hnames.1]

/-- A row has as many members as there are columns only if their names are all different. -/
theorem nodup_of_length_rowOf {cells : List (String × Value)}
    (hwhole : (rowOf cells).length = cells.length) : (cells.map Prod.fst).Nodup := by
  have hnames := congrArg List.length (keys_rowOf cells)
  rw [List.length_map, hwhole, ← List.length_map] at hnames
  exact nodup_of_length_eraseDups hnames.symm

end QueryWarden.Database

namespace QueryWarden.Targets

open QueryWarden.Database QueryWarden.Json

/-! ## What a result keeps -/

/-- A cell and the column it stands in. -/
abbrev PlacedCell := WireColumn × WireCell

section Cells

variable (engine : Engine) (packages : Packages)

/-- The value of a cell: it is fetched, and its value taken. -/
def cellValue (placed : PlacedCell) : Except Halt Value :=
  fetchCell engine packages placed.1 placed.2 >>= FetchedCell.value

/-- The row of a result is what becomes of the cells of a row. -/
structure Keeps (columns : List WireColumn) (cells : List WireCell) (row : ResultRow) : Prop where
  /-- Its keys are the names of the columns, each at its first place. -/
  keys : row.map Prod.fst = (columns.map WireColumn.name).eraseDups
  /-- Under a name stands the cell of the last column that has it. -/
  last : ∀ name value, row.lookup name = some value ↔
    ∃ front column cell back, columns.zip cells = front ++ (column, cell) :: back ∧
      column.name = name ∧ (∀ other ∈ back, other.1.name ≠ name) ∧
      cellValue engine packages (column, cell) = .ok value
  /-- With the names all different it has the columns in order, each with its cell. -/
  whole : (columns.map WireColumn.name).Nodup →
    List.Forall₂ (fun (placed : PlacedCell) (member : String × Value) =>
        member.1 = placed.1.name ∧ cellValue engine packages placed = .ok member.2)
      (columns.zip cells) row
  /-- Otherwise it has fewer members than there are columns. -/
  length_eq_iff : row.length = columns.length ↔ (columns.map WireColumn.name).Nodup

/-- All cells of a result set have a value. -/
def Reads (set : ResultSet) : Prop :=
  ∀ cells ∈ set.rows, ∀ placed ∈ set.columns.zip cells,
    ∃ value, cellValue engine packages placed = .ok value

/-- The result has a row for each row of the result set, in order, and says how many. -/
structure KeepsRows (set : ResultSet) (result : QueryResult) : Prop where
  rows : List.Forall₂ (Keeps engine packages set.columns) set.rows result.rows
  rowCount_eq : result.rowCount = set.rows.length
  length_rows : result.rows.length = result.rowCount

/-- The value of a cell; null if it has none. -/
def valueOf (placed : PlacedCell) : Value :=
  match cellValue engine packages placed with
  | .ok value => value
  | .error _ => .null

/-- The name of a column and the value of its cell. -/
def memberOf (placed : PlacedCell) : String × Value :=
  (placed.1.name, valueOf engine packages placed)

variable {engine packages} {columns : List WireColumn} {cells : List WireCell}

theorem cellValue_eq {placed : PlacedCell}
    (hread : ∃ value, cellValue engine packages placed = .ok value) :
    cellValue engine packages placed = .ok (valueOf engine packages placed) := by
  obtain ⟨value, hvalue⟩ := hread
  rw [valueOf, hvalue]

variable (engine packages) in
theorem map_fst_memberOf (hwidth : cells.length = columns.length) :
    ((columns.zip cells).map (memberOf engine packages)).map Prod.fst =
      columns.map WireColumn.name := by
  rw [List.map_map]
  change (columns.zip cells).map (WireColumn.name ∘ Prod.fst) = _
  rw [← List.map_map, List.map_fst_zip (Nat.le_of_eq hwidth.symm)]

theorem keeps_rowOf (hwidth : cells.length = columns.length)
    (hread : ∀ placed ∈ columns.zip cells, ∃ value, cellValue engine packages placed = .ok value) :
    Keeps engine packages columns cells
      (rowOf ((columns.zip cells).map (memberOf engine packages))) where
  keys := by rw [keys_rowOf, map_fst_memberOf engine packages hwidth]
  last name value := by
    rw [lookup_rowOf, ← List.map_reverse, List.lookup_eq_some_iff]
    constructor
    · rintro ⟨before, after, hsplit, hbefore⟩
      obtain ⟨back, rest, hreverse, rfl, hrest⟩ := List.map_eq_append_iff.mp hsplit
      obtain ⟨⟨column, cell⟩, front, rfl, hmember, rfl⟩ := List.map_eq_cons_iff.mp hrest
      obtain ⟨rfl, rfl⟩ := Prod.mk.inj hmember
      have hzip : columns.zip cells = front.reverse ++ (column, cell) :: back.reverse := by
        rw [← List.reverse_reverse (columns.zip cells), hreverse]
        simp
      refine ⟨front.reverse, column, cell, back.reverse, hzip, rfl, ?_, ?_⟩
      · intro other hother
        have hskip := hbefore (memberOf engine packages other)
          (List.mem_map_of_mem (List.mem_reverse.mp hother))
        exact Ne.symm (bne_iff_ne.mp hskip)
      · exact cellValue_eq (hread (column, cell) (by simp [hzip]))
    · rintro ⟨front, column, cell, back, hzip, rfl, hback, hvalue⟩
      have hmember : valueOf engine packages (column, cell) = value := by rw [valueOf, hvalue]
      refine ⟨back.reverse.map (memberOf engine packages),
        front.reverse.map (memberOf engine packages), ?_, ?_⟩
      · rw [hzip]
        simp [memberOf, hmember]
      · intro member hbefore
        obtain ⟨other, hother, rfl⟩ := List.mem_map.mp hbefore
        exact bne_iff_ne.mpr (Ne.symm (hback other (List.mem_reverse.mp hother)))
  whole hnames := by
    rw [← map_fst_memberOf engine packages hwidth] at hnames
    rw [rowOf_of_nodup hnames, List.forall₂_map_right_iff, List.forall₂_same]
    intro placed hplaced
    exact ⟨rfl, cellValue_eq (hread placed hplaced)⟩
  length_eq_iff := by
    have hlength : ((columns.zip cells).map (memberOf engine packages)).length =
        columns.length := by
      rw [List.length_map, List.length_zip, hwidth, Nat.min_self]
    have hnames := map_fst_memberOf engine packages hwidth
    rw [← hlength, ← hnames]
    constructor
    · exact nodup_of_length_rowOf
    · intro hnames
      rw [rowOf_of_nodup hnames]

end Cells

/-! ## Why there is no result -/

/-- There is a value, or the caller is told nothing. -/
def NeverFails {α : Type} (outcome : Except Halt α) : Prop :=
  ∀ halt, outcome = .error halt → halt = .lost

section NeverFails

variable {α β : Type}

theorem NeverFails.ok (value : α) : NeverFails (.ok value) := nofun

theorem NeverFails.orElse {decoded : Decoded α} {next : α → Except Halt β}
    {missed : Except Halt β} (hnext : ∀ value, NeverFails (next value))
    (hmissed : NeverFails missed) : NeverFails (decoded.orElse next missed) := by
  cases decoded with
  | read value => exact hnext value
  | refused detail => exact hmissed
  | broken => exact fun halt hhalt => (Except.error.inj hhalt).symm

theorem NeverFails.orNull (decoded : Decoded α) (toValue : α → Value) :
    NeverFails (decoded.orNull toValue) :=
  .orElse (fun _ => .ok _) (.ok _)

theorem NeverFails.textValue (cell : OpenCell) (typeName : String)
    (foreign : List UInt8 → String) : NeverFails (cell.textValue typeName foreign) :=
  .orElse (fun _ => .ok _) (.orElse (fun _ => .ok _) (.ok _))

theorem NeverFails.firstText (texts : List (Decoded (Option String))) :
    NeverFails (firstText texts) := by
  induction texts with
  | nil => exact .ok _
  | cons text texts ih =>
      refine .orElse (fun found => ?_) ih
      cases found with
      | none => exact ih
      | some text => exact .ok _

/-- Once a cell is fetched, only a package that breaks down keeps it from having a value. -/
theorem NeverFails.value (cell : FetchedCell) : NeverFails cell.value := by
  cases cell with
  | postgreSql typeName cell =>
      cases cell with
      | none => exact .ok _
      | some cell =>
          simp only [FetchedCell.value, Option.elim, OpenCell.postgreSqlValue]
          split
          all_goals first
            | exact .orNull _ _
            | exact .textValue _ _ _
  | mySql typeName cell =>
      cases cell with
      | none => exact .ok _
      | some cell =>
          simp only [FetchedCell.value, Option.elim, OpenCell.mySqlValue]
          split
          all_goals first
            | exact .orNull _ _
            | exact .textValue _ _ _
  | sqlServer cell =>
      cases cell with
      | temporal texts => exact .firstText texts
      | integer | float | bit | text | guid | numeric | binary => exact .ok _

end NeverFails

/-- What a cell can end a call with: its package breaks down, or refuses to decode it for SQL
Server. -/
def Halt.IsOfCell (halt : Halt) (engine : Engine) : Prop :=
  halt = .lost ∨ engine = .sqlServer ∧ ∃ detail, halt = .failure (.sqlServer detail)

theorem isOfCell_of_fetchCell {engine : Engine} {packages : Packages} {column : WireColumn}
    {cell : WireCell} {halt : Halt} (hhalt : fetchCell engine packages column cell = .error halt) :
    halt.IsOfCell engine := by
  unfold fetchCell at hhalt
  cases engine with
  | postgreSql | mySql => cases hhalt
  | sqlServer =>
      cases hcell : packages.sqlServer column.typeName cell with
      | read typed => simp [hcell] at hhalt
      | refused detail =>
          simp only [hcell] at hhalt
          exact .inr ⟨rfl, detail, (Except.error.inj hhalt).symm⟩
      | broken =>
          simp only [hcell] at hhalt
          exact .inl (Except.error.inj hhalt).symm

/-! ## Making a result -/

section Making

variable {engine : Engine} {packages : Packages} {set : ResultSet} {result : QueryResult}

/-- What is fetched, as a result. -/
def readResult (engine : Engine) (packages : Packages) (result : Option ResultSet) :
    Except Halt QueryResult :=
  fetch engine packages result >>= fun fetched => fetched.toResult engine

/-- The result that a result set makes if all its cells have a value. PostgreSQL's and MySQL's has
names for its columns only if there is a row. -/
def resultOf (engine : Engine) (packages : Packages) (set : ResultSet) : QueryResult :=
  ⟨if engine = .sqlServer ∨ 0 < set.rows.length then set.columns.map WireColumn.name else [],
    set.rows.map fun cells => rowOf ((set.columns.zip cells).map (memberOf engine packages)),
    set.rows.length, 0⟩

theorem fetchCell_bind_value (engine : Engine) (packages : Packages) (placed : PlacedCell) :
    ((fetchCell engine packages placed.1 placed.2).map (Prod.mk placed.1.name) >>= fun member =>
        member.2.value.map (Prod.mk member.1)) =
      (cellValue engine packages placed).map (Prod.mk placed.1.name) := by
  rw [cellValue]
  cases fetchCell engine packages placed.1 placed.2 <;> rfl

theorem member_eq_ok_iff (placed : PlacedCell) (member : String × Value) :
    (cellValue engine packages placed).map (Prod.mk placed.1.name) = .ok member ↔
      (∃ value, cellValue engine packages placed = .ok value) ∧
        member = memberOf engine packages placed := by
  rw [map_eq_ok_iff]
  constructor
  · rintro ⟨value, hvalue, rfl⟩
    exact ⟨⟨value, hvalue⟩, by rw [memberOf, valueOf, hvalue]⟩
  · rintro ⟨hread, rfl⟩
    exact ⟨_, cellValue_eq hread, rfl⟩

/-- A row is made of the values of its cells. -/
theorem row_eq_ok_iff (columns : List WireColumn) (cells : List WireCell) (row : ResultRow) :
    fetchRow engine packages columns cells >>= rowOfFetched = .ok row ↔
      (∀ placed ∈ columns.zip cells, ∃ value, cellValue engine packages placed = .ok value) ∧
        row = rowOf ((columns.zip cells).map (memberOf engine packages)) := by
  have hmembers : ∀ members, (∃ fetched, fetchRow engine packages columns cells = .ok fetched ∧
      (fetched.mapM fun member => member.2.value.map (Prod.mk member.1)) = .ok members) ↔
        (∀ placed ∈ columns.zip cells, ∃ value, cellValue engine packages placed = .ok value) ∧
          members = (columns.zip cells).map (memberOf engine packages) := by
    intro members
    unfold fetchRow
    rw [mapM_mapM_eq_ok_iff]
    simp only [fetchCell_bind_value]
    exact mapM_eq_ok_iff member_eq_ok_iff
  simp only [bind_eq_ok_iff, rowOfFetched, map_eq_ok_iff]
  constructor
  · rintro ⟨fetched, hfetched, members, hvalues, rfl⟩
    obtain ⟨hread, rfl⟩ := (hmembers members).mp ⟨fetched, hfetched, hvalues⟩
    exact ⟨hread, rfl⟩
  · rintro ⟨hread, rfl⟩
    obtain ⟨fetched, hfetched, hvalues⟩ := (hmembers _).mpr ⟨hread, rfl⟩
    exact ⟨fetched, hfetched, _, hvalues, rfl⟩

/-- The names that are fetched with the cells of a row are those of the columns. -/
theorem map_fst_of_fetchRow {columns : List WireColumn} {cells : List WireCell}
    (hwidth : cells.length = columns.length) {row : List (String × FetchedCell)}
    (hrow : fetchRow engine packages columns cells = .ok row) :
    row.map Prod.fst = columns.map WireColumn.name := by
  have hnames : row.map Prod.fst = (columns.zip cells).map (WireColumn.name ∘ Prod.fst) := by
    refine map_eq_of_mapM_eq_ok (fun placed member hmember => ?_) hrow
    obtain ⟨cell, -, rfl⟩ := map_eq_ok_iff.mp hmember
    rfl
  rw [hnames, ← List.map_map, List.map_fst_zip (Nat.le_of_eq hwidth.symm)]

/-- A header that is taken from the first row is that of the columns, if there is a row. -/
theorem columnNames_of_fetch (hwidth : ∀ cells ∈ set.rows, cells.length = set.columns.length)
    {rows : List (List (String × FetchedCell))}
    (hrows : set.rows.mapM (fetchRow engine packages set.columns) = .ok rows) :
    Fetched.columnNames ⟨set.columns.map WireColumn.name, rows⟩ engine =
      if engine = .sqlServer ∨ 0 < set.rows.length then set.columns.map WireColumn.name
      else [] := by
  have hhead : ((rows.head?.map fun row => row.map Prod.fst).getD []) =
      if 0 < set.rows.length then set.columns.map WireColumn.name else [] := by
    cases hset : set.rows with
    | nil =>
        rw [hset] at hrows
        obtain rfl := Except.ok.inj hrows
        rfl
    | cons cells others =>
        rw [hset, List.mapM_cons, bind_eq_ok_iff] at hrows
        obtain ⟨row, hrow, hrest⟩ := hrows
        obtain ⟨rest, -, hwhole⟩ := bind_eq_ok_iff.mp hrest
        obtain rfl := Except.ok.inj hwhole
        exact map_fst_of_fetchRow (hwidth cells (by simp [hset])) hrow
  cases engine with
  | sqlServer => rfl
  | postgreSql | mySql => simpa [Fetched.columnNames] using hhead

/-- There is a result exactly if all cells have a value, and it is made of these. -/
theorem readResult_eq_ok_iff (hwidth : ∀ cells ∈ set.rows, cells.length = set.columns.length) :
    readResult engine packages (some set) = .ok result ↔
      Reads engine packages set ∧ result = resultOf engine packages set := by
  have hrows : ∀ rows, (∃ fetched,
      set.rows.mapM (fetchRow engine packages set.columns) = .ok fetched ∧
        fetched.mapM rowOfFetched = .ok rows) ↔ Reads engine packages set ∧
      rows = set.rows.map fun cells =>
        rowOf ((set.columns.zip cells).map (memberOf engine packages)) := by
    intro rows
    rw [mapM_mapM_eq_ok_iff]
    exact mapM_eq_ok_iff (row_eq_ok_iff set.columns)
  simp only [readResult, fetch, bind_eq_ok_iff, map_eq_ok_iff, Fetched.toResult]
  constructor
  · rintro ⟨-, ⟨fetched, hfetched, rfl⟩, rows, hmade, hresult⟩
    obtain ⟨hreads, rfl⟩ := (hrows rows).mp ⟨fetched, hfetched, hmade⟩
    refine ⟨hreads, (Except.ok.inj hresult).symm.trans ?_⟩
    rw [columnNames_of_fetch hwidth hfetched, List.length_map]
    rfl
  · rintro ⟨hreads, rfl⟩
    obtain ⟨fetched, hfetched, hmade⟩ := (hrows _).mpr ⟨hreads, rfl⟩
    refine ⟨_, ⟨fetched, hfetched, rfl⟩, _, hmade, ?_⟩
    rw [columnNames_of_fetch hwidth hfetched, List.length_map]
    rfl

theorem keepsRows_resultOf (hwidth : ∀ cells ∈ set.rows, cells.length = set.columns.length)
    (hreads : Reads engine packages set) :
    KeepsRows engine packages set (resultOf engine packages set) := by
  refine ⟨?_, rfl, List.length_map _⟩
  rw [resultOf, List.forall₂_map_right_iff, List.forall₂_same]
  exact fun cells hcells => keeps_rowOf (hwidth cells hcells) (hreads cells hcells)

theorem neverFails_toResult (fetched : Fetched) : NeverFails (fetched.toResult engine) := by
  intro halt hhalt
  rcases bind_eq_error_iff.mp hhalt with hrows | ⟨rows, -, hresult⟩
  · obtain ⟨row, -, hrow⟩ := exists_of_mapM_eq_error hrows
    obtain ⟨member, -, hmember⟩ := exists_of_mapM_eq_error (map_eq_error_iff.mp hrow)
    exact NeverFails.value member.2 halt (map_eq_error_iff.mp hmember)
  · cases hresult

/-- Where there is no result, a cell is the reason. -/
theorem isOfCell_of_readResult {halt : Halt}
    (hhalt : readResult engine packages (some set) = .error halt) : halt.IsOfCell engine := by
  rcases bind_eq_error_iff.mp hhalt with hfetch | ⟨fetched, -, hresult⟩
  · obtain ⟨cells, -, hrow⟩ := exists_of_mapM_eq_error (map_eq_error_iff.mp hfetch)
    obtain ⟨placed, -, hcell⟩ := exists_of_mapM_eq_error hrow
    exact isOfCell_of_fetchCell (map_eq_error_iff.mp hcell)
  · exact .inl (neverFails_toResult fetched halt hresult)

end Making

/-! ## The session around a query -/

/-- The statement is answered, or refused where that does not matter. -/
def Server.Passes (server : Server) (frame : Engine.Frame) : Prop :=
  server.reply frame.statement = .done ∨
    frame.mustSucceed = false ∧ ∃ refusal, server.reply frame.statement = .refused refusal

theorem sendFrames_of_passes (engine : Engine) {server : Server} (limit : Time.Span)
    {frames : List Engine.Frame} (hframes : ∀ frame ∈ frames, server.Passes frame) :
    (sendFrames engine server limit frames).outcome = .ok () := by
  induction frames with
  | nil => rfl
  | cons frame frames ih =>
      obtain ⟨hframe, hrest⟩ := List.forall_mem_cons.mp hframes
      rw [sendFrames]
      rcases hframe with hdone | ⟨hmay, refusal, hrefused⟩
      · simp only [hdone]
        exact ih hrest
      · simp only [hmay, hrefused]
        exact ih hrest

/-- The server behind a connection string is reached, lets the client in and runs the query between
the statements that the engine sends around it. -/
structure Runs (around : Surroundings) (engine : Engine) (connectionString sql : String)
    (limit : Time.Span) : Prop where
  connects : connect engine around.network connectionString around.server = .ok ()
  opens : ∀ frame ∈ engine.opening limit, around.server.Passes frame
  replies : around.server.reply sql = .done
  closes : around.server.reply engine.closing = .done

variable {around : Surroundings} {engine : Engine} {connectionString sql : String}
  {limit : Time.Span} {set : ResultSet}

/-- Nothing but the result set and the packages decide the result. -/
theorem Runs.execute_eq (hruns : Runs around engine connectionString sql limit) :
    (Source.remote engine connectionString).execute around sql limit =
      readResult engine around.packages around.server.result := by
  have hclosed : (sendFrames engine around.server limit [⟨engine.closing, true⟩]).outcome =
      .ok () := by
    apply sendFrames_of_passes
    intro frame hframe
    obtain rfl := List.mem_singleton.mp hframe
    exact .inl hruns.closes
  simp only [Source.execute, executeRemote, hruns.connects, executeOnServer,
    sendFrames_of_passes engine limit hruns.opens, hruns.replies, readResult]
  cases fetch engine around.packages around.server.result with
  | error halt => rfl
  | ok fetched => simp only [hclosed, ok_bind]

/-- Whatever the packages make of the cells, a query that runs has a result exactly if all cells
have a value, and then the rows of its result set, each with the cells of its columns as long as
these have different names. Otherwise a package broke down, or SQL Server's refused to decode a
cell. -/
theorem execute_keepsRows (hruns : Runs around engine connectionString sql limit)
    (hset : around.server.result = some set)
    (hwidth : ∀ cells ∈ set.rows, cells.length = set.columns.length) :
    (Reads engine around.packages set →
      ∃ result, (Source.remote engine connectionString).execute around sql limit = .ok result ∧
        KeepsRows engine around.packages set result) ∧
    (¬ Reads engine around.packages set →
      ∃ halt, (Source.remote engine connectionString).execute around sql limit = .error halt ∧
        halt.IsOfCell engine) := by
  rw [hruns.execute_eq, hset]
  constructor
  · intro hreads
    exact ⟨_, (readResult_eq_ok_iff hwidth).mpr ⟨hreads, rfl⟩, keepsRows_resultOf hwidth hreads⟩
  · intro hreads
    cases hresult : readResult engine around.packages (some set) with
    | error halt => exact ⟨halt, rfl, isOfCell_of_readResult hresult⟩
    | ok result => exact absurd ((readResult_eq_ok_iff hwidth).mp hresult).1 hreads

/-- Bytes below 128 as a text. -/
def asciiText (bytes : List UInt8) : String :=
  String.ofList (bytes.map fun byte => Char.ofNat byte.toNat)

/-- What PostgreSQL's and MySQL's packages make of a boolean, a number of four bytes and an ASCII
text. Asked for another type they refuse. -/
def plainCell (typeName : String) (bytes : List UInt8) : OpenCell :=
  let refusal := "mismatched types"
  { OpenCell.refusing refusal with
    bool := if typeName = "BOOL" then .read (bytes.head? != some 0) else .refused refusal
    integer := fun range =>
      if typeName = "INT4" ∧ range = .signed 32 then
        .read (BitVec.ofNat 32 (bytes.foldl (fun number byte => number * 256 + byte.toNat) 0)).toInt
      else .refused refusal
    text := if typeName = "TEXT" then .read (asciiText bytes) else .refused refusal
    bytes := .read bytes }

/-- The packages on such cells; SQL Server's has texts only. -/
def plainPackages : Packages :=
  ⟨plainCell, plainCell, fun _ cell => .read (.text (cell.map asciiText))⟩

/-- The orders of a shop with their customers, of which one has no name. -/
theorem execute_keepsRows_shop :
    let set : ResultSet := ⟨[⟨"order", "INT4"⟩, ⟨"customer", "TEXT"⟩],
      [[some [0, 0, 0, 7], some [65]], [some [0, 0, 0, 8], none]]⟩
    let around : Surroundings :=
      ⟨[], fun _ _ => none, plainPackages, none, fun _ => none, fun _ => false, fun _ => [],
        some set, none⟩
    (∀ cells ∈ set.rows, cells.length = set.columns.length) ∧
      Runs around .postgreSql "postgres://db/shop" "SELECT * FROM orders" (.ofSeconds 30) ∧
      ∃ result, (Source.remote .postgreSql "postgres://db/shop").execute around
          "SELECT * FROM orders" (.ofSeconds 30) = .ok result ∧
        KeepsRows .postgreSql plainPackages set result := by
  intro set around
  have hwidth : ∀ cells ∈ set.rows, cells.length = set.columns.length := by decide
  have hruns : Runs around .postgreSql "postgres://db/shop" "SELECT * FROM orders"
      (.ofSeconds 30) := ⟨rfl, fun _ _ => .inl rfl, rfl, rfl⟩
  obtain ⟨result, hresult⟩ : ∃ result,
      readResult .postgreSql plainPackages (some set) = .ok result := ⟨_, rfl⟩
  have hreads := ((readResult_eq_ok_iff hwidth).mp hresult).1
  exact ⟨hwidth, hruns, (execute_keepsRows hruns rfl hwidth).1 hreads⟩

/-- Of two columns with one name only the cell of the last is in the row. -/
theorem execute_loses_cell :
    let set : ResultSet := ⟨[⟨"n", "BOOL"⟩, ⟨"n", "BOOL"⟩], [[some [1], some [0]]]⟩
    let around : Surroundings :=
      ⟨[], fun _ _ => none, plainPackages, none, fun _ => none, fun _ => false, fun _ => [],
        some set, none⟩
    ∃ result, (Source.remote .postgreSql "postgres://db/shop").execute around
        "SELECT true AS n, false AS n" (.ofSeconds 30) = .ok result ∧
      result.columns = ["n", "n"] ∧ result.rows = [[("n", .bool false)]] := by
  intro set around
  have hruns : Runs around .postgreSql "postgres://db/shop" "SELECT true AS n, false AS n"
      (.ofSeconds 30) := ⟨rfl, fun _ _ => .inl rfl, rfl, rfl⟩
  rw [hruns.execute_eq]
  exact ⟨_, rfl, rfl, rfl⟩

end QueryWarden.Targets
