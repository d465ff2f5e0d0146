import QueryWarden.Proofs.Database.Results

/-!
# Columns of results

Where the names of the columns of a result come from. SQL Server tells them ahead of the rows, so
they do not depend on what the query finds. PostgreSQL's and MySQL's drivers take them from the
first row, so a result without rows has none, whatever the query selects. What the packages make of
the cells does not matter for any of this.
-/

namespace QueryWarden.Targets

open QueryWarden.Database

section Names

theorem eraseDups_of_nodup {names : List String} (hnames : names.Nodup) :
    names.eraseDups = names := by
  induction names using List.reverseRecOn with
  | nil => rfl
  | append_singleton names name ih =>
      rw [List.nodup_append_comm, List.singleton_append, List.nodup_cons] at hnames
      rw [eraseDups_concat, if_neg hnames.1, ih hnames.2]

theorem keys_of_keeps {engine : Engine} {packages : Packages} {columns : List WireColumn}
    (hnames : (columns.map WireColumn.name).Nodup) {cells : List (List WireCell)}
    {rows : List ResultRow} (hkeeps : List.Forall₂ (Keeps engine packages columns) cells rows) :
    rows.map (List.map Prod.fst) = List.replicate cells.length (columns.map WireColumn.name) := by
  induction hkeeps with
  | nil => rfl
  | cons hrow _ ih =>
      rw [List.map_cons, ih, hrow.keys, eraseDups_of_nodup hnames]
      rfl

end Names

/-- A query that is run on a server of each engine, with a result of so many rows under the same
names. The servers and what the packages make of their cells may be any. -/
structure OnEachEngine (names : List String) (count : Nat) where
  around : Engine → Surroundings
  connectionString : Engine → String
  sql : Engine → String
  limit : Time.Span
  set : Engine → ResultSet
  runs : ∀ engine, Runs (around engine) engine (connectionString engine) (sql engine) limit
  result_eq : ∀ engine, (around engine).server.result = some (set engine)
  names_eq : ∀ engine, (set engine).columns.map WireColumn.name = names
  length_eq : ∀ engine, (set engine).rows.length = count
  /-- Each row has a cell for each column. -/
  width_eq : ∀ engine, ∀ cells ∈ (set engine).rows, cells.length = names.length

namespace OnEachEngine

variable {names : List String} {count : Nat}

/-- What running the query on an engine gives. -/
def execute (query : OnEachEngine names count) (engine : Engine) : Except Halt QueryResult :=
  (Source.remote engine (query.connectionString engine)).execute (query.around engine)
    (query.sql engine) query.limit

/-- All cells have a value on an engine. -/
def Reads (query : OnEachEngine names count) (engine : Engine) : Prop :=
  Targets.Reads engine (query.around engine).packages (query.set engine)

theorem execute_eq (query : OnEachEngine names count) (engine : Engine) :
    query.execute engine =
      readResult engine (query.around engine).packages (some (query.set engine)) := by
  unfold execute
  rw [(query.runs engine).execute_eq, query.result_eq]

theorem width (query : OnEachEngine names count) (engine : Engine) :
    ∀ cells ∈ (query.set engine).rows, cells.length = (query.set engine).columns.length := by
  intro cells hcells
  have hlength := congrArg List.length (query.names_eq engine)
  rw [List.length_map] at hlength
  exact (query.width_eq engine cells hcells).trans hlength.symm

theorem execute_eq_ok_iff (query : OnEachEngine names count) {engine : Engine}
    {result : QueryResult} : query.execute engine = .ok result ↔ query.Reads engine ∧
      result = resultOf engine (query.around engine).packages (query.set engine) := by
  rw [query.execute_eq]
  exact readResult_eq_ok_iff (query.width engine)

theorem exists_execute_iff (query : OnEachEngine names count) (engine : Engine) :
    (∃ result, query.execute engine = .ok result) ↔ query.Reads engine := by
  simp only [query.execute_eq_ok_iff, exists_and_left, exists_eq, and_true]

theorem isOfCell_of_execute (query : OnEachEngine names count) {engine : Engine} {halt : Halt}
    (hhalt : query.execute engine = .error halt) : halt.IsOfCell engine := by
  rw [query.execute_eq] at hhalt
  exact isOfCell_of_readResult hhalt

theorem columns_eq (query : OnEachEngine names count) {engine : Engine} {result : QueryResult}
    (hresult : query.execute engine = .ok result) :
    result.columns = if engine = .sqlServer ∨ 0 < count then names else [] := by
  obtain ⟨-, rfl⟩ := query.execute_eq_ok_iff.mp hresult
  rw [resultOf, query.names_eq, query.length_eq]

theorem keys_eq (query : OnEachEngine names count) (hnames : names.Nodup) {engine : Engine}
    {result : QueryResult} (hresult : query.execute engine = .ok result) :
    result.rows.map (List.map Prod.fst) = List.replicate count names := by
  obtain ⟨hreads, rfl⟩ := query.execute_eq_ok_iff.mp hresult
  have hdistinct := query.names_eq engine ▸ hnames
  rw [keys_of_keeps hdistinct (keepsRows_resultOf (query.width engine) hreads).rows,
    query.names_eq, query.length_eq]

/-- Without rows only SQL Server has names. -/
theorem columns_eq_iff (query : OnEachEngine names count) {engine : Engine}
    (hengine : engine ≠ .sqlServer) {result other : QueryResult}
    (hresult : query.execute engine = .ok result)
    (hother : query.execute .sqlServer = .ok other) :
    result.columns = other.columns ↔ 0 < count ∨ names = [] := by
  have htold : other.columns = names := by rw [query.columns_eq hother, if_pos (.inl rfl)]
  rw [query.columns_eq hresult, htold]
  by_cases hcount : 0 < count
  · simp [hcount]
  · simp [hengine, hcount, eq_comm]

/-- What the results of the engines have in common, and where they part. -/
structure AgreesOnColumns (query : OnEachEngine names count) : Prop where
  /-- There is a result exactly if each cell has a value. -/
  answered_iff : ∀ engine, (∃ result, query.execute engine = .ok result) ↔ query.Reads engine
  /-- Otherwise a package broke down, or SQL Server's refused to decode a cell. -/
  halted : ∀ engine halt, query.execute engine = .error halt → halt.IsOfCell engine
  /-- The rows have the same keys everywhere. -/
  keys_eq : ∀ engine result, query.execute engine = .ok result →
    result.rows.map (List.map Prod.fst) = List.replicate count names
  /-- The columns are the names unless PostgreSQL or MySQL has no row to take them from. -/
  columns_eq : ∀ engine result, query.execute engine = .ok result →
    result.columns = if engine = .sqlServer ∨ 0 < count then names else []
  /-- So the columns are the same everywhere exactly if there are rows or no names. -/
  agrees_iff : ∀ engine result other, engine ≠ .sqlServer → query.execute engine = .ok result →
    query.execute .sqlServer = .ok other →
      (result.columns = other.columns ↔ 0 < count ∨ names = [])

/-- Whatever the engines answer with, their results have the same keys in their rows, and the same
columns as well unless there is no row at all. -/
theorem agreesOnColumns (query : OnEachEngine names count) (hnames : names.Nodup) :
    query.AgreesOnColumns := by
  refine ⟨query.exists_execute_iff, ?_, ?_, ?_, ?_⟩
  · intro engine halt hhalt
    exact query.isOfCell_of_execute hhalt
  · intro engine result hresult
    exact query.keys_eq hnames hresult
  · intro engine result hresult
    exact query.columns_eq hresult
  · intro engine result other hengine hresult hother
    exact query.columns_eq_iff hengine hresult hother

/-- Names of customers as each engine types them, null where there is none. -/
def customerSet (cells : List WireCell) (engine : Engine) : ResultSet :=
  ⟨[⟨"customer", if engine = .sqlServer then "varchar" else "TEXT"⟩],
    cells.map fun cell => [cell]⟩

/-- A query for the customers of orders. -/
def customerNames (cells : List WireCell) : OnEachEngine ["customer"] cells.length where
  around engine :=
    ⟨[], fun _ _ => none, plainPackages, none, fun _ => none, fun _ => false, fun _ => [],
      some (customerSet cells engine), none⟩
  connectionString engine :=
    match engine with
    | .postgreSql => "postgres://db/shop"
    | .mySql => "mysql://db/shop"
    | .sqlServer => "Server=db;Database=shop"
  sql _ := "SELECT customer FROM orders"
  limit := .ofSeconds 30
  set := customerSet cells
  runs engine := by
    cases engine with
    | postgreSql | mySql | sqlServer => exact ⟨rfl, fun _ _ => .inl rfl, rfl, rfl⟩
  result_eq _ := rfl
  names_eq _ := rfl
  length_eq _ := List.length_map _
  width_eq _ row hrow := by
    obtain ⟨cell, -, rfl⟩ := List.mem_map.mp hrow
    rfl

/-- Two orders, of which one has no customer. -/
theorem agreesOnColumns_customerNames :
    ["customer"].Nodup ∧ (customerNames [some [65], none]).AgreesOnColumns := by
  have hnames : ["customer"].Nodup := List.nodup_singleton _
  exact ⟨hnames, agreesOnColumns _ hnames⟩

/-- Without an order PostgreSQL and MySQL have no column, SQL Server has that of the query. -/
theorem columns_lost_without_rows :
    ∃ postgreSql mySql sqlServer : QueryResult,
      (customerNames []).execute .postgreSql = .ok postgreSql ∧ postgreSql.columns = [] ∧
      (customerNames []).execute .mySql = .ok mySql ∧ mySql.columns = [] ∧
      (customerNames []).execute .sqlServer = .ok sqlServer ∧
        sqlServer.columns = ["customer"] := by
  simp only [execute_eq]
  exact ⟨_, _, _, rfl, rfl, rfl, rfl, rfl, rfl⟩

end OnEachEngine

end QueryWarden.Targets
