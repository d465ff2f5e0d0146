import QueryWarden.Targets.CellValue
import QueryWarden.Targets.Engine

/-!
# Sessions with remote servers

Introspecting a remote database and running one query on it. Each gives its outcome and the
statements sent, in order, up to the one that ended it.
-/

namespace QueryWarden.Targets

open QueryWarden.Database QueryWarden.Json QueryWarden.Schema

/-- An outcome and the statements that led to it. -/
structure Transcript (α : Type) where
  outcome : Except Halt α
  statements : List String

/-- A failure, with the statements that led to it. -/
def Transcript.failed {α : Type} (failure : Failure) (statements : List String) : Transcript α :=
  ⟨.error (.failure failure), statements⟩

/-- Connects: the address is read, the host is reached and the server lets the client in. -/
def connect (engine : Engine) (network : Net.Network) (connectionString : String)
    (server : Server) : Except Failure Unit := do
  let (host, port) ← engine.address connectionString
  match network host port with
  | some reason => .error (engine.networkFailure reason)
  | none =>
      match server.login with
      | some refusal => .error (engine.refusalFailure refusal)
      | none => .ok ()

/-! ## Introspection -/

/-- Asks questions of the catalogue one after the other and goes through the rows of each answer.
There is no limit to the time that an answer may take. -/
def askCatalogue (engine : Engine) (server : Server) :
    List CatalogueQuery → SchemaDraft → Transcript SchemaDraft
  | [], draft => ⟨.ok draft, []⟩
  | query :: queries, draft =>
      let statement := engine.catalogueStatement query
      match server.reply statement with
      | .unanswered => ⟨.error .lost, [statement]⟩
      | .refused refusal => .failed (engine.refusalFailure refusal) [statement]
      | .done =>
          match (server.catalogue query).foldlM (engine.readRow query) draft with
          | .error failure => .failed failure [statement]
          | .ok draft =>
              let rest := askCatalogue engine server queries draft
              ⟨rest.outcome, statement :: rest.statements⟩

/-- Takes leave of a server whose catalogue was read, if the engine's driver does that. -/
def takeLeave (engine : Engine) (server : Server) : Except Halt Unit :=
  match engine.takesLeave, server.farewell with
  | true, some reason => .error (.failure (engine.networkFailure reason))
  | _, _ => .ok ()

/-- The structure of a server's database. -/
def introspectServer (engine : Engine) (server : Server) : Transcript Snapshot :=
  let asked := askCatalogue engine server
    [.tables, .primaryKeys, .columns, .foreignKeys] default
  let outcome := do
    let draft ← asked.outcome
    takeLeave engine server
    .ok draft.snapshot
  ⟨outcome, asked.statements⟩

/-! ## Results -/

/-- A cell as a driver fetches it: with the name of its type where that decides what it is asked
for, and none where it is null. -/
inductive FetchedCell where
  | postgreSql (typeName : String) (cell : Option OpenCell)
  | mySql (typeName : String) (cell : Option OpenCell)
  | sqlServer (cell : TypedCell)

/-- The value of a fetched cell. -/
def FetchedCell.value : FetchedCell → Except Halt Value
  | .postgreSql typeName cell => cell.elim (.ok .null) (·.postgreSqlValue typeName)
  | .mySql typeName cell => cell.elim (.ok .null) (·.mySqlValue typeName)
  | .sqlServer cell => cell.value

/-- What is fetched of a query: the header that goes before the rows, and the rows, whose cells have
the names of their columns with them. -/
structure Fetched where
  header : List String
  rows : List (List (String × FetchedCell))

/-- Fetches a cell. Only SQL Server's driver decodes it at once, so what the package refuses fails
the call. -/
def fetchCell (engine : Engine) (packages : Packages) (column : WireColumn) (cell : WireCell) :
    Except Halt FetchedCell :=
  match engine with
  | .postgreSql =>
      .ok (.postgreSql column.typeName (cell.map (packages.postgreSql column.typeName)))
  | .mySql => .ok (.mySql column.typeName (cell.map (packages.mySql column.typeName)))
  | .sqlServer =>
      match packages.sqlServer column.typeName cell with
      | .read cell => .ok (.sqlServer cell)
      | .refused detail => .error (.failure (.sqlServer detail))
      | .broken => .error .lost

/-- Fetches a row. -/
def fetchRow (engine : Engine) (packages : Packages) (columns : List WireColumn)
    (row : List WireCell) : Except Halt (List (String × FetchedCell)) :=
  (columns.zip row).mapM fun placed =>
    (fetchCell engine packages placed.1 placed.2).map (Prod.mk placed.1.name)

/-- Fetches what a query gives; there may be nothing. -/
def fetch (engine : Engine) (packages : Packages) (result : Option ResultSet) :
    Except Halt Fetched :=
  match result with
  | none => .ok ⟨[], []⟩
  | some set =>
      (set.rows.mapM (fetchRow engine packages set.columns)).map
        (Fetched.mk (set.columns.map WireColumn.name))

/-- The names of the columns. PostgreSQL's and MySQL's drivers take them from the first row. -/
def Fetched.columnNames (fetched : Fetched) (engine : Engine) : List String :=
  match engine with
  | .sqlServer => fetched.header
  | .postgreSql | .mySql => (fetched.rows.head?.map fun row => row.map Prod.fst).getD []

/-- A row by the names of its columns. -/
def rowOfFetched (row : List (String × FetchedCell)) : Except Halt ResultRow :=
  (row.mapM fun (member : String × FetchedCell) =>
    member.2.value.map (Prod.mk member.1)).map rowOf

/-- The result that is made of what is fetched. -/
def Fetched.toResult (fetched : Fetched) (engine : Engine) : Except Halt QueryResult := do
  let rows ← fetched.rows.mapM rowOfFetched
  .ok ⟨fetched.columnNames engine, rows, rows.length, 0⟩

/-! ## Queries -/

/-- Sends statements that carry no result; the first that matters and fails ends the session. -/
def sendFrames (engine : Engine) (server : Server) (limit : Time.Span) :
    List Engine.Frame → Transcript Unit
  | [] => ⟨.ok (), []⟩
  | frame :: frames =>
      match server.reply frame.statement, frame.mustSucceed with
      | .unanswered, _ => .failed (.timeout limit) [frame.statement]
      | .refused refusal, true => .failed (engine.refusalFailure refusal) [frame.statement]
      | .refused _, false | .done, _ =>
          let rest := sendFrames engine server limit frames
          ⟨rest.outcome, frame.statement :: rest.statements⟩

/-- Runs a query in a transaction that is rolled back before the result is made. -/
def executeOnServer (engine : Engine) (packages : Packages) (server : Server) (sql : String)
    (limit : Time.Span) : Transcript QueryResult :=
  let opened := sendFrames engine server limit (engine.opening limit)
  match opened.outcome with
  | .error halt => ⟨.error halt, opened.statements⟩
  | .ok () =>
      let sent := opened.statements ++ [sql]
      match server.reply sql with
      | .unanswered => .failed (.timeout limit) sent
      | .refused refusal => .failed (engine.refusalFailure refusal) sent
      | .done =>
          match fetch engine packages server.result with
          | .error halt => ⟨.error halt, sent⟩
          | .ok fetched =>
              let closed := sendFrames engine server limit [⟨engine.closing, true⟩]
              ⟨closed.outcome >>= fun () => fetched.toResult engine, sent ++ closed.statements⟩

/-! ## Remote databases -/

/-- The structure of a remote database. -/
def introspectRemote (engine : Engine) (network : Net.Network) (connectionString : String)
    (server : Server) : Transcript Snapshot :=
  match connect engine network connectionString server with
  | .error failure => .failed failure []
  | .ok () => introspectServer engine server

/-- Runs a query on a remote database. -/
def executeRemote (engine : Engine) (network : Net.Network) (connectionString : String)
    (packages : Packages) (server : Server) (sql : String) (limit : Time.Span) :
    Transcript QueryResult :=
  match connect engine network connectionString server with
  | .error failure => .failed failure []
  | .ok () => executeOnServer engine packages server sql limit

end QueryWarden.Targets
