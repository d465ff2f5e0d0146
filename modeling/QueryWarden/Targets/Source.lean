import QueryWarden.Connections.Connection
import QueryWarden.Embedded.Query
import QueryWarden.Targets.Session

/-!
# Sources

The databases behind registered connections: a file of the embedded engine or a remote server. Only
SQL Server's connection strings are looked at before they are used.
-/

namespace QueryWarden.Targets

open QueryWarden.Connections QueryWarden.Database QueryWarden.Embedded QueryWarden.Schema
open QueryWarden.Sql

/-- Everything outside that sources look at: the files, the network, the packages that speak to
servers and what a server that is reached would answer. -/
structure Surroundings where
  files : Files
  network : Net.Network
  packages : Packages
  server : Server

/-- A database that can be introspected and queried. -/
inductive Source where
  | embedded (path : String)
  | remote (engine : Engine) (connectionString : String)
  deriving DecidableEq, Repr

/-- The source of a connection string. -/
def openSource (dialect : Dialect) (connectionString : String) : Except Failure Source :=
  match Engine.ofDialect? dialect with
  | none => .ok (.embedded connectionString)
  | some .sqlServer =>
      (Engine.sqlServer.address connectionString).map fun _ =>
        .remote .sqlServer connectionString
  | some engine => .ok (.remote engine connectionString)

/-- The structure of a source's database. -/
def Source.introspect (around : Surroundings) (source : Source) : Except Halt Snapshot :=
  match source with
  | .embedded path =>
      match around.files.open? path with
      | .error failure => .error (.failure failure)
      | .ok database => .ok database.introspect
  | .remote engine connectionString =>
      (introspectRemote engine around.network connectionString around.server).outcome

/-- The result of a query on a source. -/
def Source.execute (around : Surroundings) (source : Source) (sql : String) (limit : Time.Span) :
    Except Halt QueryResult :=
  match source with
  | .embedded path =>
      match around.files.open? path with
      | .error failure => .error (.failure failure)
      | .ok database =>
          match database.run sql with
          | .result result => .ok result
          | .refused => .error (.failure (.engine "the statement cannot be run"))
          | .endless => .error (.failure (.timeout limit))
  | .remote engine connectionString =>
      (executeRemote engine around.network connectionString around.packages around.server sql
        limit).outcome

/-! ## Databases in use -/

/-- Databases as those who use them see them: a connection string is opened and the database behind
it introspected or queried. -/
structure Databases where
  introspect : Dialect → String → Except Failure Snapshot
  execute : Dialect → String → String → Time.Span → Except Failure QueryResult

/-- Whatever is asked of a source, the caller hears of it. -/
structure Surroundings.AlwaysTell (around : Surroundings) : Prop where
  introspect : ∀ source : Source, source.introspect around ≠ .error .lost
  execute : ∀ (source : Source) sql limit, source.execute around sql limit ≠ .error .lost

/-- What the caller hears. -/
def told {α : Type} : (outcome : Except Halt α) → outcome ≠ .error .lost → Except Failure α
  | .ok value, _ => .ok value
  | .error (.failure failure), _ => .error failure
  | .error .lost, htold => absurd rfl htold

/-- The databases that the surroundings hold. -/
def Surroundings.databases (around : Surroundings) (htold : around.AlwaysTell) : Databases where
  introspect dialect connectionString := do
    let source ← openSource dialect connectionString
    told (source.introspect around) (htold.introspect source)
  execute dialect connectionString sql limit := do
    let source ← openSource dialect connectionString
    told (source.execute around sql limit) (htold.execute source sql limit)

theorem connect_eq_error {network : Net.Network}
    (hnetwork : ∀ host port, (network host port).isSome) (engine : Engine)
    (connectionString : String) (server : Server) :
    ∃ failure, connect engine network connectionString server = .error failure := by
  rw [connect]
  cases engine.address connectionString with
  | error failure => exact ⟨failure, rfl⟩
  | ok address =>
      obtain ⟨reason, hreason⟩ := Option.isSome_iff_exists.mp (hnetwork address.1 address.2)
      refine ⟨engine.networkFailure reason, ?_⟩
      simp only [bind, Except.bind, hreason]

/-- Where no server is reached, nothing is lost. -/
theorem Surroundings.alwaysTell_of_isolated {around : Surroundings}
    (hnetwork : ∀ host port, (around.network host port).isSome) : around.AlwaysTell := by
  constructor
  · rintro (path | ⟨engine, connectionString⟩)
    · rw [Source.introspect]
      cases around.files.open? path <;> simp
    · obtain ⟨failure, hfailure⟩ :=
        connect_eq_error hnetwork engine connectionString around.server
      simp [Source.introspect, introspectRemote, hfailure, Transcript.failed]
  · rintro (path | ⟨engine, connectionString⟩) sql limit
    · rw [Source.execute]
      cases around.files.open? path with
      | error failure => simp
      | ok database => cases hrun : database.run sql <;> simp [hrun]
    · obtain ⟨failure, hfailure⟩ :=
        connect_eq_error hnetwork engine connectionString around.server
      simp [Source.execute, executeRemote, hfailure, Transcript.failed]

end QueryWarden.Targets
