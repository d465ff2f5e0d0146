import QueryWarden.Service.Queries

/-!
# Operations

Everything a client can ask of the service, as one type, and what the service does about it. Only
the registry's own operations change connections; changing or removing one drops its cached schemas.
-/

namespace QueryWarden.Service

open QueryWarden.Connections QueryWarden.Database QueryWarden.History QueryWarden.Schema
open QueryWarden.Sql

/-- What a client asks. -/
inductive Operation where
  | generate (question : String) (id : Int)
  | execute (sql : String) (id : Int)
  | validate (sql : String) (dialect : Dialect)
  | suggest (id : Int)
  | schema (id : Int)
  | refreshSchema (id : Int)
  | history (limit : UInt64)
  | clearHistory
  | connections
  | connection (id : Int)
  | createConnection (draft : Draft)
  | updateConnection (id : Int) (draft : Draft)
  | deleteConnection (id : Int)
  | status
  deriving DecidableEq, Repr

/-- What is told about the running service. -/
structure Status where
  version : String
  uptimeSeconds : Int
  backendName : String
  connectionCount : Nat
  deriving DecidableEq, Repr

/-- What a client is given. -/
inductive Outcome where
  | generated (generated : Generated)
  | result (result : QueryResult)
  | verdict (verdict : Verdict)
  | questions (questions : List String)
  | snapshot (snapshot : Snapshot)
  | records (records : List Record)
  | cleared (count : Nat)
  | connections (connections : List Connection)
  | connection (connection : Connection)
  | created (connection : Connection)
  | deleted
  | status (status : Status)

/-- The version that the service tells. -/
def version : String := "0.1.0"

namespace State

/-- The schema of a connection's database. -/
def schema (state : State) (setup : Setup) (occasion : Occasion) (id : Int) :
    Except Failure Snapshot × State :=
  match state.connection setup id with
  | .error failure => (.error failure, state)
  | .ok connection => state.load occasion connection

/-- The schema of a connection's database, introspected anew. -/
def refreshSchema (state : State) (setup : Setup) (occasion : Occasion) (id : Int) :
    Except Failure Snapshot × State :=
  match state.connection setup id with
  | .error failure => (.error failure, state)
  | .ok connection => state.reload occasion connection

/-- The latest records of the log. -/
def records (state : State) (limit : UInt64) : Except Failure (List Record) :=
  match state.history with
  | none => .error (.ofDatabase lostHistory)
  | some store => (store.list limit).mapError Failure.ofDatabase

/-- Removes all records of the log and tells how many there were. -/
def clearHistory (state : State) : Except Failure Nat × State :=
  match state.history with
  | none => (.error (.ofDatabase lostHistory), state)
  | some store =>
      let (count, store) := store.clear
      (.ok count, { state with history := some store })

/-- All connections. -/
def connections (state : State) (setup : Setup) : Except Failure (List Connection) :=
  (state.registry.list setup.cipher).mapError Failure.ofDatabase

/-- Registers a connection. -/
def createConnection (state : State) (setup : Setup) (occasion : Occasion) (draft : Draft) :
    Except Failure Connection × State :=
  let (outcome, registry) := state.registry.create (setup.circumstances occasion) draft
  (outcome.mapError Failure.ofDatabase, { state with registry })

/-- The state after the registry was asked to change a connection: if it did, the cached schemas of
the connection are dropped. -/
def afterChange (state : State) (id : Int)
    (change : Except Database.Failure Connection × Registry) : Except Failure Connection × State :=
  match change with
  | (.ok connection, registry) =>
      (.ok connection, { state with registry, cache := state.cache.forget id })
  | (.error failure, registry) => (.error (.ofDatabase failure), { state with registry })

/-- Changes a connection. -/
def updateConnection (state : State) (setup : Setup) (occasion : Occasion) (id : Int)
    (draft : Draft) : Except Failure Connection × State :=
  state.afterChange id (state.registry.update (setup.circumstances occasion) id draft)

/-- Removes a connection. -/
def deleteConnection (state : State) (setup : Setup) (id : Int) :
    Except Failure Connection × State :=
  state.afterChange id (state.registry.delete setup.cipher id)

/-- What is told about the running service. -/
def status (state : State) (setup : Setup) (occasion : Occasion) : Except Failure Status :=
  (state.connections setup).map fun connections =>
    ⟨version, occasion.uptimeSeconds, setup.backendName, connections.length⟩

/-- Does what a client asks. -/
def perform (state : State) (setup : Setup) (occasion : Occasion) :
    Operation → Except Failure Outcome × State
  | .generate question id =>
      let (outcome, state) := state.generate setup occasion question id
      (outcome.map .generated, state)
  | .execute sql id =>
      let (outcome, state) := state.execute setup occasion sql id
      (outcome.map .result, state)
  | .validate sql dialect => (.ok (.verdict (setup.validator.validate sql dialect)), state)
  | .suggest id =>
      let (outcome, state) := state.suggest setup occasion id
      (outcome.map .questions, state)
  | .schema id =>
      let (outcome, state) := state.schema setup occasion id
      (outcome.map .snapshot, state)
  | .refreshSchema id =>
      let (outcome, state) := state.refreshSchema setup occasion id
      (outcome.map .snapshot, state)
  | .history limit => ((state.records limit).map .records, state)
  | .clearHistory =>
      let (outcome, state) := state.clearHistory
      (outcome.map .cleared, state)
  | .connections => ((state.connections setup).map .connections, state)
  | .connection id => ((state.connection setup id).map .connection, state)
  | .createConnection draft =>
      let (outcome, state) := state.createConnection setup occasion draft
      (outcome.map .created, state)
  | .updateConnection id draft =>
      let (outcome, state) := state.updateConnection setup occasion id draft
      (outcome.map .connection, state)
  | .deleteConnection id =>
      let (outcome, state) := state.deleteConnection setup id
      (outcome.map fun _ => .deleted, state)
  | .status => ((state.status setup occasion).map .status, state)

end State

end QueryWarden.Service
