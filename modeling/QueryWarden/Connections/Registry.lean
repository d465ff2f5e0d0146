import QueryWarden.Connections.Cipher
import QueryWarden.Connections.Connection

/-!
# The connection registry

The table of registered connections as it is stored: dialects by name, connection strings sealed,
creation times as text. Rows are kept in the order of their ids, each id once. Every operation that
writes gives its outcome and the table after it. The nonce for sealing and the time are arguments.
-/

namespace QueryWarden.Connections

open QueryWarden.Database QueryWarden.Sql

/-- A row of the table. -/
structure StoredConnection where
  id : Int
  name : String
  dialect : String
  sealedString : String
  createdAt : String
  deriving DecidableEq, Repr

/-- The table of connections. -/
structure Registry where
  rows : List StoredConnection
  deriving DecidableEq, Repr

/-- What an operation needs from outside: the cipher, a fresh nonce and the time. -/
structure Circumstances where
  cipher : Cipher
  nonce : List UInt8
  now : Time.Timestamp

/-- The largest id there is. -/
def maxId : Int := Int.pow 2 63 - 1

/-- A row with everything in it readable. -/
def StoredConnection.decode (cipher : Cipher) (row : StoredConnection) :
    Except Failure Connection := do
  let dialect ←
    match Dialect.ofName? row.dialect with
    | some dialect => .ok dialect
    | none => .error (.invalidConfiguration (Dialect.unsupported row.dialect))
  let createdAt ←
    match Time.Timestamp.ofText? row.createdAt.toList with
    | .ok createdAt => .ok createdAt
    | .error fault =>
        .error (.invalidConfiguration
          ("bad timestamp for connection " ++ toString row.id ++ ": " ++ fault.message))
  match cipher.openText row.sealedString with
  | .ok connectionString => .ok ⟨row.id, row.name, dialect, connectionString, createdAt⟩
  | .error fault => .error (.secret fault.message)

namespace Registry

/-- A registry without connections. -/
def empty : Registry := ⟨[]⟩

/-- The row with an id. -/
def find? (registry : Registry) (id : Int) : Option StoredConnection :=
  registry.rows.find? fun row => row.id == id

/-- Puts a row in its place among the ids. -/
def insertRow (row : StoredConnection) : List StoredConnection → List StoredConnection
  | [] => [row]
  | other :: rows => if row.id < other.id then row :: other :: rows else other :: insertRow row rows

/-- The registry with one more row, whose id is new. -/
def insert (registry : Registry) (row : StoredConnection) : Registry :=
  ⟨insertRow row registry.rows⟩

/-- The registry with the row of an id changed. -/
def modify (registry : Registry) (id : Int) (change : StoredConnection → StoredConnection) :
    Registry :=
  ⟨registry.rows.map fun row => if row.id = id then change row else row⟩

/-- The id after the largest one, counting from one. -/
def nextId (registry : Registry) : Int :=
  (registry.rows.foldl (fun largest row => max largest row.id)
    ((registry.rows.head?.map StoredConnection.id).getD 0)) + 1

/-- Inserts or changes the connection of a setting; the creation time of one that is there stays. -/
def upsert (registry : Registry) (context : Circumstances) (setting : Settings) : Registry :=
  let sealedString := context.cipher.sealText context.nonce setting.connectionString
  match registry.find? setting.id with
  | some _ =>
      registry.modify setting.id fun row =>
        { row with name := setting.name, dialect := setting.dialect.tag, sealedString }
  | none =>
      registry.insert
        ⟨setting.id, setting.name, setting.dialect.tag, sealedString, context.now.storedText⟩

/-- Takes over the connections of the configuration, each sealed with a nonce of its own; those
created by clients are left alone. -/
def seedEach (registry : Registry) (cipher : Cipher) (now : Time.Timestamp)
    (settings : List (List UInt8 × Settings)) : Registry :=
  settings.foldl
    (fun registry (nonce, setting) => registry.upsert ⟨cipher, nonce, now⟩ setting) registry

/-- Takes over the connections of the configuration, all sealed with one nonce. -/
def seed (registry : Registry) (context : Circumstances) (settings : List Settings) : Registry :=
  registry.seedEach context.cipher context.now
    (settings.map fun setting => (context.nonce, setting))

/-- All connections in the order of their ids. -/
def list (registry : Registry) (cipher : Cipher) : Except Failure (List Connection) :=
  registry.rows.mapM fun row => row.decode cipher

/-- The connection with an id. -/
def get (registry : Registry) (cipher : Cipher) (id : Int) : Except Failure Connection :=
  match registry.find? id with
  | some row => row.decode cipher
  | none => .error (.notFound id)

/-- Registers a connection under the next id. -/
def create (registry : Registry) (context : Circumstances) (draft : Draft) :
    Except Failure Connection × Registry :=
  match draft.check with
  | .error failure => (.error failure, registry)
  | .ok () =>
      let id := registry.nextId
      if maxId < id then (.error (.engine "no id is left"), registry)
      else
        let createdAt := context.now.toMicros
        let sealedString := context.cipher.sealText context.nonce draft.connectionString
        (.ok ⟨id, draft.name, draft.dialect, draft.connectionString, createdAt⟩,
          registry.insert
            ⟨id, draft.name, draft.dialect.tag, sealedString, createdAt.storedText⟩)

/-- Changes a connection and keeps its id and creation time. The row is changed before it is read
back. -/
def update (registry : Registry) (context : Circumstances) (id : Int) (draft : Draft) :
    Except Failure Connection × Registry :=
  match draft.check with
  | .error failure => (.error failure, registry)
  | .ok () =>
      match registry.find? id with
      | none => (.error (.notFound id), registry)
      | some _ =>
          let changed := registry.modify id fun row =>
            { row with
              name := draft.name, dialect := draft.dialect.tag,
              sealedString := context.cipher.sealText context.nonce draft.connectionString }
          (changed.get context.cipher id, changed)

/-- Removes a connection, which must be readable, and gives it back. -/
def delete (registry : Registry) (cipher : Cipher) (id : Int) :
    Except Failure Connection × Registry :=
  match registry.get cipher id with
  | .error failure => (.error failure, registry)
  | .ok connection => (.ok connection, ⟨registry.rows.filter fun row => row.id != id⟩)

end Registry

end QueryWarden.Connections
