import QueryWarden.Schema.Cache
import QueryWarden.Schema.CacheKey
import QueryWarden.Targets.Source

/-!
# Cached schemas of connections

The schema of a connection's database, taken from the cache while it lives there and otherwise
introspected and stored. What fails is not stored.
-/

namespace QueryWarden.Schema.Cache

open QueryWarden.Connections QueryWarden.Targets

/-- When a schema is asked for, and when the database has answered, by the clock of the cache. -/
structure LoadTimes where
  asked : Nat
  answered : Nat
  deriving DecidableEq, Repr

/-- The key of a connection. -/
def keyOf (connection : Connection) : String :=
  cacheKey connection.id connection.connectionString

/-- The schema of a connection and the cache after it was asked for. -/
def load (cache : Cache) (times : LoadTimes) (databases : Databases) (connection : Connection) :
    Except Database.Failure Snapshot × Cache :=
  match cache.get? times.asked (keyOf connection) with
  | some snapshot => (.ok snapshot, cache)
  | none =>
      match databases.introspect connection.dialect connection.connectionString with
      | .error failure => (.error failure, cache)
      | .ok snapshot => (.ok snapshot, cache.set times.answered (keyOf connection) snapshot)

/-- Drops every snapshot of a connection. -/
def forget (cache : Cache) (id : Int) : Cache :=
  cache.invalidate (connectionOpening id)

/-- The schema of a connection, introspected anew. -/
def refresh (cache : Cache) (times : LoadTimes) (databases : Databases) (connection : Connection) :
    Except Database.Failure Snapshot × Cache :=
  (cache.forget connection.id).load times databases connection

end QueryWarden.Schema.Cache
