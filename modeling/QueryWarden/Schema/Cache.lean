import QueryWarden.Schema.Snapshot

/-!
# The snapshot cache

A map from keys to snapshots in which every entry lives for a fixed time. The clock is an argument
of each operation; times and lifetimes are counted in nanoseconds.
-/

namespace QueryWarden.Schema

/-- A snapshot and the time it was stored. -/
structure CacheEntry where
  key : String
  snapshot : Snapshot
  storedAt : Nat
  deriving DecidableEq, Repr

/-- Snapshots by key, each key at most once. -/
structure Cache where
  lifetime : Nat
  entries : List CacheEntry
  deriving Repr

namespace Cache

/-- An empty cache. -/
def empty (lifetime : Nat) : Cache := ⟨lifetime, []⟩

/-- The lifetime of an entry unless another is asked for, in seconds. -/
def defaultLifetimeSeconds : Nat := 60 * 60

/-- The entry is still alive. -/
def isFresh (cache : Cache) (now : Nat) (entry : CacheEntry) : Bool :=
  decide (now - entry.storedAt < cache.lifetime)

/-- The snapshot stored under a key, while it lives. -/
def get? (cache : Cache) (now : Nat) (key : String) : Option Snapshot :=
  match cache.entries.find? fun entry => entry.key == key with
  | some entry => if cache.isFresh now entry then some entry.snapshot else none
  | none => none

/-- Stores a snapshot in place of what the key had, and drops what has expired. -/
def set (cache : Cache) (now : Nat) (key : String) (snapshot : Snapshot) : Cache :=
  let kept := cache.entries.filter fun entry => cache.isFresh now entry && entry.key != key
  { cache with entries := kept ++ [⟨key, snapshot, now⟩] }

/-- Drops every entry whose key starts with `opening`. -/
def invalidate (cache : Cache) (opening : String) : Cache :=
  { cache with
    entries := cache.entries.filter fun entry => !opening.toList.isPrefixOf entry.key.toList }

end Cache

end QueryWarden.Schema
