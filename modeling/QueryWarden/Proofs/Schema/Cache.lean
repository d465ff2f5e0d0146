import QueryWarden.Proofs.Schema.CacheKey
import QueryWarden.Targets.CachedSchema

/-!
# Entries of the snapshot cache

Which entries the operations on the cache leave, and how asking for a connection's schema ends.
Entries may be dropped at any time; a new one holds what was introspected just then.
-/

namespace QueryWarden.Schema.Cache

open QueryWarden.Connections QueryWarden.Targets

variable {cache : Cache}

/-- A snapshot that is found is that of an entry with the key. -/
theorem exists_of_get?_eq_some {now : Nat} {key : String} {snapshot : Snapshot}
    (hget : cache.get? now key = some snapshot) :
    ∃ entry ∈ cache.entries, entry.key = key ∧ entry.snapshot = snapshot := by
  rw [get?] at hget
  split at hget
  next entry hentry =>
    have hkey := List.find?_some hentry
    obtain ⟨-, hsnapshot⟩ := Option.ite_none_right_eq_some.mp hget
    exact ⟨entry, List.mem_of_find?_eq_some hentry, beq_iff_eq.mp hkey,
      Option.some.inj hsnapshot⟩
  next => cases hget

theorem mem_entries_set {now : Nat} {key : String} {snapshot : Snapshot} {entry : CacheEntry}
    (hentry : entry ∈ (cache.set now key snapshot).entries) :
    entry ∈ cache.entries ∨ entry = ⟨key, snapshot, now⟩ :=
  (List.mem_append.mp hentry).imp (fun hkept => (List.mem_filter.mp hkept).1) List.mem_singleton.mp

/-- Forgetting an id leaves the entries whose keys start otherwise. -/
theorem mem_entries_forget_iff {id : Int} {entry : CacheEntry} :
    entry ∈ (cache.forget id).entries ↔
      entry ∈ cache.entries ∧ ¬ keyOpening id <+: entry.key.toList := by
  simp [forget, invalidate, connectionOpening, ← List.isPrefixOf_iff_prefix]

section Loading

variable {times : LoadTimes} {databases : Databases} {connection : Connection}

/-- A schema that is asked for is found in the cache or else introspected. -/
theorem of_load_eq_ok {snapshot : Snapshot}
    (hload : (cache.load times databases connection).1 = .ok snapshot) :
    (∃ entry ∈ cache.entries, entry.key = keyOf connection ∧ entry.snapshot = snapshot) ∨
      cache.get? times.asked (keyOf connection) = none ∧
        databases.introspect connection.dialect connection.connectionString = .ok snapshot := by
  rw [load] at hload
  split at hload
  next found hfound =>
    obtain rfl := Except.ok.inj hload
    exact .inl (exists_of_get?_eq_some hfound)
  next hmissed =>
    split at hload
    next => cases hload
    next introspected hintrospected =>
      obtain rfl := Except.ok.inj hload
      exact .inr ⟨hmissed, hintrospected⟩

/-- Only introspecting fails. -/
theorem of_load_eq_error {failure : Database.Failure}
    (hload : (cache.load times databases connection).1 = .error failure) :
    databases.introspect connection.dialect connection.connectionString = .error failure := by
  rw [load] at hload
  split at hload
  next => cases hload
  next =>
    split at hload
    next refused hrefused =>
      obtain rfl := Except.error.inj hload
      exact hrefused
    next => cases hload

/-- An entry that is new after a schema was asked for holds what was introspected. -/
theorem of_mem_entries_load {entry : CacheEntry}
    (hentry : entry ∈ (cache.load times databases connection).2.entries) :
    entry ∈ cache.entries ∨ entry.key = keyOf connection ∧
      cache.get? times.asked (keyOf connection) = none ∧
      databases.introspect connection.dialect connection.connectionString = .ok entry.snapshot := by
  rw [load] at hentry
  split at hentry
  next => exact .inl hentry
  next hmissed =>
    split at hentry
    next => exact .inl hentry
    next introspected hintrospected =>
      obtain hold | rfl := mem_entries_set hentry
      · exact .inl hold
      · exact .inr ⟨rfl, hmissed, hintrospected⟩

end Loading

end QueryWarden.Schema.Cache
