import QueryWarden.Proofs.Schema.Cache
import Mathlib.Data.List.Nodup

/-!
# What refreshing a schema leaves in the cache

A refresh forgets the snapshots of a connection before its database is asked. So what it leaves
depends on the answer: the new snapshot alone, or, if the database does not answer, nothing of the
connection. Keys of other connections are not concerned, except that what has expired may be gone.
-/

namespace QueryWarden.Schema

open QueryWarden.Connections QueryWarden.Targets

/-- The key is one of the id. -/
def IsKeyOf (id : Int) (key : String) : Prop :=
  keyOpening id <+: key.toList

instance (id : Int) : DecidablePred (IsKeyOf id) := fun key =>
  inferInstanceAs (Decidable (keyOpening id <+: key.toList))

theorem isKeyOf_cacheKey_iff {id other : Int} {connectionString : String} :
    IsKeyOf id (cacheKey other connectionString) ↔ id = other :=
  keyOpening_prefix_iff

namespace Cache

/-- Each key is held at most once. -/
def HasDistinctKeys (cache : Cache) : Prop :=
  (cache.entries.map CacheEntry.key).Nodup

variable {cache : Cache}

theorem HasDistinctKeys.invalidate (hdistinct : cache.HasDistinctKeys) (opening : String) :
    (cache.invalidate opening).HasDistinctKeys :=
  hdistinct.sublist (List.filter_sublist.map _)

theorem HasDistinctKeys.set (hdistinct : cache.HasDistinctKeys) (now : Nat) (key : String)
    (snapshot : Snapshot) : (cache.set now key snapshot).HasDistinctKeys := by
  unfold HasDistinctKeys Cache.set
  rw [List.map_append, List.nodup_append_comm, List.map_singleton, List.singleton_append,
    List.nodup_cons]
  constructor
  · intro hkey
    obtain ⟨entry, hentry, hsame⟩ := List.mem_map.mp hkey
    have hkept := (List.mem_filter.mp hentry).2
    simp [hsame] at hkept
  · exact hdistinct.sublist (List.filter_sublist.map _)

theorem HasDistinctKeys.forget (hdistinct : cache.HasDistinctKeys) (id : Int) :
    (cache.forget id).HasDistinctKeys :=
  hdistinct.invalidate _

/-- What is found under a key is what the entry with the key holds, while it lives. -/
theorem get?_eq_some_iff (hdistinct : cache.HasDistinctKeys) {now : Nat} {key : String}
    {snapshot : Snapshot} :
    cache.get? now key = some snapshot ↔
      ∃ entry ∈ cache.entries, entry.key = key ∧ cache.isFresh now entry = true ∧
        entry.snapshot = snapshot := by
  unfold get?
  cases hfind : cache.entries.find? fun entry => entry.key == key with
  | none =>
      have hnone := List.find?_eq_none.mp hfind
      constructor
      · nofun
      · rintro ⟨entry, hentry, hkey, -⟩
        exact absurd (beq_iff_eq.mpr hkey) (hnone entry hentry)
  | some found =>
      have hmem := List.mem_of_find?_eq_some hfind
      have hkey := List.find?_some hfind
      rw [beq_iff_eq] at hkey
      constructor
      · intro hget
        obtain ⟨hfresh, hsnapshot⟩ := Option.ite_none_right_eq_some.mp hget
        exact ⟨found, hmem, hkey, hfresh, Option.some.inj hsnapshot⟩
      · rintro ⟨entry, hentry, hsame, hfresh, rfl⟩
        obtain rfl := List.inj_on_of_nodup_map hdistinct hmem hentry (hkey.trans hsame.symm)
        exact if_pos hfresh

/-! ## Storing -/

theorem get?_set_self (now later : Nat) (key : String) (snapshot : Snapshot) :
    (cache.set now key snapshot).get? later key =
      if later - now < cache.lifetime then some snapshot else none := by
  have hkept : (cache.entries.filter fun entry =>
      cache.isFresh now entry && entry.key != key).find? (fun entry => entry.key == key) =
        none := by
    apply List.find?_eq_none.mpr
    intro entry hentry hkey
    have hother := (List.mem_filter.mp hentry).2
    rw [beq_iff_eq.mp hkey] at hother
    simp at hother
  have hfind : (cache.set now key snapshot).entries.find? (fun entry => entry.key == key) =
      some ⟨key, snapshot, now⟩ := by
    apply List.find?_append.trans
    rw [hkept]
    simp
  unfold get?
  rw [hfind]
  change (if decide (later - now < cache.lifetime) = true then some snapshot else none) = _
  simp only [decide_eq_true_eq]

/-- What has expired when a snapshot is stored stays so, so other keys keep their answers. -/
theorem get?_set_of_ne (hdistinct : cache.HasDistinctKeys) {now later : Nat} (hlater : now ≤ later)
    {key other : String} (hother : other ≠ key) (snapshot : Snapshot) :
    (cache.set now key snapshot).get? later other = cache.get? later other := by
  apply Option.ext
  intro found
  rw [get?_eq_some_iff (hdistinct.set now key snapshot), get?_eq_some_iff hdistinct]
  constructor
  · rintro ⟨entry, hentry, rfl, hfresh, hfound⟩
    rcases mem_entries_set hentry with hold | rfl
    · exact ⟨entry, hold, rfl, hfresh, hfound⟩
    · exact absurd rfl hother
  · rintro ⟨entry, hentry, rfl, hfresh, hfound⟩
    refine ⟨entry, List.mem_append_left _ (List.mem_filter.mpr ⟨hentry, ?_⟩), rfl, hfresh, hfound⟩
    have hearlier : cache.isFresh now entry = true := by
      simp only [isFresh, decide_eq_true_eq] at hfresh ⊢
      omega
    simp [hearlier, hother]

/-! ## Forgetting -/

theorem get?_forget_of_isKeyOf {id : Int} {key : String} (hkey : IsKeyOf id key) (now : Nat) :
    (cache.forget id).get? now key = none := by
  apply Option.eq_none_iff_forall_ne_some.mpr
  intro snapshot hget
  obtain ⟨entry, hentry, rfl, -⟩ := exists_of_get?_eq_some hget
  exact (mem_entries_forget_iff.mp hentry).2 hkey

theorem get?_forget_of_not_isKeyOf {id : Int} {key : String} (hkey : ¬ IsKeyOf id key) (now : Nat) :
    (cache.forget id).get? now key = cache.get? now key := by
  have hfind : (cache.forget id).entries.find? (fun entry => entry.key == key) =
      cache.entries.find? (fun entry => entry.key == key) := by
    unfold forget invalidate connectionOpening
    rw [List.find?_filter]
    congr 1
    funext entry
    by_cases hsame : entry.key = key
    · subst hsame
      simpa [IsKeyOf, ← List.isPrefixOf_iff_prefix] using hkey
    · simp [hsame]
  unfold get?
  rw [hfind]
  rfl

/-! ## Refreshing -/

section Refreshing

variable {times : LoadTimes} {databases : Databases} {connection : Connection}

theorem isKeyOf_keyOf (connection : Connection) : IsKeyOf connection.id (keyOf connection) :=
  isKeyOf_cacheKey_iff.mpr rfl

/-- A refresh always asks the database, since it has just forgotten what the cache had. -/
theorem refresh_eq :
    cache.refresh times databases connection =
      match databases.introspect connection.dialect connection.connectionString with
      | .error failure => (.error failure, cache.forget connection.id)
      | .ok snapshot =>
          (.ok snapshot,
            (cache.forget connection.id).set times.answered (keyOf connection) snapshot) := by
  have hmissed : (cache.forget connection.id).get? times.asked (keyOf connection) = none :=
    get?_forget_of_isKeyOf (isKeyOf_keyOf connection) times.asked
  unfold refresh load
  cases databases.introspect connection.dialect connection.connectionString with
  | error failure => simp only [hmissed]
  | ok snapshot => simp only [hmissed]

/-- What is left of a cache in which the snapshots of an id could not be refreshed. -/
structure Lacks (left cache : Cache) (id : Int) : Prop where
  /-- Its snapshots are gone, those that were alive as well. -/
  lost : ∀ now key, IsKeyOf id key → left.get? now key = none
  others : ∀ now key, ¬ IsKeyOf id key → left.get? now key = cache.get? now key
  /-- So nothing has changed exactly when nothing of the id was alive. -/
  unchanged_iff : ∀ now, (∀ key, left.get? now key = cache.get? now key) ↔
    ∀ key, IsKeyOf id key → cache.get? now key = none

/-- What becomes of a cache in which a snapshot of an id was refreshed. -/
structure Renews (renewed cache : Cache) (id : Int) (key : String) (snapshot : Snapshot)
    (answered : Nat) : Prop where
  /-- The new entry is the only one of the id. -/
  only : renewed.entries.filter (fun entry => IsKeyOf id entry.key) = [⟨key, snapshot, answered⟩]
  served : ∀ now, renewed.get? now key =
    if now - answered < cache.lifetime then some snapshot else none
  /-- From then on other keys are answered as before. -/
  others : ∀ now other, answered ≤ now → ¬ IsKeyOf id other →
    renewed.get? now other = cache.get? now other

theorem lacks_forget (cache : Cache) (id : Int) :
    (cache.forget id).Lacks cache id where
  lost now key hkey := get?_forget_of_isKeyOf hkey now
  others now key hkey := get?_forget_of_not_isKeyOf hkey now
  unchanged_iff now := by
    constructor
    · intro hsame key hkey
      rw [← hsame key]
      exact get?_forget_of_isKeyOf hkey now
    · intro hdead key
      by_cases hkey : IsKeyOf id key
      · rw [get?_forget_of_isKeyOf hkey, hdead key hkey]
      · exact get?_forget_of_not_isKeyOf hkey now

theorem renews_set_forget (hdistinct : cache.HasDistinctKeys) {id : Int} {key : String}
    (hkey : IsKeyOf id key) (snapshot : Snapshot) (answered : Nat) :
    ((cache.forget id).set answered key snapshot).Renews cache id key snapshot answered where
  only := by
    unfold Cache.set
    rw [List.filter_append, List.filter_singleton, decide_eq_true hkey]
    have hnone : ∀ entry ∈ (cache.forget id).entries, ¬ IsKeyOf id entry.key :=
      fun entry hentry => (mem_entries_forget_iff.mp hentry).2
    have hdropped : ((cache.forget id).entries.filter fun entry =>
        (cache.forget id).isFresh answered entry && entry.key != key).filter
          (fun entry => IsKeyOf id entry.key) = [] := by
      apply List.filter_eq_nil_iff.mpr
      intro entry hentry
      have hother := hnone entry (List.mem_filter.mp hentry).1
      simpa using hother
    rw [hdropped]
    rfl
  served now := get?_set_self answered now key snapshot
  others now other hlater hother := by
    have hne : other ≠ key := by
      rintro rfl
      exact hother hkey
    rw [get?_set_of_ne (hdistinct.forget id) hlater hne]
    exact get?_forget_of_not_isKeyOf hother now

/-- A refresh ends as introspecting does; if that fails, the snapshots of the connection are gone
nevertheless. -/
theorem refresh_lacks_or_renews (hdistinct : cache.HasDistinctKeys) (times : LoadTimes)
    (databases : Databases) (connection : Connection) :
    (cache.refresh times databases connection).1 =
        databases.introspect connection.dialect connection.connectionString ∧
      (∀ failure, (cache.refresh times databases connection).1 = .error failure →
        (cache.refresh times databases connection).2.Lacks cache connection.id) ∧
      ∀ snapshot, (cache.refresh times databases connection).1 = .ok snapshot →
        (cache.refresh times databases connection).2.Renews cache connection.id
          (keyOf connection) snapshot times.answered := by
  rw [refresh_eq]
  cases databases.introspect connection.dialect connection.connectionString with
  | error failure =>
      refine ⟨rfl, ?_, nofun⟩
      intro _ _
      exact lacks_forget cache connection.id
  | ok snapshot =>
      refine ⟨rfl, nofun, ?_⟩
      rintro _ ⟨⟩
      exact renews_set_forget hdistinct (isKeyOf_keyOf connection) snapshot times.answered

/-- The shop's tables have changed, and the other connection is left alone. -/
theorem refresh_renews_shop :
    let shop : Connection := ⟨1, "shop", .duckDb, "/shop.duckdb", ⟨0, ⟨0, 0⟩⟩⟩
    let old : Snapshot := ⟨[.bare "main" "orders"]⟩
    let new : Snapshot := ⟨[.bare "main" "invoices"]⟩
    let cache : Cache := ⟨10, [⟨"schema_1_a", old, 0⟩, ⟨"schema_2_a", old, 1⟩]⟩
    let databases : Databases := ⟨fun _ _ => .ok new, fun _ _ _ _ => .error (.task "")⟩
    cache.HasDistinctKeys ∧
      (cache.refresh ⟨5, 6⟩ databases shop).2.Renews cache 1 (keyOf shop) new 6 := by
  intro shop old new cache databases
  have hdistinct : cache.HasDistinctKeys := by
    unfold HasDistinctKeys
    decide
  obtain ⟨houtcome, -, hrenews⟩ := refresh_lacks_or_renews hdistinct ⟨5, 6⟩ databases shop
  exact ⟨hdistinct, hrenews new houtcome⟩

/-- The shop's file is gone, and with the first refresh so is the snapshot that was served. -/
theorem refresh_loses_snapshot :
    let shop : Connection := ⟨1, "shop", .duckDb, "/shop.duckdb", ⟨0, ⟨0, 0⟩⟩⟩
    let orders : Snapshot := ⟨[.bare "main" "orders"]⟩
    let cache : Cache := ⟨10, [⟨keyOf shop, orders, 0⟩]⟩
    let around : Surroundings := ⟨[], fun _ _ => some "unreachable", .refusing "", .silent⟩
    let databases := around.databases (Surroundings.alwaysTell_of_isolated fun _ _ => rfl)
    let refreshed := cache.refresh ⟨5, 6⟩ databases shop
    refreshed.1 = .error (.engine "the file cannot be opened") ∧
      cache.get? 7 (keyOf shop) = some orders ∧ refreshed.2.get? 7 (keyOf shop) = none := by
  intro shop orders cache around databases refreshed
  have hfails : databases.introspect shop.dialect shop.connectionString =
      .error (.engine "the file cannot be opened") := rfl
  have hrefreshed : refreshed = (.error (.engine "the file cannot be opened"), cache.forget 1) := by
    apply refresh_eq.trans
    rw [hfails]
  rw [hrefreshed]
  refine ⟨rfl, ?_, get?_forget_of_isKeyOf (isKeyOf_keyOf shop) 7⟩
  simp [get?, cache, isFresh]

end Refreshing

end Cache

end QueryWarden.Schema
