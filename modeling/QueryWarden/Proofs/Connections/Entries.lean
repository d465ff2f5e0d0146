import QueryWarden.Connections.Registry
import Mathlib.Data.Finmap
import Mathlib.Data.Finset.Max
import Mathlib.Data.Finset.Sort

/-!
# Connections as a finite map

What the registry is for: a finite map from ids to connections, without rows, sealed texts and
stored times. Its operations are those of the registry, and its laws are stated here.
-/

namespace QueryWarden.Connections

open QueryWarden.Database QueryWarden.Sql

/-- What is kept of a connection under its id. -/
structure Entry where
  name : String
  dialect : Dialect
  connectionString : String
  createdAt : Time.Timestamp
  deriving DecidableEq, Repr

/-- The connection that an entry is under an id. -/
def Entry.connection (entry : Entry) (id : Int) : Connection :=
  ⟨id, entry.name, entry.dialect, entry.connectionString, entry.createdAt⟩

/-- The entry of a draft. -/
def Draft.entry (draft : Draft) (createdAt : Time.Timestamp) : Entry :=
  ⟨draft.name, draft.dialect, draft.connectionString, createdAt⟩

/-- The entry of a setting. -/
def Settings.entry (setting : Settings) (createdAt : Time.Timestamp) : Entry :=
  ⟨setting.name, setting.dialect, setting.connectionString, createdAt⟩

/-- The connections as a finite map from their ids. -/
abbrev Entries := Finmap fun _ : Int => Entry

namespace Entries

/-- The connection with an id. -/
def get (entries : Entries) (id : Int) : Except Failure Connection :=
  match entries.lookup id with
  | some entry => .ok (entry.connection id)
  | none => .error (.notFound id)

/-- All connections in the order of their ids. -/
def list (entries : Entries) : List Connection :=
  entries.keys.sort.filterMap fun id => (entries.lookup id).map fun entry => entry.connection id

/-- One above the largest id, and one if there is none. -/
def nextId (entries : Entries) : Int :=
  if hkeys : entries.keys.Nonempty then entries.keys.max' hkeys + 1 else 1

/-- Adds the connection of a draft under the next id. -/
def create (entries : Entries) (now : Time.Timestamp) (draft : Draft) :
    Except Failure Connection × Entries :=
  match draft.check with
  | .error failure => (.error failure, entries)
  | .ok () =>
      if maxId < entries.nextId then (.error (.engine "no id is left"), entries)
      else
        let entry := draft.entry now.toMicros
        (.ok (entry.connection entries.nextId), entries.insert entries.nextId entry)

/-- Changes the connection with an id to a draft and keeps its creation time. -/
def update (entries : Entries) (id : Int) (draft : Draft) :
    Except Failure Connection × Entries :=
  match draft.check with
  | .error failure => (.error failure, entries)
  | .ok () =>
      match entries.lookup id with
      | none => (.error (.notFound id), entries)
      | some entry =>
          let changed := draft.entry entry.createdAt
          (.ok (changed.connection id), entries.insert id changed)

/-- Removes the connection with an id. -/
def delete (entries : Entries) (id : Int) : Except Failure Connection × Entries :=
  match entries.lookup id with
  | none => (.error (.notFound id), entries)
  | some entry => (.ok (entry.connection id), entries.erase id)

/-- Puts a setting under its id; the creation time of an entry that is there stays. -/
def upsert (entries : Entries) (now : Time.Timestamp) (setting : Settings) : Entries :=
  entries.insert setting.id
    (setting.entry (((entries.lookup setting.id).map Entry.createdAt).getD now.toMicros))

/-- Puts settings under their ids, one after the other. -/
def seed (entries : Entries) (now : Time.Timestamp) (settings : List Settings) : Entries :=
  settings.foldl (fun entries setting => entries.upsert now setting) entries

/-! ## Reading -/

theorem get_eq_ok_iff {entries : Entries} {id : Int} {connection : Connection} :
    entries.get id = .ok connection ↔
      ∃ entry, entries.lookup id = some entry ∧ entry.connection id = connection := by
  rw [get]
  cases entries.lookup id with
  | none => simp
  | some entry => simp

/-- What is listed are the connections that can be got. -/
theorem mem_list_iff {entries : Entries} {connection : Connection} :
    connection ∈ entries.list ↔ entries.get connection.id = .ok connection := by
  rw [get_eq_ok_iff, list, List.mem_filterMap]
  constructor
  · rintro ⟨id, -, hfound⟩
    obtain ⟨entry, hentry, rfl⟩ := Option.map_eq_some_iff.mp hfound
    exact ⟨entry, hentry, rfl⟩
  · rintro ⟨entry, hentry, hconnection⟩
    refine ⟨connection.id, ?_, by rw [hentry, Option.map_some, hconnection]⟩
    rw [Finset.mem_sort, Finmap.mem_keys]
    exact Finmap.mem_of_lookup_eq_some hentry

/-- What is listed is in increasing order of the ids, each id once. -/
theorem pairwise_list (entries : Entries) :
    (entries.list.map Connection.id).Pairwise (· < ·) := by
  rw [list, List.map_filterMap, List.pairwise_filterMap]
  refine (Finset.sortedLT_sort entries.keys).pairwise.imp ?_
  intro id other hless found hfound otherFound hother
  simp only [Option.map_map, Option.map_eq_some_iff] at hfound hother
  obtain ⟨-, -, rfl⟩ := hfound
  obtain ⟨-, -, rfl⟩ := hother
  exact hless

/-! ## Creating -/

theorem lt_nextId {entries : Entries} {id : Int} (hid : id ∈ entries.keys) :
    id < entries.nextId := by
  have hkeys : entries.keys.Nonempty := ⟨id, hid⟩
  rw [nextId, dif_pos hkeys]
  exact Int.lt_add_one_of_le (Finset.le_max' _ _ hid)

theorem lookup_nextId (entries : Entries) : entries.lookup entries.nextId = none := by
  rw [Finmap.lookup_eq_none, ← Finmap.mem_keys]
  exact fun hid => lt_irrefl _ (lt_nextId hid)

theorem nextId_eq_of_isGreatest {entries : Entries} {largest : Int}
    (hlargest : IsGreatest {id | id ∈ entries} largest) : entries.nextId = largest + 1 := by
  have hkeys : entries.keys.Nonempty := ⟨largest, Finmap.mem_keys.mpr hlargest.1⟩
  rw [nextId, dif_pos hkeys]
  have hset : (entries.keys : Set Int) = {id | id ∈ entries} := Set.ext fun _ => Finmap.mem_keys
  have hmax := Finset.isGreatest_max' _ hkeys
  rw [hset] at hmax
  rw [hmax.unique hlargest]

theorem get_insert (entries : Entries) (id other : Int) (entry : Entry) :
    Entries.get (entries.insert id entry) other =
      if other = id then .ok (entry.connection id) else entries.get other := by
  rw [get, get]
  by_cases hid : other = id
  · rw [if_pos hid, hid, Finmap.lookup_insert]
  · rw [if_neg hid, Finmap.lookup_insert_of_ne _ hid]

theorem nextId_le_maxId {entries : Entries} (hleft : ∀ id ∈ entries, id < maxId) :
    entries.nextId ≤ maxId := by
  rw [nextId]
  split
  next hkeys => exact hleft _ (Finmap.mem_keys.mp (Finset.max'_mem entries.keys hkeys))
  next => decide

theorem check_of_not_isBlankText {draft : Draft}
    (hname : Text.isBlankText draft.name.toList = false)
    (hstring : Text.isBlankText draft.connectionString.toList = false) :
    draft.check = .ok () := by
  rw [Draft.check, hname, hstring]
  rfl

/-- While an id is left a draft that is not blank gets the next one, and nothing else changes. -/
theorem create_spec {entries : Entries} {draft : Draft} (hcheck : draft.check = .ok ())
    (hleft : ∀ id ∈ entries, id < maxId) (now : Time.Timestamp) :
    ∃ connection, (entries.create now draft).1 = .ok connection ∧
      connection = (draft.entry now.toMicros).connection entries.nextId ∧
      ∀ id, (entries.create now draft).2.get id =
        if id = connection.id then .ok connection else entries.get id := by
  rw [create, hcheck]
  simp only [if_neg (not_lt.mpr (nextId_le_maxId hleft))]
  exact ⟨_, rfl, rfl, fun id => get_insert _ _ _ _⟩

/-! ## Changing and removing -/

theorem update_spec {entries : Entries} {draft : Draft} (hcheck : draft.check = .ok ()) {id : Int}
    {connection : Connection} (hget : entries.get id = .ok connection) :
    ∃ changed, (entries.update id draft).1 = .ok changed ∧
      changed = (draft.entry connection.createdAt).connection id ∧
      ∀ other, (entries.update id draft).2.get other =
        if other = id then .ok changed else entries.get other := by
  obtain ⟨entry, hlookup, rfl⟩ := get_eq_ok_iff.mp hget
  rw [update, hcheck, hlookup]
  exact ⟨_, rfl, rfl, fun other => get_insert _ _ _ _⟩

theorem delete_spec {entries : Entries} {id : Int} {connection : Connection}
    (hget : entries.get id = .ok connection) :
    (entries.delete id).1 = .ok connection ∧
      ∀ other, (entries.delete id).2.get other =
        if other = id then .error (.notFound id) else entries.get other := by
  obtain ⟨entry, hlookup, rfl⟩ := get_eq_ok_iff.mp hget
  rw [delete, hlookup]
  refine ⟨rfl, fun other => ?_⟩
  rw [get, get]
  by_cases hid : other = id
  · rw [if_pos hid, hid, Finmap.lookup_erase]
  · rw [if_neg hid, Finmap.lookup_erase_ne hid]

/-! ## Seeding -/

theorem seed_append (entries : Entries) (now : Time.Timestamp) (settings : List Settings)
    (setting : Settings) :
    entries.seed now (settings ++ [setting]) = (entries.seed now settings).upsert now setting := by
  rw [seed, List.foldl_append]
  rfl

/-- Of the settings with an id the last one wins, an entry that is there keeps its creation time,
and ids that no setting has keep their entries. -/
theorem lookup_seed (entries : Entries) (now : Time.Timestamp) (settings : List Settings)
    (id : Int) :
    (entries.seed now settings).lookup id =
      match settings.reverse.find? fun setting => setting.id == id with
      | none => entries.lookup id
      | some setting =>
          some (setting.entry (((entries.lookup id).map Entry.createdAt).getD now.toMicros)) := by
  induction settings using List.reverseRecOn with
  | nil => rfl
  | append_singleton settings setting ih =>
      rw [seed_append, upsert, List.reverse_append, List.reverse_singleton, List.singleton_append,
        List.find?_cons]
      by_cases hid : setting.id = id
      · subst hid
        rw [Finmap.lookup_insert, ih]
        simp only [beq_self_eq_true]
        split <;> rfl
      · have hne : (setting.id == id) = false := beq_false_of_ne hid
        rw [Finmap.lookup_insert_of_ne _ (Ne.symm hid), ih, hne]

/-- Seeding again changes nothing, at whatever time. -/
theorem seed_seed (entries : Entries) (now later : Time.Timestamp) (settings : List Settings) :
    (entries.seed now settings).seed later settings = entries.seed now settings := by
  refine Finmap.ext_lookup fun id => ?_
  rw [lookup_seed, lookup_seed]
  split <;> rfl

end Entries

end QueryWarden.Connections
