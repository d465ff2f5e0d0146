import QueryWarden.Proofs.Connections.Entries
import QueryWarden.Proofs.Connections.Rows
import Mathlib.Data.List.Sort

/-!
# The registry refines a finite map

A table represents a finite map when it holds one readable row for each entry. Every operation of
the registry answers as that of the map does and keeps the two together, so a run of the registry
cannot be told from a run of the map.
-/

namespace QueryWarden.Connections

open QueryWarden.Database QueryWarden.Sql

/-- The table has one row for each entry, and it is read as that entry. -/
structure Registry.Represents (registry : Registry) (cipher : Cipher) (entries : Entries) :
    Prop where
  sorted : registry.IsSorted
  found : ∀ id, Option.Rel (fun row entry => row.decode cipher = .ok (entry.connection id))
    (registry.find? id) (entries.lookup id)

namespace Registry.Represents

variable {registry : Registry} {cipher : Cipher} {entries : Entries}

theorem empty (cipher : Cipher) : Registry.empty.Represents cipher ∅ where
  sorted := List.Pairwise.nil
  found _ := .none

/-! ## Reading -/

theorem find?_eq_none_iff (hrep : registry.Represents cipher entries) {id : Int} :
    registry.find? id = none ↔ entries.lookup id = none := by
  have hfound := hrep.found id
  generalize registry.find? id = row, entries.lookup id = entry at hfound ⊢
  cases hfound <;> simp

/-- A row that is found is read as the entry under its id. -/
theorem exists_lookup (hrep : registry.Represents cipher entries) {id : Int}
    {row : StoredConnection} (hrow : registry.find? id = some row) :
    ∃ entry, entries.lookup id = some entry ∧ row.decode cipher = .ok (entry.connection id) := by
  have hfound := hrep.found id
  rw [hrow] at hfound
  generalize entries.lookup id = entry at hfound ⊢
  cases hfound with
  | some hread => exact ⟨_, rfl, hread⟩

theorem get_eq (hrep : registry.Represents cipher entries) (id : Int) :
    registry.get cipher id = entries.get id := by
  have hfound := hrep.found id
  rw [Registry.get, Entries.get]
  generalize registry.find? id = row, entries.lookup id = entry at hfound ⊢
  cases hfound with
  | none => rfl
  | some hrow => exact hrow

theorem mem_keys_iff (hrep : registry.Represents cipher entries) {id : Int} :
    id ∈ entries.keys ↔ id ∈ registry.rows.map StoredConnection.id := by
  rw [Finmap.mem_keys, ← not_iff_not, ← Finmap.lookup_eq_none, ← hrep.find?_eq_none_iff,
    Registry.find?_eq_none_iff]
  simp

theorem mapM_decode {rows : List StoredConnection} (hrows : ∀ row ∈ rows,
    ∃ entry, entries.lookup row.id = some entry ∧
      row.decode cipher = .ok (entry.connection row.id)) :
    rows.mapM (fun row => row.decode cipher) =
      .ok ((rows.map StoredConnection.id).filterMap fun id =>
        (entries.lookup id).map fun entry => entry.connection id) := by
  induction rows with
  | nil => rfl
  | cons row rows ih =>
      obtain ⟨⟨entry, hlookup, hrow⟩, hrows⟩ := List.forall_mem_cons.mp hrows
      rw [List.mapM_cons, hrow, ok_bind, ih hrows, ok_bind, List.map_cons, List.filterMap_cons,
        hlookup]
      rfl

/-- All rows are read, in the order of the ids. -/
theorem list_eq (hrep : registry.Represents cipher entries) :
    registry.list cipher = .ok entries.list := by
  have hids : registry.rows.map StoredConnection.id = entries.keys.sort := by
    have hsorted : (registry.rows.map StoredConnection.id).SortedLT :=
      (List.pairwise_map.mpr hrep.sorted).sortedLT
    refine hsorted.eq_of_mem_iff (Finset.sortedLT_sort _) fun id => ?_
    rw [Finset.mem_sort, hrep.mem_keys_iff]
  rw [Registry.list, mapM_decode, hids, Entries.list]
  exact fun row hrow => hrep.exists_lookup (hrep.sorted.find?_of_mem hrow)

/-! ## The next id -/

/-- The largest id is found by going through the rows. -/
theorem nextId_eq (hrep : registry.Represents cipher entries) :
    registry.nextId = entries.nextId := by
  rw [Registry.nextId, Entries.nextId]
  cases hrows : registry.rows with
  | nil =>
      have hempty : ¬ entries.keys.Nonempty := by
        rintro ⟨id, hid⟩
        simp [hrep.mem_keys_iff, hrows] at hid
      rw [dif_neg hempty]
      rfl
  | cons first rows =>
      have hkey : ∀ id, id ∈ entries.keys ↔ id ∈ (first :: rows).map StoredConnection.id := by
        intro id
        rw [hrep.mem_keys_iff, hrows]
      have hkeys : entries.keys.Nonempty := ⟨first.id, (hkey _).mpr (by simp)⟩
      -- Going through the rows finds the maximum of their ids, and the keys are the same ids.
      have hmax : ((first :: rows).map StoredConnection.id).max? =
          some (entries.keys.max' hkeys) := by
        rw [List.max?_eq_some_iff]
        exact ⟨(hkey _).mp (Finset.max'_mem _ _),
          fun id hid => Finset.le_max' _ _ ((hkey id).mpr hid)⟩
      rw [List.map_cons, List.max?_cons', List.foldl_map] at hmax
      rw [dif_pos hkeys, ← Option.some.inj hmax, List.foldl_cons]
      simp

/-! ## Writing rows -/

/-- A row under a new id is a new entry. -/
theorem insert (hrep : registry.Represents cipher entries) {row : StoredConnection}
    {entry : Entry} (hnew : entries.lookup row.id = none)
    (hrow : row.decode cipher = .ok (entry.connection row.id)) :
    (registry.insert row).Represents cipher (entries.insert row.id entry) := by
  have hfresh := hrep.find?_eq_none_iff.mpr hnew
  refine ⟨hrep.sorted.insert hfresh, fun id => ?_⟩
  rw [Registry.find?_insert hfresh]
  by_cases hid : row.id = id
  · subst hid
    rw [if_pos rfl, Finmap.lookup_insert]
    exact .some hrow
  · rw [if_neg hid, Finmap.lookup_insert_of_ne _ (Ne.symm hid)]
    exact hrep.found id

/-- A row that is changed is a changed entry. -/
theorem modify (hrep : registry.Represents cipher entries) {id : Int} {row : StoredConnection}
    {change : StoredConnection → StoredConnection} {entry : Entry}
    (hfound : registry.find? id = some row) (hchange : ∀ row, (change row).id = row.id)
    (hrow : (change row).decode cipher = .ok (entry.connection id)) :
    (registry.modify id change).Represents cipher (entries.insert id entry) := by
  refine ⟨hrep.sorted.modify hchange id, fun other => ?_⟩
  rw [Registry.find?_modify hchange]
  by_cases hid : other = id
  · subst hid
    rw [if_pos rfl, hfound, Finmap.lookup_insert]
    exact .some hrow
  · rw [if_neg hid, Finmap.lookup_insert_of_ne _ hid]
    exact hrep.found other

theorem remove (hrep : registry.Represents cipher entries) (id : Int) :
    Registry.Represents ⟨registry.rows.filter fun row => row.id != id⟩ cipher
      (entries.erase id) := by
  refine ⟨hrep.sorted.remove id, fun other => ?_⟩
  rw [Registry.find?_remove]
  by_cases hid : other = id
  · subst hid
    rw [if_pos rfl, Finmap.lookup_erase]
    exact .none
  · rw [if_neg hid, Finmap.lookup_erase_ne hid]
    exact hrep.found other

end Registry.Represents

/-! ## Operations -/

/-- A nonce of the right size. -/
structure Nonce where
  bytes : List UInt8
  length_bytes : bytes.length = nonceSize

/-- A reading of the clock in a year of four digits. -/
structure Moment where
  stamp : Time.Timestamp
  isStorable : stamp.IsStorable

/-- An operation of the registry answers as one of the map does, and what it leaves represents what
that leaves. -/
structure Agrees {α : Type} (cipher : Cipher) (done : α × Registry) (asked : α × Entries) :
    Prop where
  answer : done.1 = asked.1
  represents : done.2.Represents cipher asked.2

section Operations

variable {registry : Registry} {cipher : Cipher} {entries : Entries}

theorem Registry.Represents.delete (hrep : registry.Represents cipher entries) (id : Int) :
    Agrees cipher (registry.delete cipher id) (entries.delete id) := by
  rw [Registry.delete, hrep.get_eq, Entries.get, Entries.delete]
  cases hlookup : entries.lookup id with
  | none => exact ⟨rfl, hrep⟩
  | some entry => exact ⟨rfl, hrep.remove id⟩

variable (hkey : cipher.key.length = 32)

include hkey

/-- A connection under a new id is a new entry. -/
theorem Registry.Represents.add (hrep : registry.Represents cipher entries) (nonce : Nonce)
    {now : Time.Timestamp} (hnow : now.IsStorable) {id : Int} (hnew : entries.lookup id = none)
    (name : String) (dialect : Dialect) (connectionString : String) :
    (registry.insert ⟨id, name, dialect.tag, cipher.sealText nonce.bytes connectionString,
      now.storedText⟩).Represents cipher
        (entries.insert id ⟨name, dialect, connectionString, now.toMicros⟩) :=
  hrep.insert hnew (decode_written hkey nonce.length_bytes hnow id name dialect connectionString)

/-- A connection that is written over keeps its creation time. -/
theorem Registry.Represents.rewrite (hrep : registry.Represents cipher entries) (nonce : Nonce)
    {id : Int} {row : StoredConnection} {entry : Entry} (hfound : registry.find? id = some row)
    (hrow : row.decode cipher = .ok (entry.connection id)) (name : String) (dialect : Dialect)
    (connectionString : String) :
    (registry.modify id fun row =>
      { row with
        name, dialect := dialect.tag,
        sealedString := cipher.sealText nonce.bytes connectionString }).Represents cipher
      (entries.insert id ⟨name, dialect, connectionString, entry.createdAt⟩) :=
  hrep.modify hfound (fun _ => rfl)
    (decode_rewritten hkey nonce.length_bytes hrow name dialect connectionString)

theorem Registry.Represents.create (hrep : registry.Represents cipher entries) (nonce : Nonce)
    (now : Moment) (draft : Draft) :
    Agrees cipher (registry.create ⟨cipher, nonce.bytes, now.stamp⟩ draft)
      (entries.create now.stamp draft) := by
  rw [Registry.create, Entries.create, hrep.nextId_eq]
  cases draft.check with
  | error failure => exact ⟨rfl, hrep⟩
  | ok _ =>
      dsimp only
      split
      next => exact ⟨rfl, hrep⟩
      next =>
        have hadded := hrep.add hkey nonce now.isStorable.toMicros entries.lookup_nextId draft.name
          draft.dialect draft.connectionString
        rw [now.stamp.toMicros_toMicros] at hadded
        exact ⟨rfl, hadded⟩

theorem Registry.Represents.update (hrep : registry.Represents cipher entries) (nonce : Nonce)
    (now : Moment) (id : Int) (draft : Draft) :
    Agrees cipher (registry.update ⟨cipher, nonce.bytes, now.stamp⟩ id draft)
      (entries.update id draft) := by
  rw [Registry.update, Entries.update]
  cases draft.check with
  | error failure => exact ⟨rfl, hrep⟩
  | ok _ =>
      cases hfound : registry.find? id with
      | none =>
          rw [hrep.find?_eq_none_iff.mp hfound]
          exact ⟨rfl, hrep⟩
      | some row =>
          obtain ⟨entry, hlookup, hrow⟩ := hrep.exists_lookup hfound
          have hchanged := hrep.rewrite hkey nonce hfound hrow draft.name draft.dialect
            draft.connectionString
          -- The row is read back after the change.
          have hread := hchanged.get_eq id
          rw [Entries.get, Finmap.lookup_insert] at hread
          rw [hlookup]
          exact ⟨hread, hchanged⟩

theorem Registry.Represents.upsert (hrep : registry.Represents cipher entries) (nonce : Nonce)
    (now : Moment) (setting : Settings) :
    (registry.upsert ⟨cipher, nonce.bytes, now.stamp⟩ setting).Represents cipher
      (entries.upsert now.stamp setting) := by
  rw [Registry.upsert, Entries.upsert]
  cases hfound : registry.find? setting.id with
  | none =>
      have hlookup := hrep.find?_eq_none_iff.mp hfound
      rw [hlookup]
      exact hrep.add hkey nonce now.isStorable hlookup setting.name setting.dialect
        setting.connectionString
  | some row =>
      obtain ⟨entry, hlookup, hrow⟩ := hrep.exists_lookup hfound
      rw [hlookup]
      exact hrep.rewrite hkey nonce hfound hrow setting.name setting.dialect
        setting.connectionString

theorem Registry.Represents.seedEach (hrep : registry.Represents cipher entries) (now : Moment)
    (settings : List (Nonce × Settings)) :
    (registry.seedEach cipher now.stamp
      (settings.map fun (nonce, setting) => (nonce.bytes, setting))).Represents cipher
        (entries.seed now.stamp (settings.map Prod.snd)) := by
  induction settings generalizing registry entries with
  | nil => exact hrep
  | cons setting settings ih => exact ih (hrep.upsert hkey setting.1 now setting.2)

end Operations

/-! ## Runs -/

/-- What is asked of a registry, with the nonces and the time that it is done with. -/
inductive Command where
  | create (now : Moment) (nonce : Nonce) (draft : Draft)
  | update (now : Moment) (nonce : Nonce) (id : Int) (draft : Draft)
  | delete (id : Int)
  | get (id : Int)
  | list
  | seed (now : Moment) (settings : List (Nonce × Settings))
  /-- The registry is dropped and opened again on what it stored. -/
  | reopen

/-- What a registry answers. -/
inductive Reply where
  | one (outcome : Except Failure Connection)
  | all (outcome : Except Failure (List Connection))
  | done

/-- A registry in use: its cipher, which it has from the secret, and its table, which is stored. -/
structure Session where
  cipher : Cipher
  registry : Registry

/-- A registry opened on a table. -/
def Session.opened (secret : String) (registry : Registry) : Session :=
  ⟨.ofSecret secret, registry⟩

/-- A command to a registry that has a secret. -/
def Session.perform (secret : String) (session : Session) : Command → Reply × Session
  | .create now nonce draft =>
      let (outcome, registry) :=
        session.registry.create ⟨session.cipher, nonce.bytes, now.stamp⟩ draft
      (.one outcome, { session with registry })
  | .update now nonce id draft =>
      let (outcome, registry) :=
        session.registry.update ⟨session.cipher, nonce.bytes, now.stamp⟩ id draft
      (.one outcome, { session with registry })
  | .delete id =>
      let (outcome, registry) := session.registry.delete session.cipher id
      (.one outcome, { session with registry })
  | .get id => (.one (session.registry.get session.cipher id), session)
  | .list => (.all (session.registry.list session.cipher), session)
  | .seed now settings =>
      let registry := session.registry.seedEach session.cipher now.stamp
        (settings.map fun (nonce, setting) => (nonce.bytes, setting))
      (.done, { session with registry })
  | .reopen => (.done, .opened secret session.registry)

/-- A command to the map, which has no use for nonces. -/
def Entries.perform (entries : Entries) : Command → Reply × Entries
  | .create now _ draft =>
      let (outcome, entries) := entries.create now.stamp draft
      (.one outcome, entries)
  | .update _ _ id draft =>
      let (outcome, entries) := entries.update id draft
      (.one outcome, entries)
  | .delete id =>
      let (outcome, entries) := entries.delete id
      (.one outcome, entries)
  | .get id => (.one (entries.get id), entries)
  | .list => (.all (.ok entries.list), entries)
  | .seed now settings => (.done, entries.seed now.stamp (settings.map Prod.snd))
  | .reopen => (.done, entries)

/-- The answers to commands one after the other, and the state after the last. -/
def runCommands {State : Type} (perform : State → Command → Reply × State) :
    State → List Command → List Reply × State
  | state, [] => ([], state)
  | state, command :: commands =>
      let (answer, next) := perform state command
      let (answers, last) := runCommands perform next commands
      (answer :: answers, last)

/-- A session under a secret represents a map. -/
structure Session.Represents (session : Session) (secret : String) (entries : Entries) :
    Prop where
  cipher_eq : session.cipher = .ofSecret secret
  registry : session.registry.Represents (.ofSecret secret) entries

variable {secret : String}

/-- A command is answered as by the map, and the map stays represented. -/
theorem Session.Represents.perform {session : Session} {entries : Entries}
    (hrep : session.Represents secret entries) (command : Command) :
    (session.perform secret command).1 = (entries.perform command).1 ∧
      (session.perform secret command).2.Represents secret (entries.perform command).2 := by
  obtain ⟨cipher, registry⟩ := session
  obtain ⟨rfl, hrep⟩ := hrep
  have hkey := Cipher.length_key_ofSecret secret
  cases command with
  | create now nonce draft =>
      have hagrees := hrep.create hkey nonce now draft
      exact ⟨congrArg Reply.one hagrees.answer, rfl, hagrees.represents⟩
  | update now nonce id draft =>
      have hagrees := hrep.update hkey nonce now id draft
      exact ⟨congrArg Reply.one hagrees.answer, rfl, hagrees.represents⟩
  | delete id =>
      have hagrees := hrep.delete id
      exact ⟨congrArg Reply.one hagrees.answer, rfl, hagrees.represents⟩
  | get id => exact ⟨congrArg Reply.one (hrep.get_eq id), rfl, hrep⟩
  | list => exact ⟨congrArg Reply.all hrep.list_eq, rfl, hrep⟩
  | seed now settings => exact ⟨rfl, rfl, hrep.seedEach hkey now settings⟩
  | reopen => exact ⟨rfl, rfl, hrep⟩

/-- So are all commands of a run. -/
theorem Session.Represents.run {session : Session} {entries : Entries}
    (hrep : session.Represents secret entries) (commands : List Command) :
    (runCommands (Session.perform secret) session commands).1 =
        (runCommands Entries.perform entries commands).1 ∧
      (runCommands (Session.perform secret) session commands).2.Represents secret
        (runCommands Entries.perform entries commands).2 := by
  induction commands generalizing session entries with
  | nil => exact ⟨rfl, hrep⟩
  | cons command commands ih =>
      obtain ⟨hanswer, hnext⟩ := hrep.perform command
      obtain ⟨hanswers, hlast⟩ := ih hnext
      exact ⟨congrArg₂ List.cons hanswer hanswers, hlast⟩

/-- What a registry with a secret is to its clients. -/
structure RefinesMap (secret : String) : Prop where
  /-- Every run from an empty table is answered as by the map, and the table represents the map. -/
  runs : ∀ commands,
    (runCommands (Session.perform secret) (.opened secret .empty) commands).1 =
        (runCommands Entries.perform ∅ commands).1 ∧
      (runCommands (Session.perform secret) (.opened secret .empty) commands).2.Represents secret
        (runCommands Entries.perform ∅ commands).2
  /-- The connections that can be got are listed, in increasing order of their ids. -/
  lists : ∀ entries : Entries, (entries.list.map Connection.id).Pairwise (· < ·) ∧
    ∀ connection, connection ∈ entries.list ↔ entries.get connection.id = .ok connection
  /-- While an id is left, a draft that is not blank becomes the connection one above the largest
  id, and nothing else changes. -/
  creates : ∀ (entries : Entries) now (draft : Draft),
    Text.isBlankText draft.name.toList = false →
    Text.isBlankText draft.connectionString.toList = false →
    (∀ id ∈ entries, id < maxId) →
      ∃ connection, (entries.create now draft).1 = .ok connection ∧
        connection = (draft.entry now.toMicros).connection connection.id ∧
        (entries = ∅ → connection.id = 1) ∧
        (∀ largest, IsGreatest {id | id ∈ entries} largest → connection.id = largest + 1) ∧
        ∀ id, (entries.create now draft).2.get id =
          if id = connection.id then .ok connection else entries.get id
  /-- A connection that is changed keeps its id and creation time, and nothing else changes. -/
  updates : ∀ (entries : Entries) id (draft : Draft) connection,
    Text.isBlankText draft.name.toList = false →
    Text.isBlankText draft.connectionString.toList = false →
    entries.get id = .ok connection →
      ∃ changed, (entries.update id draft).1 = .ok changed ∧
        changed = (draft.entry connection.createdAt).connection id ∧
        ∀ other, (entries.update id draft).2.get other =
          if other = id then .ok changed else entries.get other
  /-- A connection that is removed is gone, and nothing else changes. -/
  deletes : ∀ (entries : Entries) id connection, entries.get id = .ok connection →
    (entries.delete id).1 = .ok connection ∧
      ∀ other, (entries.delete id).2.get other =
        if other = id then .error (.notFound id) else entries.get other
  /-- Of the settings with an id the last one wins, an entry that is there keeps its creation time,
  and nothing else changes. -/
  seeds : ∀ (entries : Entries) now settings id, (entries.seed now settings).lookup id =
    match settings.reverse.find? fun setting => setting.id == id with
    | none => entries.lookup id
    | some setting =>
        some (setting.entry (((entries.lookup id).map Entry.createdAt).getD now.toMicros))
  /-- Seeding again changes nothing. -/
  seeds_again : ∀ (entries : Entries) now later settings,
    (entries.seed now settings).seed later settings = entries.seed now settings

/-- A registry is a finite map from ids to connections, and stays one when it is opened again. -/
theorem Session.opened_refinesMap (secret : String) : RefinesMap secret where
  runs := Session.Represents.run ⟨rfl, .empty _⟩
  lists entries := ⟨entries.pairwise_list, fun _ => Entries.mem_list_iff⟩
  creates entries now draft hname hstring hleft := by
    have hcheck := Entries.check_of_not_isBlankText hname hstring
    obtain ⟨connection, hanswer, rfl, hget⟩ := Entries.create_spec hcheck hleft now
    refine ⟨_, hanswer, rfl, ?_, fun largest hlargest => ?_, hget⟩
    · rintro rfl
      rfl
    · exact Entries.nextId_eq_of_isGreatest hlargest
  updates entries id draft connection hname hstring hget :=
    Entries.update_spec (Entries.check_of_not_isBlankText hname hstring) hget
  deletes entries id connection hget := Entries.delete_spec hget
  seeds := Entries.lookup_seed
  seeds_again := Entries.seed_seed

end QueryWarden.Connections
