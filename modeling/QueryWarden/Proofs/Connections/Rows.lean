import QueryWarden.Proofs.Connections.Sealing
import QueryWarden.Proofs.Time.Timestamp

/-!
# Rows of the table

Which rows can be read, namely those that were written under the same secret and those that were
rewritten since, and what is found under an id once rows are inserted, changed or removed.
-/

namespace QueryWarden.Sql

/-- A dialect is stored by a name that stands for it. -/
theorem Dialect.ofName?_tag (dialect : Dialect) :
    Dialect.ofName? dialect.tag = some dialect := by
  cases dialect <;> decide +kernel

end QueryWarden.Sql

namespace QueryWarden.Connections

open QueryWarden.Database QueryWarden.Sql

/-! ## Readable rows -/

theorem StoredConnection.decode_eq_ok_iff {cipher : Cipher} {row : StoredConnection}
    {connection : Connection} :
    row.decode cipher = .ok connection ↔
      (row.id = connection.id ∧ row.name = connection.name) ∧
      Dialect.ofName? row.dialect = some connection.dialect ∧
      Time.Timestamp.ofText? row.createdAt.toList = .ok connection.createdAt ∧
      cipher.openText row.sealedString = .ok connection.connectionString := by
  obtain ⟨id, name, dialect, connectionString, createdAt⟩ := connection
  rw [StoredConnection.decode]
  cases Dialect.ofName? row.dialect with
  | none => simp [bind_eq_ok_iff]
  | some found =>
      cases Time.Timestamp.ofText? row.createdAt.toList with
      | error fault => simp [bind_eq_ok_iff]
      | ok stamp =>
          cases cipher.openText row.sealedString with
          | error fault => simp [bind_eq_ok_iff]
          | ok plain =>
              simp only [ok_bind, Except.ok.injEq, Connection.mk.injEq, Option.some.injEq]
              tauto

section Writing

variable {cipher : Cipher} (hkey : cipher.key.length = 32) {nonce : List UInt8}
  (hnonce : nonce.length = nonceSize)

include hkey hnonce

/-- A new row is read as what was written, its creation time cut to microseconds. -/
theorem decode_written {stamp : Time.Timestamp} (hstamp : stamp.IsStorable) (id : Int)
    (name : String) (dialect : Dialect) (connectionString : String) :
    StoredConnection.decode cipher
        ⟨id, name, dialect.tag, cipher.sealText nonce connectionString, stamp.storedText⟩ =
      .ok ⟨id, name, dialect, connectionString, stamp.toMicros⟩ := by
  refine StoredConnection.decode_eq_ok_iff.mpr ⟨⟨rfl, rfl⟩, ?_, ?_, ?_⟩
  · exact Dialect.ofName?_tag dialect
  · exact Time.Timestamp.ofText?_storedText hstamp
  · exact Cipher.openText_sealText hkey hnonce connectionString

/-- A row that is written over is read with its old creation time. -/
theorem decode_rewritten {row : StoredConnection} {connection : Connection}
    (hrow : row.decode cipher = .ok connection) (name : String) (dialect : Dialect)
    (connectionString : String) :
    StoredConnection.decode cipher
        { row with
          name, dialect := dialect.tag,
          sealedString := cipher.sealText nonce connectionString } =
      .ok { connection with name, dialect, connectionString } := by
  obtain ⟨⟨hid, -⟩, -, hcreated, -⟩ := StoredConnection.decode_eq_ok_iff.mp hrow
  refine StoredConnection.decode_eq_ok_iff.mpr ⟨⟨hid, rfl⟩, ?_, hcreated, ?_⟩
  · exact Dialect.ofName?_tag dialect
  · exact Cipher.openText_sealText hkey hnonce connectionString

end Writing

/-! ## Rows by id -/

namespace Registry

/-- The rows stand in increasing order of their ids, each id once. -/
def IsSorted (registry : Registry) : Prop :=
  registry.rows.Pairwise fun row other => row.id < other.id

variable {registry : Registry}

theorem find?_cons (first : StoredConnection) (rows : List StoredConnection) (id : Int) :
    (first :: rows).find? (fun row => row.id == id) =
      if first.id = id then some first else rows.find? fun row => row.id == id := by
  rw [List.find?_cons]
  split
  next hfirst => rw [if_pos (beq_iff_eq.mp hfirst)]
  next hfirst => rw [if_neg (beq_eq_false_iff_ne.mp hfirst)]

theorem find?_eq_none_iff {id : Int} :
    registry.find? id = none ↔ ∀ row ∈ registry.rows, row.id ≠ id := by
  simp [find?]

/-- Every row is the one that is found under its id. -/
theorem IsSorted.find?_of_mem (hsorted : registry.IsSorted) {row : StoredConnection}
    (hrow : row ∈ registry.rows) : registry.find? row.id = some row := by
  obtain ⟨rows⟩ := registry
  simp only [IsSorted, find?] at hsorted hrow ⊢
  induction rows with
  | nil => cases hrow
  | cons first rows ih =>
      obtain ⟨hfirst, hsorted⟩ := List.pairwise_cons.mp hsorted
      rcases List.mem_cons.mp hrow with rfl | hrow
      · rw [find?_cons, if_pos rfl]
      · rw [find?_cons, if_neg (hfirst row hrow).ne]
        exact ih hsorted hrow

theorem mem_insertRow_iff {row other : StoredConnection} {rows : List StoredConnection} :
    other ∈ insertRow row rows ↔ other = row ∨ other ∈ rows := by
  induction rows with
  | nil => simp [insertRow]
  | cons first rows ih =>
      rw [insertRow]
      split
      · rw [List.mem_cons]
      · rw [List.mem_cons, List.mem_cons, ih, or_left_comm]

/-- A row with a new id is found under it, and what was found before is found still. -/
theorem find?_insert {row : StoredConnection} (hnew : registry.find? row.id = none) (id : Int) :
    (registry.insert row).find? id = if row.id = id then some row else registry.find? id := by
  rw [find?_eq_none_iff] at hnew
  obtain ⟨rows⟩ := registry
  simp only [find?, insert] at hnew ⊢
  induction rows with
  | nil => rw [insertRow, find?_cons]
  | cons first rows ih =>
      obtain ⟨hfirst, hnew⟩ := List.forall_mem_cons.mp hnew
      rw [insertRow]
      split
      · rw [find?_cons]
      · rw [find?_cons, find?_cons, ih hnew]
        by_cases hid : first.id = id
        · have hother : row.id ≠ id := fun hrow => hfirst (hid.trans hrow.symm)
          rw [if_pos hid, if_neg hother, if_pos hid]
        · rw [if_neg hid, if_neg hid]

theorem IsSorted.insert (hsorted : registry.IsSorted) {row : StoredConnection}
    (hnew : registry.find? row.id = none) : (registry.insert row).IsSorted := by
  rw [find?_eq_none_iff] at hnew
  obtain ⟨rows⟩ := registry
  simp only [IsSorted, Registry.insert] at hsorted hnew ⊢
  induction rows with
  | nil => simp [insertRow]
  | cons first rows ih =>
      obtain ⟨hfirst, hrows⟩ := List.pairwise_cons.mp hsorted
      obtain ⟨hne, hnew⟩ := List.forall_mem_cons.mp hnew
      rw [insertRow]
      split
      next hless =>
        refine List.pairwise_cons.mpr ⟨?_, hsorted⟩
        refine List.forall_mem_cons.mpr ⟨hless, fun other hother => ?_⟩
        exact hless.trans (hfirst other hother)
      next hle =>
        refine List.pairwise_cons.mpr ⟨fun other hother => ?_, ih hrows hnew⟩
        rcases mem_insertRow_iff.mp hother with rfl | hother
        · exact lt_of_le_of_ne (not_lt.mp hle) hne
        · exact hfirst other hother

section Changing

variable {change : StoredConnection → StoredConnection} (hchange : ∀ row, (change row).id = row.id)

include hchange

/-- A change that keeps ids is seen under its own id only. -/
theorem find?_modify (id other : Int) :
    (registry.modify id change).find? other =
      if other = id then (registry.find? id).map change else registry.find? other := by
  obtain ⟨rows⟩ := registry
  simp only [find?, modify]
  induction rows with
  | nil => simp
  | cons first rows ih =>
      rw [List.map_cons, find?_cons, find?_cons, find?_cons, ih]
      by_cases hother : other = id
      · subst hother
        by_cases hfirst : first.id = other
        · simp [hfirst, hchange]
        · simp [hfirst]
      · by_cases hfirst : first.id = id
        · have hskip : id ≠ other := Ne.symm hother
          simp [hfirst, hchange, hother, hskip]
        · simp [hfirst, hother]

theorem IsSorted.modify (hsorted : registry.IsSorted) (id : Int) :
    (registry.modify id change).IsSorted := by
  have hid : ∀ row : StoredConnection, (if row.id = id then change row else row).id = row.id := by
    intro row
    split
    · exact hchange row
    · rfl
  rw [IsSorted, Registry.modify, List.pairwise_map]
  simp only [hid]
  exact hsorted

end Changing

theorem find?_remove (id other : Int) :
    Registry.find? ⟨registry.rows.filter fun row => row.id != id⟩ other =
      if other = id then none else registry.find? other := by
  rw [find?, List.find?_filter, find?]
  split
  next hother =>
    subst hother
    simp
  next hother =>
    congr 1
    funext row
    by_cases hrow : row.id = other
    · simp [hrow, hother]
    · simp [hrow]

theorem IsSorted.remove (hsorted : registry.IsSorted) (id : Int) :
    Registry.IsSorted ⟨registry.rows.filter fun row => row.id != id⟩ :=
  List.Pairwise.filter _ hsorted

end Registry

end QueryWarden.Connections
