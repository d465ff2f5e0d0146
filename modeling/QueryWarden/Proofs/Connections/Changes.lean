import QueryWarden.Proofs.Connections.Rows

/-!
# What the registry's operations change

Every operation that writes either leaves the table as it is or writes one row: creating adds a row
under an id that no row has, changing and removing touch the rows of one id. This holds for any
table, also one with rows that cannot be read.
-/

namespace QueryWarden.Connections.Registry

open QueryWarden.Database

variable {registry : Registry}

theorem get_eq_ok_iff {cipher : Cipher} {id : Int} {connection : Connection} :
    registry.get cipher id = .ok connection ↔
      ∃ row, registry.find? id = some row ∧ row.decode cipher = .ok connection := by
  rw [get]
  cases registry.find? id <;> simp

theorem id_of_find? {id : Int} {row : StoredConnection} (hfound : registry.find? id = some row) :
    row.id = id := by
  rw [find?] at hfound
  have hrow := List.find?_some hfound
  exact beq_iff_eq.mp hrow

/-- The connection that is got for an id has that id. -/
theorem id_of_get {cipher : Cipher} {id : Int} {connection : Connection}
    (hget : registry.get cipher id = .ok connection) : connection.id = id := by
  obtain ⟨row, hfound, hdecode⟩ := get_eq_ok_iff.mp hget
  obtain ⟨⟨hid, -⟩, -⟩ := StoredConnection.decode_eq_ok_iff.mp hdecode
  rw [← hid, id_of_find? hfound]

theorem get_congr {other : Registry} {id : Int} (hfind : other.find? id = registry.find? id)
    (cipher : Cipher) : other.get cipher id = registry.get cipher id := by
  rw [get, get, hfind]

/-! ## New ids -/

theorem le_foldl_max (rows : List StoredConnection) (start : Int) :
    start ≤ rows.foldl (fun largest row => max largest row.id) start ∧
      ∀ row ∈ rows, row.id ≤ rows.foldl (fun largest row => max largest row.id) start := by
  induction rows generalizing start with
  | nil => simp
  | cons first rows ih =>
      obtain ⟨hstart, hrows⟩ := ih (max start first.id)
      obtain ⟨hleft, hfirst⟩ := max_le_iff.mp hstart
      exact ⟨hleft, List.forall_mem_cons.mpr ⟨hfirst, hrows⟩⟩

/-- The next id is one that no row has. -/
theorem find?_nextId (registry : Registry) : registry.find? registry.nextId = none := by
  rw [find?_eq_none_iff]
  intro row hrow hid
  have hle := (le_foldl_max registry.rows ((registry.rows.head?.map StoredConnection.id).getD 0)).2
    row hrow
  rw [hid, nextId] at hle
  omega

/-! ## Operations -/

theorem create_cases (registry : Registry) (context : Circumstances) (draft : Draft) :
    (∃ failure, registry.create context draft = (.error failure, registry)) ∨
      ∃ connection row, row.id = registry.nextId ∧
        registry.create context draft = (.ok connection, registry.insert row) := by
  rw [create]
  cases draft.check with
  | error failure => exact .inl ⟨failure, rfl⟩
  | ok _ =>
      dsimp only
      split
      · exact .inl ⟨_, rfl⟩
      · exact .inr ⟨_, _, rfl, rfl⟩

/-- A change is told by reading the changed row back. -/
theorem update_cases (registry : Registry) (context : Circumstances) (id : Int) (draft : Draft) :
    (∃ failure, registry.update context id draft = (.error failure, registry)) ∨
      ∃ change, (∀ row : StoredConnection, (change row).id = row.id) ∧
        registry.update context id draft =
          ((registry.modify id change).get context.cipher id, registry.modify id change) := by
  rw [update]
  cases draft.check with
  | error failure => exact .inl ⟨failure, rfl⟩
  | ok _ =>
      cases registry.find? id with
      | none => exact .inl ⟨_, rfl⟩
      | some row =>
          exact .inr ⟨fun row =>
            { row with
              name := draft.name, dialect := draft.dialect.tag,
              sealedString := context.cipher.sealText context.nonce draft.connectionString },
            fun _ => rfl, rfl⟩

theorem delete_cases (registry : Registry) (cipher : Cipher) (id : Int) :
    (∃ failure, registry.delete cipher id = (.error failure, registry)) ∨
      ∃ connection, registry.delete cipher id =
        (.ok connection, ⟨registry.rows.filter fun row => row.id != id⟩) := by
  rw [delete]
  cases registry.get cipher id with
  | error failure => exact .inl ⟨failure, rfl⟩
  | ok connection => exact .inr ⟨connection, rfl⟩

end QueryWarden.Connections.Registry
