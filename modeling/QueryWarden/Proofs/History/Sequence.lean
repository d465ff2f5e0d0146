import Mathlib
import QueryWarden.History.Store

/-!
# The sequence of the log

The sequence that numbers the entries of the log stays ahead of every id in it. So an entry is never
kept out because its id is taken, and removing all entries frees no id.
-/

namespace QueryWarden.History

namespace Store

variable {store : Store}

/-- The sequence is ahead of every id in the log. -/
def IsAhead (store : Store) : Prop :=
  ∀ row ∈ store.rows, row.id < store.nextId

/-- The log with one more entry, under the next id of the sequence. -/
def appended (store : Store) (now : Time.Timestamp) (attempt : Attempt) : Store :=
  ⟨store.rows ++ [.ofRecord ⟨store.nextId, attempt, now⟩], store.nextId + 1⟩

/-- An entry is always written while the sequence is ahead. -/
theorem IsAhead.append_eq (hahead : store.IsAhead) (now : Time.Timestamp) (attempt : Attempt) :
    store.append now attempt =
      (.ok ⟨store.nextId, attempt, now⟩, store.appended now attempt) := by
  have hfree : (store.rows.any fun other => other.id == store.nextId) = false := by
    rw [List.any_eq_false]
    intro row hrow htaken
    have hbelow := hahead row hrow
    rw [beq_iff_eq.mp htaken] at hbelow
    exact Int.lt_irrefl _ hbelow
  simp [append, insert, StoredRecord.ofRecord, hfree, appended, Except.map]

theorem IsAhead.appended (hahead : store.IsAhead) (now : Time.Timestamp) (attempt : Attempt) :
    (store.appended now attempt).IsAhead := by
  intro row hrow
  change row.id < store.nextId + 1
  rcases List.mem_append.mp hrow with hold | hnew
  · have hbelow := hahead row hold
    omega
  · rw [List.mem_singleton.mp hnew]
    change store.nextId < store.nextId + 1
    omega

theorem isAhead_of_rows_nil (hrows : store.rows = []) : store.IsAhead := by
  intro row hrow
  simp [hrows] at hrow

end Store

end QueryWarden.History
