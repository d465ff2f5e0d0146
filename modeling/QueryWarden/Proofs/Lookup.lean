import Mathlib.Data.List.Nodup

/-!
# Lookup

Lists of pairs read as maps: what stands under a key is the value of the first pair with it.
-/

namespace QueryWarden

variable {κ ν : Type} [DecidableEq κ] {key : κ} {value : ν} {entries : List (κ × ν)}

theorem lookup_cons (entry : κ × ν) (entries : List (κ × ν)) (key : κ) :
    (entry :: entries).lookup key = if key = entry.1 then some entry.2 else entries.lookup key := by
  rw [List.lookup_cons]
  by_cases hkey : key = entry.1
  · simp [hkey]
  · rw [beq_eq_false_iff_ne.mpr hkey, if_neg hkey]

theorem mem_keys_of_lookup (hlookup : entries.lookup key = some value) :
    key ∈ entries.map Prod.fst := by
  obtain ⟨before, after, rfl, -⟩ := List.lookup_eq_some_iff.mp hlookup
  simp

/-- With the keys all different each pair is found. -/
theorem lookup_of_mem (hkeys : (entries.map Prod.fst).Nodup) (hmem : (key, value) ∈ entries) :
    entries.lookup key = some value := by
  obtain ⟨before, after, rfl⟩ := List.append_of_mem hmem
  refine List.lookup_eq_some_iff.mpr ⟨before, after, rfl, fun entry hentry => ?_⟩
  rw [List.map_append, List.nodup_append] at hkeys
  exact bne_iff_ne.mpr (Ne.symm (hkeys.2.2 entry.1 (List.mem_map_of_mem hentry) key (by simp)))

end QueryWarden
