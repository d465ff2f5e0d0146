import QueryWarden.Proofs.Text.Numerals
import QueryWarden.Schema.CacheKey

/-!
# Keys of connections

The opening of a connection's keys tells its id: the id is written without the line that ends it, so
no opening of one id starts a key of another. What the connection string's digest is does not matter.
-/

namespace QueryWarden.Schema

open QueryWarden.Text

/-- Up to a character that stands in neither front, one text starts with another one only if their
fronts are equal. -/
theorem eq_of_prefix_append_cons {front other rest : List Char} {c : Char} (hfront : c ∉ front)
    (hother : c ∉ other) (hstart : front ++ [c] <+: other ++ c :: rest) : front = other := by
  induction front generalizing other with
  | nil =>
      cases other with
      | nil => rfl
      | cons d other =>
          obtain ⟨rfl, -⟩ := List.cons_prefix_cons.mp hstart
          exact absurd List.mem_cons_self hother
  | cons e front ih =>
      cases other with
      | nil =>
          obtain ⟨rfl, -⟩ := List.cons_prefix_cons.mp hstart
          exact absurd List.mem_cons_self hfront
      | cons d other =>
          obtain ⟨rfl, hrest⟩ := List.cons_prefix_cons.mp hstart
          rw [ih (List.not_mem_of_not_mem_cons hfront) (List.not_mem_of_not_mem_cons hother) hrest]

/-- After the same front, an id that a line ends starts only the texts that go on with that id. -/
theorem numeral_prefix_iff (front rest : List Char) {id other : Int} :
    front ++ integerNumeral id ++ ['_'] <+: front ++ integerNumeral other ++ ['_'] ++ rest ↔
      id = other := by
  simp only [List.append_assoc, List.prefix_append_right_inj]
  constructor
  · intro hstart
    have hline : ∀ number : Int, '_' ∉ integerNumeral number := fun number hmem =>
      (mem_integerNumeral hmem).elim (by decide) (by decide)
    exact integerNumeral_injective (eq_of_prefix_append_cons (hline id) (hline other) hstart)
  · rintro rfl
    exact (List.prefix_append_right_inj _).mpr (List.prefix_append ..)

/-- The opening of an id starts exactly the keys of that id. -/
theorem keyOpening_prefix_iff {id other : Int} {connectionString : String} :
    keyOpening id <+: (cacheKey other connectionString).toList ↔ id = other := by
  rw [cacheKey, String.toList_ofList]
  exact numeral_prefix_iff _ _

end QueryWarden.Schema
