import QueryWarden.Proofs.Schema.Refresh

/-!
# What forgetting a connection drops

Entries are dropped for what their keys start with, though keys are plain texts in which one id may
be the beginning of another. The line behind the id settles it: whatever digests the keys end in,
the opening of an id starts the keys of that id and no other, so exactly its entries go.
-/

namespace QueryWarden.Schema

/-- The key of an id for a connection string with a digest. -/
def keyOfDigest (id : Int) (digest : UInt64) : String :=
  String.ofList (keyOpening id ++ Text.paddedHex 16 digest.toNat)

theorem cacheKey_eq_keyOfDigest (id : Int) (connectionString : String) :
    cacheKey id connectionString = keyOfDigest id (textDigest connectionString.toList) := rfl

theorem isKeyOf_keyOfDigest_iff {id other : Int} {digest : UInt64} :
    IsKeyOf id (keyOfDigest other digest) ↔ id = other := by
  rw [IsKeyOf, keyOfDigest, String.toList_ofList]
  exact numeral_prefix_iff _ _

/-- The id can be told from a key, so digests that collide do not matter. -/
theorem keyOfDigest_ne {id other : Int} (hne : id ≠ other) (digest otherDigest : UInt64) :
    keyOfDigest id digest ≠ keyOfDigest other otherDigest := by
  intro hsame
  have hkey : IsKeyOf id (keyOfDigest id digest) := isKeyOf_keyOfDigest_iff.mpr rfl
  rw [hsame] at hkey
  exact hne (isKeyOf_keyOfDigest_iff.mp hkey)

namespace Cache

/-- Forgetting an id drops what the cache holds for it and nothing else. -/
structure ForgetsExactly (cache : Cache) (id : Int) : Prop where
  /-- An entry of a connection is dropped exactly when the connection has the id. -/
  dropped_iff : ∀ entry ∈ cache.entries, ∀ other connectionString,
    entry.key = cacheKey other connectionString →
      (entry ∉ (cache.forget id).entries ↔ id = other)
  /-- No entry is new, and those that are left keep their order. -/
  sublist : (cache.forget id).entries.Sublist cache.entries
  /-- The same for what is found, at any time. -/
  found : ∀ now other connectionString,
    (cache.forget id).get? now (cacheKey other connectionString) =
      if id = other then none else cache.get? now (cacheKey other connectionString)
  /-- Keys of another id are never keys of this one, whatever the digests are. -/
  keys_ne : ∀ other, id ≠ other → ∀ digest otherDigest,
    keyOfDigest id digest ≠ keyOfDigest other otherDigest

/-- For every content of a cache and every id, forgetting is exact. -/
theorem forget_exact (cache : Cache) (id : Int) : cache.ForgetsExactly id where
  dropped_iff entry hentry other connectionString hkey := by
    rw [mem_entries_forget_iff, hkey, keyOpening_prefix_iff]
    constructor
    · intro hdropped
      by_contra hne
      exact hdropped ⟨hentry, hne⟩
    · rintro rfl ⟨-, hne⟩
      exact hne rfl
  sublist := List.filter_sublist
  found now other connectionString := by
    split
    next hsame =>
      exact get?_forget_of_isKeyOf (isKeyOf_cacheKey_iff.mpr hsame) now
    next hne =>
      exact get?_forget_of_not_isKeyOf (mt isKeyOf_cacheKey_iff.mp hne) now
  keys_ne _ hne := keyOfDigest_ne hne

/-- One is the beginning of twelve, and minus one ends like it. -/
example :
    let cache : Cache := ⟨10,
      [⟨keyOfDigest 1 7, ⟨[]⟩, 0⟩, ⟨keyOfDigest 12 7, ⟨[]⟩, 0⟩, ⟨keyOfDigest (-1) 7, ⟨[]⟩, 0⟩]⟩
    (cache.forget 1).entries.map CacheEntry.key = [keyOfDigest 12 7, keyOfDigest (-1) 7] := by
  decide +kernel

end Cache

end QueryWarden.Schema
