import Mathlib
import QueryWarden.Crypto.Gcm

/-!
# Sealing and opening

Under a key and a nonce of the right sizes the key stream has whole blocks, so combining a text with
it twice gives the text back. Opening therefore succeeds on exactly the payloads that sealing makes.
-/

namespace QueryWarden.Crypto

/-! ## Sizes of digests and numbers -/

@[simp] theorem Sha256.length_bigEndian (count value : Nat) :
    (Sha256.bigEndian count value).length = count := by
  simp [Sha256.bigEndian]

@[simp] theorem Sha256.length_digest (message : List UInt8) :
    (Sha256.digest message).length = 32 := by
  simp [Sha256.digest, Sha256.wordBytes]

namespace Aes

/-! ## Sizes of blocks -/

@[simp] theorem length_xorBytes (left right : List UInt8) :
    (xorBytes left right).length = min left.length right.length := by
  simp [xorBytes]

/-- Adding the same bytes twice changes nothing. -/
theorem xorBytes_xorBytes {bytes mask : List UInt8} (hsize : bytes.length ≤ mask.length) :
    xorBytes (xorBytes bytes mask) mask = bytes := by
  induction bytes generalizing mask with
  | nil => simp [xorBytes]
  | cons byte bytes ih =>
      cases mask with
      | nil => simp at hsize
      | cons first mask =>
          have hrest : xorBytes (xorBytes bytes mask) mask = bytes := ih (by simpa using hsize)
          simp only [xorBytes, List.zipWith_cons_cons, List.cons.injEq] at hrest ⊢
          exact ⟨by rw [UInt8.xor_assoc, UInt8.xor_self, UInt8.xor_zero], hrest⟩

@[simp] theorem length_shiftRows (state : List UInt8) : (shiftRows state).length = 16 := by
  simp [shiftRows, rowShift]

theorem length_mixColumns (state : List UInt8) :
    (mixColumns state).length = state.length / 4 * 4 := by
  induction state using mixColumns.induct with
  | case1 a b c d rest ih =>
      simp only [mixColumns, mixColumn, List.length_append, List.length_cons, List.length_nil, ih]
      omega
  | case2 state hstate =>
      match state, hstate with
      | [], _ | [_], _ | [_, _], _ | [_, _, _], _ => simp [mixColumns]
      | a :: b :: c :: d :: rest, hstate => exact (hstate a b c d rest rfl).elim

theorem length_runRounds {keys : List (List UInt8)} (hkeys : ∀ key ∈ keys, key.length = 16)
    {state : List UInt8} (hstate : state.length = 16) : (runRounds keys state).length = 16 := by
  induction keys generalizing state with
  | nil => exact hstate
  | cons key keys ih =>
      have hkey := hkeys key List.mem_cons_self
      cases keys with
      | nil => simp [runRounds, hkey]
      | cons next keys =>
          refine ih (fun other hother => hkeys other (List.mem_cons_of_mem _ hother)) ?_
          simp [length_mixColumns, hkey]

theorem length_encipher {keys : List (List UInt8)} (hkeys : ∀ key ∈ keys, key.length = 16)
    (hne : keys ≠ []) {block : List UInt8} (hblock : block.length = 16) :
    (encipher keys block).length = 16 := by
  cases keys with
  | nil => exact absurd rfl hne
  | cons key keys =>
      refine length_runRounds (fun other hother => hkeys other (List.mem_cons_of_mem _ hother)) ?_
      simp [hblock, hkeys key List.mem_cons_self]

/-! ## Sizes of round keys -/

/-- Words of four bytes. -/
def AreWords (words : List (List UInt8)) : Prop :=
  ∀ word ∈ words, word.length = 4

theorem AreWords.append {front back : List (List UInt8)} (hfront : AreWords front)
    (hback : AreWords back) : AreWords (front ++ back) :=
  fun word hword => (List.mem_append.mp hword).elim (hfront word) (hback word)

theorem AreWords.length_getD {words : List (List UInt8)} (hwords : AreWords words) {index : Nat}
    (hindex : index < words.length) : (words.getD index []).length = 4 := by
  rw [List.getD_eq_getElem _ _ hindex]
  exact hwords _ (List.getElem_mem hindex)

theorem areWords_inWords (bytes : List UInt8) : AreWords (inWords bytes) := by
  induction bytes using inWords.induct with
  | case1 a b c d rest ih => simpa [AreWords, inWords] using ih
  | case2 bytes hbytes => simp [AreWords, inWords]

theorem length_inWords (bytes : List UInt8) : (inWords bytes).length = bytes.length / 4 := by
  induction bytes using inWords.induct with
  | case1 a b c d rest ih =>
      simp only [inWords, List.length_cons, ih]
      omega
  | case2 bytes hbytes =>
      match bytes, hbytes with
      | [], _ | [_], _ | [_, _], _ | [_, _, _], _ => simp [inWords]
      | a :: b :: c :: d :: rest, hbytes => exact (hbytes a b c d rest rfl).elim

@[simp] theorem length_extendWords (olds : List (List UInt8)) (last : List UInt8) :
    (extendWords olds last).length = olds.length := by
  induction olds generalizing last with
  | nil => rfl
  | cons old olds ih => simp [extendWords, ih]

theorem areWords_extendWords {olds : List (List UInt8)} (holds : AreWords olds)
    {last : List UInt8} (hlast : last.length = 4) : AreWords (extendWords olds last) := by
  induction olds generalizing last with
  | nil => simp [AreWords, extendWords]
  | cons old olds ih =>
      have hword : (xorBytes old last).length = 4 := by
        simp [hlast, holds old List.mem_cons_self]
      have hrest := ih (fun word hword => holds word (List.mem_cons_of_mem _ hword)) hword
      exact List.forall_mem_cons.mpr ⟨hword, hrest⟩

theorem length_nextWords (constant : UInt8) {words : List (List UInt8)}
    (hlength : words.length = 8) : (nextWords constant words).length = 8 := by
  simp [nextWords, hlength]

theorem areWords_nextWords (constant : UInt8) {words : List (List UInt8)} (hwords : AreWords words)
    (hlength : words.length = 8) : AreWords (nextWords constant words) := by
  have hturned : (rotateWord (words.getD 7 [])).length = 4 := by
    have hlast := hwords.length_getD (by omega : 7 < words.length)
    simp only [rotateWord, List.length_append, List.length_drop, List.length_take, hlast]
    decide
  have hfront : AreWords (extendWords (words.take 4)
      (xorBytes ((rotateWord (words.getD 7 [])).map substitute) [constant, 0, 0, 0])) := by
    refine areWords_extendWords (fun word hword => hwords word (List.mem_of_mem_take hword)) ?_
    rw [length_xorBytes, List.length_map, hturned]
    rfl
  refine hfront.append (areWords_extendWords ?_ ?_)
  · exact fun word hword => hwords word (List.mem_of_mem_drop hword)
  · rw [List.length_map]
    exact hfront.length_getD (by simp [hlength])

theorem areWords_schedule (constants : List UInt8) {words : List (List UInt8)}
    (hwords : AreWords words) (hlength : words.length = 8) :
    AreWords (schedule constants words) := by
  induction constants generalizing words with
  | nil => simp [AreWords, schedule]
  | cons constant constants ih =>
      have hnext := areWords_nextWords constant hwords hlength
      exact hnext.append (ih hnext (length_nextWords constant hlength))

theorem length_of_mem_inRoundKeys {words : List (List UInt8)} (hwords : AreWords words) :
    ∀ key ∈ inRoundKeys words, key.length = 16 := by
  induction words using inRoundKeys.induct with
  | case1 a b c d rest ih =>
      simp only [AreWords, List.forall_mem_cons] at hwords
      obtain ⟨ha, hb, hc, hd, hrest⟩ := hwords
      exact List.forall_mem_cons.mpr ⟨by simp [ha, hb, hc, hd], ih hrest⟩
  | case2 words hwords => simp [inRoundKeys]

/-- A key of 32 bytes gives round keys of whole blocks. -/
theorem length_of_mem_roundKeys {key : List UInt8} (hkey : key.length = 32) :
    ∀ roundKey ∈ roundKeys key, roundKey.length = 16 := by
  intro roundKey hmem
  refine length_of_mem_inRoundKeys ?_ roundKey (List.mem_of_mem_take hmem)
  have hlength : (inWords key).length = 8 := by rw [length_inWords, hkey]
  exact (areWords_inWords key).append (areWords_schedule _ (areWords_inWords key) hlength)

theorem roundKeys_ne_nil {key : List UInt8} (hkey : key.length = 32) : roundKeys key ≠ [] := by
  have hlength : (inWords key).length = 8 := by rw [length_inWords, hkey]
  match hwords : inWords key, hlength with
  | a :: b :: c :: d :: rest, _ => simp [roundKeys, hwords, inRoundKeys]

end Aes

namespace Gcm

open QueryWarden.Crypto.Aes (xorBytes length_xorBytes xorBytes_xorBytes)

/-! ## The key stream -/

theorem length_counterBlock {nonce : List UInt8} (hnonce : nonce.length = 12) (count : Nat) :
    (counterBlock nonce count).length = blockSize := by
  simp [counterBlock, hnonce, blockSize]

/-- The key stream comes in whole blocks. -/
def HasWholeBlocks (keys : List (List UInt8)) (nonce : List UInt8) : Prop :=
  ∀ count, (Aes.encipher keys (counterBlock nonce count)).length = blockSize

theorem hasWholeBlocks_roundKeys {key nonce : List UInt8} (hkey : key.length = 32)
    (hnonce : nonce.length = 12) : HasWholeBlocks (Aes.roundKeys key) nonce := fun count =>
  Aes.length_encipher (Aes.length_of_mem_roundKeys hkey) (Aes.roundKeys_ne_nil hkey)
    (length_counterBlock hnonce count)

section Stream

variable {keys : List (List UInt8)} {nonce : List UInt8}

theorem combine_nil (blocks count : Nat) : combine keys nonce blocks count [] = [] := by
  cases blocks <;> rfl

theorem combine_cons (blocks count : Nat) {bytes : List UInt8} (hne : bytes ≠ []) :
    combine keys nonce (blocks + 1) count bytes =
      xorBytes (bytes.take blockSize) (Aes.encipher keys (counterBlock nonce count)) ++
        combine keys nonce blocks (count + 1) (bytes.drop blockSize) := by
  cases bytes with
  | nil => exact absurd rfl hne
  | cons byte bytes => rfl

/-- A block, perhaps the last and shorter than others, is combined with as many bytes. -/
theorem length_combined_block (hwhole : HasWholeBlocks keys nonce) (count : Nat)
    (bytes : List UInt8) :
    (xorBytes (bytes.take blockSize) (Aes.encipher keys (counterBlock nonce count))).length =
      min blockSize bytes.length := by
  rw [length_xorBytes, hwhole, List.length_take]
  omega

theorem length_combine (hwhole : HasWholeBlocks keys nonce) {blocks : Nat} (count : Nat)
    {bytes : List UInt8} (hblocks : bytes.length ≤ blocks) :
    (combine keys nonce blocks count bytes).length = bytes.length := by
  induction blocks generalizing count bytes with
  | zero =>
      obtain rfl := List.length_eq_zero_iff.mp (Nat.le_zero.mp hblocks)
      rfl
  | succ blocks ih =>
      by_cases hne : bytes = []
      · subst hne
        rfl
      · have hpos := List.length_pos_iff.mpr hne
        have hrest : (bytes.drop blockSize).length ≤ blocks := by
          rw [List.length_drop, blockSize]
          omega
        rw [combine_cons blocks count hne, List.length_append, length_combined_block hwhole,
          ih _ hrest, List.length_drop]
        omega

/-- Combining twice gives the bytes back. -/
theorem combine_combine (hwhole : HasWholeBlocks keys nonce) {blocks : Nat} (count : Nat)
    {bytes : List UInt8} (hblocks : bytes.length ≤ blocks) :
    combine keys nonce blocks count (combine keys nonce blocks count bytes) = bytes := by
  induction blocks generalizing count bytes with
  | zero =>
      obtain rfl := List.length_eq_zero_iff.mp (Nat.le_zero.mp hblocks)
      rfl
  | succ blocks ih =>
      by_cases hne : bytes = []
      · subst hne
        rfl
      · have hpos := List.length_pos_iff.mpr hne
        have hrest : (bytes.drop blockSize).length ≤ blocks := by
          rw [List.length_drop, blockSize]
          omega
        have hlength := length_combine hwhole count hblocks
        have hcombined : combine keys nonce (blocks + 1) count bytes ≠ [] := by
          rw [← List.length_pos_iff, hlength]
          exact hpos
        have hblock := length_combined_block hwhole count bytes
        rw [combine_cons blocks count hcombined, combine_cons blocks count hne]
        -- The first block of the combined bytes is the first block combined.
        by_cases hlong : blockSize ≤ bytes.length
        · rw [Nat.min_eq_left hlong] at hblock
          rw [List.take_left' hblock, List.drop_left' hblock, ih _ hrest, xorBytes_xorBytes,
            List.take_append_drop]
          rw [hwhole, List.length_take]
          omega
        · have hempty : bytes.drop blockSize = [] := List.drop_eq_nil_of_le (by omega)
          rw [Nat.min_eq_right (by omega)] at hblock
          rw [hempty, combine_nil, List.append_nil, List.take_of_length_le (by omega),
            List.drop_eq_nil_of_le (by omega), combine_nil, List.append_nil, xorBytes_xorBytes]
          · exact List.take_of_length_le (by omega)
          · rw [hwhole, List.length_take]
            omega

end Stream

/-! ## Sealed payloads -/

section Payloads

variable {key nonce : List UInt8}

theorem length_applyStream (hkey : key.length = 32) (hnonce : nonce.length = 12)
    (bytes : List UInt8) :
    (applyStream (Aes.roundKeys key) nonce bytes).length = bytes.length :=
  length_combine (hasWholeBlocks_roundKeys hkey hnonce) 2 le_rfl

theorem applyStream_applyStream (hkey : key.length = 32) (hnonce : nonce.length = 12)
    (bytes : List UInt8) :
    applyStream (Aes.roundKeys key) nonce (applyStream (Aes.roundKeys key) nonce bytes) =
      bytes := by
  have hlength := length_applyStream hkey hnonce bytes
  rw [applyStream, hlength]
  exact combine_combine (hasWholeBlocks_roundKeys hkey hnonce) 2 le_rfl

theorem length_tag (hkey : key.length = 32) (hnonce : nonce.length = 12)
    (sealedText : List UInt8) : (tag (Aes.roundKeys key) nonce sealedText).length = blockSize := by
  rw [tag, length_xorBytes, Sha256.length_bigEndian, hasWholeBlocks_roundKeys hkey hnonce]
  rfl

theorem length_encrypt (hkey : key.length = 32) (hnonce : nonce.length = 12)
    (plain : List UInt8) : (encrypt key nonce plain).length = plain.length + blockSize := by
  rw [encrypt, List.length_append, length_applyStream hkey hnonce, length_tag hkey hnonce]

/-- A payload opens as a text exactly when it is what sealing the text gives. -/
theorem decrypt?_eq_some_iff (hkey : key.length = 32) (hnonce : nonce.length = 12)
    {payload plain : List UInt8} :
    decrypt? key nonce payload = some plain ↔ payload = encrypt key nonce plain := by
  constructor
  · intro hopen
    unfold decrypt? at hopen
    split at hopen
    next => cases hopen
    next hlong =>
      dsimp only at hopen
      split at hopen
      next htag =>
        obtain rfl := Option.some.inj hopen
        rw [encrypt, applyStream_applyStream hkey hnonce, ← htag, List.take_append_drop]
      next => cases hopen
  · rintro rfl
    have hlength := length_encrypt hkey hnonce plain
    have hsealed : (applyStream (Aes.roundKeys key) nonce plain).length =
        (encrypt key nonce plain).length - blockSize := by
      rw [hlength, length_applyStream hkey hnonce]
      omega
    unfold decrypt?
    rw [if_neg (by omega)]
    dsimp only
    rw [← hsealed, encrypt, List.take_left' rfl, List.drop_left' rfl, if_pos rfl,
      applyStream_applyStream hkey hnonce]

end Payloads

end Gcm

end QueryWarden.Crypto
