import QueryWarden.Connections.Registry
import QueryWarden.Proofs.Bytes.Base64
import QueryWarden.Proofs.Crypto.Gcm

/-!
# Sealed texts

A stored text opens exactly when it is a text sealed under the same secret, and it is then the only
spelling of that sealing: the nonce and the enciphered bytes leave no choice for the tag or for the
base64 around them.
-/

namespace QueryWarden.Connections

open QueryWarden.Bytes QueryWarden.Crypto QueryWarden.Sql

namespace Cipher

variable {cipher : Cipher}

/-! ## Marks and payloads -/

theorem afterMark?_eq_some_iff {stored symbols : List Char} :
    afterMark? stored = some symbols ↔ stored = sealMark.toList ++ symbols := by
  unfold afterMark?
  split
  next hmark =>
    obtain ⟨rest, rfl⟩ := List.isPrefixOf_iff_prefix.mp hmark
    simp
  next hmark =>
    simp only [reduceCtorEq, false_iff]
    rintro rfl
    exact hmark (List.isPrefixOf_iff_prefix.mpr ⟨symbols, rfl⟩)

/-- The bytes that a stored text spells after its mark. -/
def payload? (stored : String) : Option (List UInt8) :=
  (afterMark? stored.toList).bind fun symbols => (Base64.decode (encodeText symbols)).toOption

theorem payload?_eq_some_iff {stored : String} {payload : List UInt8} :
    payload? stored = some payload ↔
      stored = String.ofList (sealMark.toList ++ Base64.spelling payload) := by
  rw [← String.toList_inj, String.toList_ofList, ← afterMark?_eq_some_iff, payload?,
    Option.bind_eq_some_iff]
  constructor
  · rintro ⟨symbols, hmark, hread⟩
    cases hdecode : Base64.decode (encodeText symbols) with
    | error fault => simp [hdecode, Except.toOption] at hread
    | ok found =>
        rw [hdecode] at hread
        obtain rfl := Option.some.inj hread
        rw [hmark, Base64.decode_encodeText_eq_ok_iff.mp hdecode]
  · intro hmark
    refine ⟨_, hmark, ?_⟩
    rw [Base64.decode_encodeText_eq_ok_iff.mpr rfl]
    rfl

theorem sealText_eq (nonce : List UInt8) (plain : String) :
    cipher.sealText nonce plain =
      String.ofList (sealMark.toList ++ Base64.spelling (cipher.payload nonce plain)) := rfl

theorem openText_eq_ok_iff {stored plain : String} :
    cipher.openText stored = .ok plain ↔
      ∃ payload, payload? stored = some payload ∧ cipher.openPayload payload = .ok plain := by
  unfold openText payload?
  cases afterMark? stored.toList with
  | none => simp
  | some symbols =>
      cases hread : Base64.decode (encodeText symbols) with
      | error fault => simp [hread, Except.toOption]
      | ok payload => simp [hread, Except.toOption]

/-! ## Sealed payloads -/

theorem length_key_ofSecret (secret : String) : (ofSecret secret).key.length = 32 :=
  Sha256.length_digest _

section Payloads

variable (hkey : cipher.key.length = 32)

include hkey

theorem length_payload {nonce : List UInt8} (hnonce : nonce.length = nonceSize) (plain : String) :
    (cipher.payload nonce plain).length = plain.utf8ByteSize + 28 := by
  rw [payload, List.length_append, Gcm.length_encrypt hkey hnonce, length_encodeText,
    String.ofList_toList, hnonce, nonceSize, Gcm.blockSize]
  omega

/-- A payload opens as a text exactly when it was sealed from the text with the nonce that it
begins with. -/
theorem openPayload_eq_ok_iff {payload : List UInt8} {plain : String} :
    cipher.openPayload payload = .ok plain ↔
      nonceSize ≤ payload.length ∧
        payload = cipher.payload (payload.take nonceSize) plain := by
  constructor
  · intro hopen
    unfold openPayload at hopen
    split at hopen
    next => cases hopen
    next hlong =>
      have hnonce : (payload.take nonceSize).length = 12 := by
        rw [List.length_take, nonceSize] at *
        omega
      split at hopen
      next => cases hopen
      next bytes hdecrypt =>
        split at hopen
        next text hread =>
          obtain rfl := Except.ok.inj hopen
          refine ⟨by omega, ?_⟩
          rw [Cipher.payload, String.toList_ofList, ← encodeText_of_decodeText hread,
            ← (Gcm.decrypt?_eq_some_iff hkey hnonce).mp hdecrypt, List.take_append_drop]
        next => cases hopen
  · rintro ⟨hlong, hpayload⟩
    have hnonce : (payload.take nonceSize).length = nonceSize := by
      rw [List.length_take, Nat.min_eq_left hlong]
    have hlength := length_payload hkey hnonce plain
    rw [← hpayload] at hlength
    have hsealed : payload.drop nonceSize =
        Gcm.encrypt cipher.key (payload.take nonceSize) (encodeText plain.toList) := by
      have hsplit := (List.take_append_drop nonceSize payload).trans hpayload
      exact List.append_cancel_left hsplit
    rw [openPayload, if_neg (by rw [nonceSize]; omega),
      (Gcm.decrypt?_eq_some_iff hkey hnonce).mpr hsealed]
    simp only [decodeText_encodeText, String.ofList_toList]

/-- What is sealed opens again. -/
theorem openText_sealText {nonce : List UInt8} (hnonce : nonce.length = nonceSize)
    (plain : String) : cipher.openText (cipher.sealText nonce plain) = .ok plain := by
  have hlength := length_payload hkey hnonce plain
  refine openText_eq_ok_iff.mpr ⟨_, payload?_eq_some_iff.mpr rfl, ?_⟩
  have htake : (cipher.payload nonce plain).take nonceSize = nonce := List.take_left' hnonce
  rw [openPayload_eq_ok_iff hkey, htake]
  exact ⟨by rw [nonceSize]; omega, rfl⟩

theorem nonceSize_add_tag_le {payload : List UInt8} {plain : String}
    (hopen : cipher.openPayload payload = .ok plain) :
    nonceSize + Gcm.blockSize ≤ payload.length := by
  obtain ⟨hlong, hpayload⟩ := (openPayload_eq_ok_iff hkey).mp hopen
  have hnonce : (payload.take nonceSize).length = nonceSize := by
    rw [List.length_take, Nat.min_eq_left hlong]
  have hlength := length_payload hkey hnonce plain
  rw [← hpayload] at hlength
  rw [nonceSize, Gcm.blockSize]
  omega

end Payloads

/-- The nonce and the enciphered text of a payload, without the tag. -/
def withoutTag (payload : List UInt8) : List UInt8 :=
  payload.take (payload.length - Gcm.blockSize)

section Tags

variable (hkey : cipher.key.length = 32)

include hkey

theorem withoutTag_payload {nonce : List UInt8} (hnonce : nonce.length = nonceSize)
    (plain : String) :
    withoutTag (cipher.payload nonce plain) =
      nonce ++ Gcm.applyStream (Aes.roundKeys cipher.key) nonce (encodeText plain.toList) := by
  have hlength : (nonce ++ Gcm.applyStream (Aes.roundKeys cipher.key) nonce
      (encodeText plain.toList)).length = (cipher.payload nonce plain).length - Gcm.blockSize := by
    rw [payload, List.length_append, List.length_append, Gcm.length_encrypt hkey hnonce,
      Gcm.length_applyStream hkey hnonce]
    omega
  have hpayload : cipher.payload nonce plain =
      (nonce ++ Gcm.applyStream (Aes.roundKeys cipher.key) nonce (encodeText plain.toList)) ++
        Gcm.tag (Aes.roundKeys cipher.key) nonce
          (Gcm.applyStream (Aes.roundKeys cipher.key) nonce (encodeText plain.toList)) := by
    rw [List.append_assoc]
    rfl
  rw [withoutTag, ← hlength, hpayload]
  exact List.take_left

/-- Two sealings that agree up to their tags are the same. -/
theorem payload_eq_of_withoutTag {nonce other : List UInt8} (hnonce : nonce.length = nonceSize)
    (hother : other.length = nonceSize) {plain otherPlain : String}
    (hbody : withoutTag (cipher.payload nonce plain) =
      withoutTag (cipher.payload other otherPlain)) :
    cipher.payload nonce plain = cipher.payload other otherPlain := by
  rw [withoutTag_payload hkey hnonce, withoutTag_payload hkey hother] at hbody
  obtain ⟨rfl, hstream⟩ := List.append_inj hbody (hnonce.trans hother.symm)
  have hbytes := congrArg (Gcm.applyStream (Aes.roundKeys cipher.key) nonce) hstream
  rw [Gcm.applyStream_applyStream hkey hnonce, Gcm.applyStream_applyStream hkey hnonce] at hbytes
  rw [String.toList_inj.mp (encodeText_injective hbytes)]

end Tags

/-! ## Stored texts -/

theorem decode_of_openText_error {row : StoredConnection} {dialect : Dialect}
    {createdAt : Time.Timestamp} {fault : SealFault}
    (hdialect : Dialect.ofName? row.dialect = some dialect)
    (hcreated : Time.Timestamp.ofText? row.createdAt.toList = .ok createdAt)
    (hopen : cipher.openText row.sealedString = .error fault) :
    row.decode cipher = .error (.secret fault.message) := by
  simp [StoredConnection.decode, hdialect, hcreated, hopen, ok_bind]

/-- What opening makes of stored texts, and what sealing writes. -/
structure AcceptsOnlySealed (cipher : Cipher) : Prop where
  /-- What is sealed opens again. -/
  opens : ∀ nonce plain, nonce.length = nonceSize →
    cipher.openText (cipher.sealText nonce plain) = .ok plain
  /-- A sealed text is the mark and the base64 of a nonce, as many bytes as the text has, and a
  tag. -/
  written : ∀ nonce plain, nonce.length = nonceSize →
    ∃ symbols, (cipher.sealText nonce plain).toList = "enc:v1:".toList ++ symbols ∧
      symbols.length = 4 * ((plain.utf8ByteSize + 28 + 2) / 3) ∧
      ∀ c ∈ symbols, Base64.IsSymbol c
  /-- What opens was sealed, with the nonce that its payload begins with. -/
  was_sealed : ∀ stored plain, cipher.openText stored = .ok plain →
    ∃ payload, payload? stored = some payload ∧ nonceSize + Gcm.blockSize ≤ payload.length ∧
      stored = cipher.sealText (payload.take nonceSize) plain
  /-- Of the texts whose payloads differ in their tags at most, only one opens. -/
  one_spelling : ∀ stored other plain otherPlain, cipher.openText stored = .ok plain →
    cipher.openText other = .ok otherPlain →
    (payload? stored).map withoutTag = (payload? other).map withoutTag → stored = other
  /-- Everything else is refused for a fault of the secret, and a row that holds it cannot be
  read. -/
  refuses : ∀ stored, (∀ nonce plain, nonce.length = nonceSize →
      stored ≠ cipher.sealText nonce plain) →
    ∃ fault, cipher.openText stored = .error fault ∧
      ∀ (row : StoredConnection) dialect createdAt, row.sealedString = stored →
        Dialect.ofName? row.dialect = some dialect →
        Time.Timestamp.ofText? row.createdAt.toList = .ok createdAt →
          row.decode cipher = .error (.secret fault.message)

theorem sealed_of_openText (hkey : cipher.key.length = 32) {stored plain : String}
    (hopen : cipher.openText stored = .ok plain) :
    ∃ payload, payload? stored = some payload ∧ nonceSize + Gcm.blockSize ≤ payload.length ∧
      payload = cipher.payload (payload.take nonceSize) plain ∧
      stored = cipher.sealText (payload.take nonceSize) plain := by
  obtain ⟨payload, hstored, hpayload⟩ := openText_eq_ok_iff.mp hopen
  have hsealed := ((openPayload_eq_ok_iff hkey).mp hpayload).2
  refine ⟨payload, hstored, nonceSize_add_tag_le hkey hpayload, hsealed, ?_⟩
  rw [sealText_eq, ← hsealed]
  exact payload?_eq_some_iff.mp hstored

/-- Under the key of a secret exactly the sealed texts open, each as what was sealed. -/
theorem ofSecret_acceptsOnlySealed (secret : String) : AcceptsOnlySealed (ofSecret secret) where
  opens nonce plain hnonce := openText_sealText (length_key_ofSecret secret) hnonce plain
  written nonce plain hnonce := by
    refine ⟨Base64.spelling ((ofSecret secret).payload nonce plain), String.toList_ofList, ?_,
      Base64.isSymbol_of_mem_spelling⟩
    rw [Base64.length_spelling, length_payload (length_key_ofSecret secret) hnonce]
  was_sealed stored plain hopen := by
    obtain ⟨payload, hstored, hlong, -, hsealed⟩ :=
      sealed_of_openText (length_key_ofSecret secret) hopen
    exact ⟨payload, hstored, hlong, hsealed⟩
  one_spelling stored other plain otherPlain hopen hother hbody := by
    have hkey := length_key_ofSecret secret
    obtain ⟨payload, hstored, hlong, hpayload, -⟩ := sealed_of_openText hkey hopen
    obtain ⟨otherPayload, hstored', hlong', hpayload', -⟩ := sealed_of_openText hkey hother
    have hnonce : (payload.take nonceSize).length = nonceSize := by
      rw [List.length_take]
      omega
    have hnonce' : (otherPayload.take nonceSize).length = nonceSize := by
      rw [List.length_take]
      omega
    rw [hstored, hstored', Option.map_some, Option.map_some, Option.some.injEq, hpayload,
      hpayload'] at hbody
    have hsame := payload_eq_of_withoutTag hkey hnonce hnonce' hbody
    rw [← hpayload, ← hpayload'] at hsame
    rw [payload?_eq_some_iff.mp hstored, payload?_eq_some_iff.mp hstored', hsame]
  refuses stored hnever := by
    cases hopen : (ofSecret secret).openText stored with
    | ok plain =>
        obtain ⟨payload, -, hlong, -, hsealed⟩ :=
          sealed_of_openText (length_key_ofSecret secret) hopen
        refine absurd hsealed (hnever _ plain ?_)
        rw [List.length_take]
        omega
    | error fault =>
        refine ⟨fault, rfl, ?_⟩
        rintro row dialect createdAt rfl hdialect hcreated
        exact decode_of_openText_error hdialect hcreated hopen

end Cipher

end QueryWarden.Connections
