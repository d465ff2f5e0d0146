import QueryWarden.Bytes.Base64
import QueryWarden.Proofs.Bytes.Utf8
import QueryWarden.Proofs.Outcome

/-!
# The one spelling of bytes in base64

Reading base64 is the inverse of writing it: what is written is read back, and whatever can be read
is what would have been written. So bytes have one spelling and no two byte lists share one.
-/

namespace QueryWarden.Bytes.Base64

/-! ## Symbols -/

theorem value?_symbol {value : Nat} (hvalue : value < 64) : value? (symbol value) = some value := by
  revert hvalue value
  decide +kernel

theorem symbol_ne_padding {value : Nat} (hvalue : value < 64) : symbol value ≠ padding := by
  revert hvalue value
  decide +kernel

theorem value?_eq_some {found : UInt8} {value : Nat} (hvalue : value? found = some value) :
    value < 64 ∧ symbol value = found := by
  have hall : ∀ code < 256, ∀ value ∈ value? (byte code),
      value < 64 ∧ symbol value = byte code := by decide +kernel
  have hfound := hall found.toNat found.toNat_lt value
  rw [byte_eq_of_toNat found rfl] at hfound
  exact hfound hvalue

theorem need_symbol {value : Nat} (hvalue : value < 64) (offset : Nat) :
    need (symbol value) offset = .ok value := by
  rw [need, value?_symbol hvalue]

theorem need_eq_ok {found : UInt8} {offset value : Nat} (hneed : need found offset = .ok value) :
    value < 64 ∧ symbol value = found := by
  unfold need at hneed
  cases hvalue : value? found with
  | none => simp [hvalue] at hneed
  | some other =>
      simp only [hvalue, Except.ok.injEq] at hneed
      exact value?_eq_some (hneed ▸ hvalue)

/-! ## Three bytes in four symbols -/

/-- Three bytes are put together again from the values of their four symbols. -/
theorem bytes_of_values (a b c : UInt8) :
    byte (a.toNat / 4 * 4 + (a.toNat % 4 * 16 + b.toNat / 16) / 16) = a ∧
      byte ((a.toNat % 4 * 16 + b.toNat / 16) % 16 * 16 + (b.toNat % 16 * 4 + c.toNat / 64) / 4) =
        b ∧
      byte ((b.toNat % 16 * 4 + c.toNat / 64) % 4 * 64 + c.toNat % 64) = c := by
  have ha := a.toNat_lt
  have hb := b.toNat_lt
  have hc := c.toNat_lt
  refine ⟨byte_eq_of_toNat a ?_, byte_eq_of_toNat b ?_, byte_eq_of_toNat c ?_⟩ <;> omega

/-- Four values are taken apart again from the three bytes they are put together to. -/
theorem values_of_bytes {a b c d : Nat} (ha : a < 64) (hb : b < 64) (hc : c < 64) (hd : d < 64) :
    (byte (a * 4 + b / 16)).toNat / 4 = a ∧
      (byte (a * 4 + b / 16)).toNat % 4 * 16 + (byte (b % 16 * 16 + c / 4)).toNat / 16 = b ∧
      (byte (b % 16 * 16 + c / 4)).toNat % 16 * 4 + (byte (c % 4 * 64 + d)).toNat / 64 = c ∧
      (byte (c % 4 * 64 + d)).toNat % 64 = d := by
  rw [toNat_byte (by omega), toNat_byte (by omega), toNat_byte (by omega)]
  omega

/-! ## What is written is read -/

theorem decodeLast_encode_one (a : UInt8) (offset : Nat) :
    decodeLast offset (encode [a]) = .ok [a] := by
  have ha := a.toNat_lt
  have hbyte : byte (a.toNat / 4 * 4 + a.toNat % 4 * 16 / 16) = a :=
    byte_eq_of_toNat a (by omega)
  rw [encode, decodeLast, need_symbol (by omega), need_symbol (by omega), ok_bind, ok_bind,
    if_pos rfl, if_pos rfl, lastTwo, if_pos (by omega), hbyte]

theorem decodeLast_encode_two (a b : UInt8) (offset : Nat) :
    decodeLast offset (encode [a, b]) = .ok [a, b] := by
  have ha := a.toNat_lt
  have hb := b.toNat_lt
  have hfirst : byte (a.toNat / 4 * 4 + (a.toNat % 4 * 16 + b.toNat / 16) / 16) = a :=
    byte_eq_of_toNat a (by omega)
  have hsecond : byte ((a.toNat % 4 * 16 + b.toNat / 16) % 16 * 16 + b.toNat % 16 * 4 / 4) = b :=
    byte_eq_of_toNat b (by omega)
  rw [encode, decodeLast, need_symbol (by omega), need_symbol (by omega), ok_bind, ok_bind,
    if_neg (symbol_ne_padding (by omega)), need_symbol (by omega), ok_bind, if_pos rfl, lastThree,
    if_pos (by omega), hfirst, hsecond]

theorem decodeLast_encode_three (a b c : UInt8) (offset : Nat) :
    decodeLast offset (encode [a, b, c]) = .ok [a, b, c] := by
  have ha := a.toNat_lt
  have hb := b.toNat_lt
  have hc := c.toNat_lt
  obtain ⟨hfirst, hsecond, hthird⟩ := bytes_of_values a b c
  rw [encode, decodeLast, need_symbol (by omega), need_symbol (by omega), ok_bind, ok_bind,
    if_neg (symbol_ne_padding (by omega)), need_symbol (by omega), ok_bind,
    if_neg (symbol_ne_padding (by omega)), need_symbol (by omega), ok_bind, hfirst, hsecond, hthird]

/-- Three bytes, or fewer at the end, take four symbols. -/
theorem length_encode (bytes : List UInt8) :
    (encode bytes).length = 4 * ((bytes.length + 2) / 3) := by
  induction bytes using encode.induct with
  | case1 => rfl
  | case2 a => simp [encode]
  | case3 a b => simp [encode]
  | case4 a b c rest ih =>
      simp only [encode, List.length_cons, ih]
      omega

theorem encode_eq_nil_iff (bytes : List UInt8) : encode bytes = [] ↔ bytes = [] := by
  rw [← List.length_eq_zero_iff, ← List.length_eq_zero_iff, length_encode]
  omega

theorem decodeGroups_encode (offset : Nat) (bytes : List UInt8) :
    decodeGroups offset (encode bytes) = .ok bytes := by
  induction bytes using encode.induct generalizing offset with
  | case1 => rfl
  | case2 a => exact decodeLast_encode_one a offset
  | case3 a b => exact decodeLast_encode_two a b offset
  | case4 a b c rest ih =>
      have ha := a.toNat_lt
      have hb := b.toNat_lt
      have hc := c.toNat_lt
      -- A complete group is read as the last one only if nothing follows it.
      cases hrest : encode rest with
      | nil =>
          obtain rfl := (encode_eq_nil_iff rest).mp hrest
          exact decodeLast_encode_three a b c offset
      | cons next others =>
          obtain ⟨hfirst, hsecond, hthird⟩ := bytes_of_values a b c
          rw [encode, hrest, decodeGroups, ← hrest, ih, need_symbol (by omega),
            need_symbol (by omega), need_symbol (by omega), need_symbol (by omega)]
          simp only [ok_bind, hfirst, hsecond, hthird]

/-- What is written for bytes is read as those bytes. -/
theorem decode_encode (bytes : List UInt8) : decode (encode bytes) = .ok bytes := by
  have hlength : (encode bytes).length % 4 ≠ 1 := by
    rw [length_encode]
    omega
  unfold decode
  split
  next last hlast =>
    rw [if_neg (by simp [hlength]), decodeGroups_encode]
  next hlast =>
    rw [(encode_eq_nil_iff bytes).mp (List.getLast?_eq_none_iff.mp hlast)]

/-! ## What is read was written -/

theorem encode_of_lastTwo {first second : UInt8} {a b offset : Nat} {bytes : List UInt8}
    (hfirst : a < 64 ∧ symbol a = first) (hsecond : b < 64 ∧ symbol b = second)
    (hlast : lastTwo second a b offset = .ok bytes) :
    [first, second, padding, padding] = encode bytes := by
  unfold lastTwo at hlast
  split at hlast
  next hbits =>
    obtain rfl := Except.ok.inj hlast
    rw [encode, toNat_byte (by omega), show (a * 4 + b / 16) / 4 = a by omega,
      show (a * 4 + b / 16) % 4 * 16 = b by omega, hfirst.2, hsecond.2]
  next => cases hlast

theorem encode_of_lastThree {first second third : UInt8} {a b c offset : Nat} {bytes : List UInt8}
    (hfirst : a < 64 ∧ symbol a = first) (hsecond : b < 64 ∧ symbol b = second)
    (hthird : c < 64 ∧ symbol c = third) (hlast : lastThree third a b c offset = .ok bytes) :
    [first, second, third, padding] = encode bytes := by
  unfold lastThree at hlast
  split at hlast
  next hbits =>
    obtain rfl := Except.ok.inj hlast
    rw [encode, toNat_byte (by omega), toNat_byte (by omega),
      show (a * 4 + b / 16) / 4 = a by omega,
      show (a * 4 + b / 16) % 4 * 16 + (b % 16 * 16 + c / 4) / 16 = b by omega,
      show (b % 16 * 16 + c / 4) % 16 * 4 = c by omega, hfirst.2, hsecond.2, hthird.2]
  next => cases hlast

/-- A complete group of four symbols in front of others. -/
theorem encode_of_group {first second third fourth : UInt8} {a b c d : Nat}
    (hfirst : a < 64 ∧ symbol a = first) (hsecond : b < 64 ∧ symbol b = second)
    (hthird : c < 64 ∧ symbol c = third) (hfourth : d < 64 ∧ symbol d = fourth)
    (bytes : List UInt8) :
    encode (byte (a * 4 + b / 16) :: byte (b % 16 * 16 + c / 4) :: byte (c % 4 * 64 + d) :: bytes) =
      first :: second :: third :: fourth :: encode bytes := by
  obtain ⟨ha, hb, hc, hd⟩ := values_of_bytes hfirst.1 hsecond.1 hthird.1 hfourth.1
  rw [encode, ha, hb, hc, hd, hfirst.2, hsecond.2, hthird.2, hfourth.2]

theorem encode_of_decodeLast {offset : Nat} {group bytes : List UInt8} (hsize : group.length ≤ 4)
    (hread : decodeLast offset group = .ok bytes) : group = encode bytes := by
  unfold decodeLast at hread
  split at hread
  · obtain rfl := Except.ok.inj hread
    rfl
  · simp [bind_eq_ok_iff] at hread
  · simp [bind_eq_ok_iff] at hread
  · simp only [bind_eq_ok_iff] at hread
    obtain ⟨a, ha, b, hb, hread⟩ := hread
    split at hread <;> simp [bind_eq_ok_iff] at hread
  next first second third fourth rest =>
    simp only [List.length_cons] at hsize
    obtain rfl := List.length_eq_zero_iff.mp (by omega : rest.length = 0)
    simp only [bind_eq_ok_iff] at hread
    obtain ⟨a, ha, b, hb, hread⟩ := hread
    have hfirst := need_eq_ok ha
    have hsecond := need_eq_ok hb
    by_cases hpadded : third = padding
    · subst hpadded
      rw [if_pos rfl] at hread
      split at hread
      next hfourth =>
        subst hfourth
        exact encode_of_lastTwo hfirst hsecond hread
      next => cases hread
    · rw [if_neg hpadded, bind_eq_ok_iff] at hread
      obtain ⟨c, hc, hread⟩ := hread
      have hthird := need_eq_ok hc
      split at hread
      next hfourth =>
        subst hfourth
        exact encode_of_lastThree hfirst hsecond hthird hread
      next =>
        obtain ⟨d, hd, hread⟩ := bind_eq_ok_iff.mp hread
        obtain rfl := Except.ok.inj hread
        exact (encode_of_group hfirst hsecond hthird (need_eq_ok hd) []).symm

theorem encode_of_decodeGroups {offset : Nat} {symbols bytes : List UInt8}
    (hread : decodeGroups offset symbols = .ok bytes) : symbols = encode bytes := by
  induction offset, symbols using decodeGroups.induct generalizing bytes with
  | case1 offset first second third fourth next rest ih =>
      simp only [decodeGroups, bind_eq_ok_iff] at hread
      obtain ⟨a, ha, b, hb, c, hc, d, hd, others, hothers, hread⟩ := hread
      obtain rfl := Except.ok.inj hread
      rw [encode_of_group (need_eq_ok ha) (need_eq_ok hb) (need_eq_ok hc) (need_eq_ok hd),
        ← ih hothers]
  | case2 offset group hgroup =>
      rw [decodeGroups] at hread
      · refine encode_of_decodeLast ?_ hread
        -- Five symbols or more would be a group in front of others.
        match group, hgroup with
        | [], _ | [_], _ | [_, _], _ | [_, _, _], _ | [_, _, _, _], _ => simp
        | first :: second :: third :: fourth :: next :: rest, hgroup =>
            exact (hgroup first second third fourth next rest rfl).elim
      · exact hgroup

/-- Symbols that are read as bytes are those written for the bytes. -/
theorem encode_of_decode {symbols bytes : List UInt8} (hread : decode symbols = .ok bytes) :
    symbols = encode bytes := by
  unfold decode at hread
  split at hread
  next last hlast =>
    split at hread
    next => cases hread
    next => exact encode_of_decodeGroups hread
  next hlast =>
    obtain rfl := Except.ok.inj hread
    exact List.getLast?_eq_none_iff.mp hlast

/-! ## Symbols as characters -/

/-- A character of the base64 alphabet or its padding. -/
def IsSymbol (c : Char) : Prop :=
  c.isAlphanum = true ∨ c = '+' ∨ c = '/' ∨ c = '='

instance (c : Char) : Decidable (IsSymbol c) :=
  inferInstanceAs (Decidable (_ ∨ _))

theorem isSymbol_symbol {value : Nat} (hvalue : value < 64) :
    (symbol value).toNat < 0x80 ∧ IsSymbol (Char.ofNat (symbol value).toNat) := by
  revert hvalue value
  decide +kernel

theorem isSymbol_padding : padding.toNat < 0x80 ∧ IsSymbol (Char.ofNat padding.toNat) := by
  decide +kernel

theorem isSymbol_of_mem_encode {bytes : List UInt8} :
    ∀ found ∈ encode bytes, found.toNat < 0x80 ∧ IsSymbol (Char.ofNat found.toNat) := by
  induction bytes using encode.induct with
  | case1 => simp [encode]
  | case2 a =>
      have ha := a.toNat_lt
      simp only [encode, List.forall_mem_cons]
      exact ⟨isSymbol_symbol (by omega), isSymbol_symbol (by omega), isSymbol_padding,
        isSymbol_padding, by simp⟩
  | case3 a b =>
      have ha := a.toNat_lt
      have hb := b.toNat_lt
      simp only [encode, List.forall_mem_cons]
      exact ⟨isSymbol_symbol (by omega), isSymbol_symbol (by omega), isSymbol_symbol (by omega),
        isSymbol_padding, by simp⟩
  | case4 a b c rest ih =>
      have ha := a.toNat_lt
      have hb := b.toNat_lt
      have hc := c.toNat_lt
      simp only [encode, List.forall_mem_cons]
      exact ⟨isSymbol_symbol (by omega), isSymbol_symbol (by omega), isSymbol_symbol (by omega),
        isSymbol_symbol (by omega), ih⟩

/-- The symbols for bytes as a text. -/
def spelling (bytes : List UInt8) : List Char :=
  (encode bytes).map fun symbol => Char.ofNat symbol.toNat

theorem isSymbol_of_mem_spelling {bytes : List UInt8} : ∀ c ∈ spelling bytes, IsSymbol c := by
  intro c hc
  obtain ⟨found, hfound, rfl⟩ := List.mem_map.mp hc
  exact (isSymbol_of_mem_encode found hfound).2

theorem length_spelling (bytes : List UInt8) :
    (spelling bytes).length = 4 * ((bytes.length + 2) / 3) := by
  rw [spelling, List.length_map, length_encode]

theorem encodeText_spelling (bytes : List UInt8) : encodeText (spelling bytes) = encode bytes := by
  have hsymbols : ∀ found ∈ encode bytes, found.toNat < 0x80 ∧
      IsSymbol (Char.ofNat found.toNat) := isSymbol_of_mem_encode
  unfold spelling
  generalize encode bytes = symbols at hsymbols ⊢
  induction symbols with
  | nil => rfl
  | cons found symbols ih =>
      have hfound := hsymbols found List.mem_cons_self
      rw [List.map_cons, encodeText_cons, encodeCode_one hfound.1,
        ih fun other hother => hsymbols other (List.mem_cons_of_mem _ hother)]
      rfl

/-- A text is read as bytes exactly when it is their spelling. -/
theorem decode_encodeText_eq_ok_iff {text : List Char} {bytes : List UInt8} :
    decode (encodeText text) = .ok bytes ↔ text = spelling bytes := by
  constructor
  · intro hread
    apply encodeText_injective
    rw [encodeText_spelling, encode_of_decode hread]
  · rintro rfl
    rw [encodeText_spelling, decode_encode]

end QueryWarden.Bytes.Base64
