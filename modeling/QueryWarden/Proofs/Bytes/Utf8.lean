import Mathlib
import QueryWarden.Bytes.Utf8

/-!
# Texts and their bytes

Strict reading is the inverse of writing: the bytes of a text are read back as that text, and bytes
that can be read are those of the text they are read as.
-/

namespace QueryWarden.Bytes

/-! ## Bytes -/

theorem toNat_byte {value : Nat} (hvalue : value < 256) : (byte value).toNat = value := by
  simp [byte, Nat.mod_eq_of_lt hvalue]

theorem byte_eq_of_toNat (other : UInt8) {value : Nat} (hvalue : value = other.toNat) :
    byte value = other := by
  rw [hvalue, byte, UInt8.ofNat_toNat]

/-! ## One character -/

theorem toNat_ofNat_of_isValidChar {code : Nat} (hcode : code.isValidChar) :
    (Char.ofNat code).toNat = code := by
  rw [Char.toNat_ofNat, if_pos hcode]

theorem ofNat_eq_of_toNat (c : Char) {code : Nat} (hcode : code = c.toNat) :
    Char.ofNat code = c := by
  rw [hcode, Char.ofNat_toNat]

theorem isValidChar_toNat (c : Char) :
    c.toNat < 0xd800 ∨ 0xdfff < c.toNat ∧ c.toNat < 0x110000 :=
  c.valid

theorem isContinuation_iff (value : Nat) :
    isContinuation value = true ↔ 0x80 ≤ value ∧ value < 0xc0 := by
  simp [isContinuation]

theorem isSecondByte_iff (first second : Nat) :
    isSecondByte first second = true ↔
      (0x80 ≤ second ∧ second < 0xc0) ∧ (first = 0xe0 → 0xa0 ≤ second) ∧
        (first = 0xed → second < 0xa0) ∧ (first = 0xf0 → 0x90 ≤ second) ∧
        (first = 0xf4 → second < 0x90) := by
  unfold isSecondByte
  split_ifs <;> simp [isContinuation] <;> omega

section NextChar

variable {first second third fourth : UInt8} (rest : List UInt8)

theorem nextChar_one (hfirst : first.toNat < 0x80) :
    nextChar first.toNat rest = .char (Char.ofNat first.toNat) 1 := by
  rw [nextChar.eq_def, if_pos hfirst]

theorem nextChar_two (hfirst : 0xc2 ≤ first.toNat ∧ first.toNat < 0xe0)
    (hsecond : isSecondByte first.toNat second.toNat = true) :
    nextChar first.toNat (second :: rest) =
      .char (Char.ofNat ((first.toNat - 0xc0) * 0x40 + (second.toNat - 0x80))) 2 := by
  have hnot : (first.toNat < 0xc2 || 0xf4 < first.toNat) = false := by simp; omega
  simp [nextChar.eq_def, hnot, hsecond, hfirst.2, show ¬ first.toNat < 0x80 by omega]

theorem nextChar_three (hfirst : 0xe0 ≤ first.toNat ∧ first.toNat < 0xf0)
    (hsecond : isSecondByte first.toNat second.toNat = true)
    (hthird : isContinuation third.toNat = true) :
    nextChar first.toNat (second :: third :: rest) =
      .char (Char.ofNat (((first.toNat - 0xe0) * 0x40 + (second.toNat - 0x80)) * 0x40 +
        (third.toNat - 0x80))) 3 := by
  have hnot : (first.toNat < 0xc2 || 0xf4 < first.toNat) = false := by simp; omega
  simp [nextChar.eq_def, hnot, hsecond, hthird, hfirst.2, show ¬ first.toNat < 0x80 by omega,
    show ¬ first.toNat < 0xe0 by omega]

theorem nextChar_four (hfirst : 0xf0 ≤ first.toNat ∧ first.toNat ≤ 0xf4)
    (hsecond : isSecondByte first.toNat second.toNat = true)
    (hthird : isContinuation third.toNat = true) (hfourth : isContinuation fourth.toNat = true) :
    nextChar first.toNat (second :: third :: fourth :: rest) =
      .char (Char.ofNat ((((first.toNat - 0xf0) * 0x40 + (second.toNat - 0x80)) * 0x40 +
        (third.toNat - 0x80)) * 0x40 + (fourth.toNat - 0x80))) 4 := by
  have hnot : (first.toNat < 0xc2 || 0xf4 < first.toNat) = false := by simp; omega
  simp [nextChar.eq_def, hnot, hsecond, hthird, hfourth, show ¬ first.toNat < 0x80 by omega,
    show ¬ first.toNat < 0xe0 by omega, show ¬ first.toNat < 0xf0 by omega]

end NextChar

/-- The bytes of a character are seen as that character, whatever follows them. -/
theorem nextChar_encodeCode (c : Char) (rest : List UInt8) :
    ∃ first tail, encodeCode c.toNat = first :: tail ∧
      nextChar first.toNat (tail ++ rest) = .char c (tail.length + 1) := by
  have hvalid := isValidChar_toNat c
  unfold encodeCode
  by_cases hone : c.toNat < 0x80
  · rw [if_pos hone]
    have hfirst := toNat_byte (by omega : c.toNat < 256)
    refine ⟨_, _, rfl, ?_⟩
    rw [nextChar_one _ (by omega), hfirst, Char.ofNat_toNat]
    rfl
  · rw [if_neg hone]
    by_cases htwo : c.toNat < 0x800
    · rw [if_pos htwo]
      have hfirst := toNat_byte (by omega : 0xc0 + c.toNat / 0x40 < 256)
      have hsecond := toNat_byte (by omega : 0x80 + c.toNat % 0x40 < 256)
      refine ⟨_, _, rfl, ?_⟩
      rw [List.cons_append, nextChar_two _ (by omega), hfirst, hsecond,
        ofNat_eq_of_toNat c (by omega)]
      · rfl
      · rw [isSecondByte_iff]
        omega
    · rw [if_neg htwo]
      by_cases hthree : c.toNat < 0x10000
      · rw [if_pos hthree]
        have hfirst := toNat_byte (by omega : 0xe0 + c.toNat / 0x1000 < 256)
        have hsecond := toNat_byte (by omega : 0x80 + c.toNat / 0x40 % 0x40 < 256)
        have hthird := toNat_byte (by omega : 0x80 + c.toNat % 0x40 < 256)
        refine ⟨_, _, rfl, ?_⟩
        rw [List.cons_append, List.cons_append, nextChar_three _ (by omega), hfirst, hsecond,
          hthird, ofNat_eq_of_toNat c (by omega)]
        · rfl
        · rw [isSecondByte_iff]
          omega
        · rw [isContinuation_iff]
          omega
      · rw [if_neg hthree]
        have hfirst := toNat_byte (by omega : 0xf0 + c.toNat / 0x40000 < 256)
        have hsecond := toNat_byte (by omega : 0x80 + c.toNat / 0x1000 % 0x40 < 256)
        have hthird := toNat_byte (by omega : 0x80 + c.toNat / 0x40 % 0x40 < 256)
        have hfourth := toNat_byte (by omega : 0x80 + c.toNat % 0x40 < 256)
        refine ⟨_, _, rfl, ?_⟩
        rw [List.cons_append, List.cons_append, List.cons_append, nextChar_four _ (by omega),
          hfirst, hsecond, hthird, hfourth, ofNat_eq_of_toNat c (by omega)]
        · rfl
        · rw [isSecondByte_iff]
          omega
        · rw [isContinuation_iff]
          omega
        · rw [isContinuation_iff]
          omega

/-! ### Bytes of what was seen -/

section EncodeCode

variable {first second third fourth : UInt8}

theorem encodeCode_one (hfirst : first.toNat < 0x80) :
    encodeCode (Char.ofNat first.toNat).toNat = [first] := by
  rw [toNat_ofNat_of_isValidChar (.inl (by omega)), encodeCode, if_pos hfirst,
    byte_eq_of_toNat _ rfl]

theorem encodeCode_two (hfirst : 0xc2 ≤ first.toNat ∧ first.toNat < 0xe0)
    (hsecond : isSecondByte first.toNat second.toNat = true) :
    encodeCode (Char.ofNat ((first.toNat - 0xc0) * 0x40 + (second.toNat - 0x80))).toNat =
      [first, second] := by
  rw [isSecondByte_iff] at hsecond
  rw [toNat_ofNat_of_isValidChar (.inl (by omega)), encodeCode, if_neg (by omega),
    if_pos (by omega), byte_eq_of_toNat first (by omega),
    byte_eq_of_toNat second (by omega)]

theorem encodeCode_three (hfirst : 0xe0 ≤ first.toNat ∧ first.toNat < 0xf0)
    (hsecond : isSecondByte first.toNat second.toNat = true)
    (hthird : isContinuation third.toNat = true) :
    encodeCode (Char.ofNat (((first.toNat - 0xe0) * 0x40 + (second.toNat - 0x80)) * 0x40 +
      (third.toNat - 0x80))).toNat = [first, second, third] := by
  rw [isSecondByte_iff] at hsecond
  rw [isContinuation_iff] at hthird
  have hvalid : Nat.isValidChar (((first.toNat - 0xe0) * 0x40 + (second.toNat - 0x80)) * 0x40 +
      (third.toNat - 0x80)) := by
    unfold Nat.isValidChar
    omega
  rw [toNat_ofNat_of_isValidChar hvalid, encodeCode, if_neg (by omega), if_neg (by omega),
    if_pos (by omega), byte_eq_of_toNat first (by omega),
    byte_eq_of_toNat second (by omega), byte_eq_of_toNat third (by omega)]

theorem encodeCode_four (hfirst : 0xf0 ≤ first.toNat ∧ first.toNat ≤ 0xf4)
    (hsecond : isSecondByte first.toNat second.toNat = true)
    (hthird : isContinuation third.toNat = true) (hfourth : isContinuation fourth.toNat = true) :
    encodeCode (Char.ofNat ((((first.toNat - 0xf0) * 0x40 + (second.toNat - 0x80)) * 0x40 +
      (third.toNat - 0x80)) * 0x40 + (fourth.toNat - 0x80))).toNat =
        [first, second, third, fourth] := by
  rw [isSecondByte_iff] at hsecond
  rw [isContinuation_iff] at hthird hfourth
  have hvalid : Nat.isValidChar ((((first.toNat - 0xf0) * 0x40 + (second.toNat - 0x80)) * 0x40 +
      (third.toNat - 0x80)) * 0x40 + (fourth.toNat - 0x80)) := by
    unfold Nat.isValidChar
    omega
  rw [toNat_ofNat_of_isValidChar hvalid, encodeCode, if_neg (by omega), if_neg (by omega),
    if_neg (by omega), byte_eq_of_toNat first (by omega),
    byte_eq_of_toNat second (by omega), byte_eq_of_toNat third (by omega),
    byte_eq_of_toNat fourth (by omega)]

end EncodeCode

/-- What is seen as a character are its bytes. -/
theorem encodeCode_of_nextChar {first : UInt8} {rest : List UInt8} {c : Char} {length : Nat}
    (hseen : nextChar first.toNat rest = .char c length) :
    ∃ tail back, rest = tail ++ back ∧ encodeCode c.toNat = first :: tail ∧
      length = tail.length + 1 := by
  -- The cases are those of the definition: how many bytes the first one asks for, and whether
  -- they are there.
  simp only [nextChar.eq_def] at hseen
  split at hseen
  next hone =>
    obtain ⟨rfl, rfl⟩ := NextChar.char.inj hseen
    exact ⟨[], rest, rfl, encodeCode_one hone, rfl⟩
  next hone =>
    split at hseen
    next => cases hseen
    next hrange =>
      have hrange : 0xc2 ≤ first.toNat ∧ first.toNat ≤ 0xf4 := by simpa using hrange
      rcases rest with _ | ⟨second, rest⟩
      · cases hseen
      rcases hsecond : isSecondByte first.toNat second.toNat
      · simp [hsecond] at hseen
      simp only [hsecond, Bool.not_true, Bool.false_eq_true, if_false] at hseen
      split at hseen
      next htwo =>
        obtain ⟨rfl, rfl⟩ := NextChar.char.inj hseen
        exact ⟨[second], rest, rfl, encodeCode_two ⟨hrange.1, htwo⟩ hsecond, rfl⟩
      next htwo =>
        rcases rest with _ | ⟨third, rest⟩
        · cases hseen
        rcases hthird : isContinuation third.toNat
        · simp [hthird] at hseen
        simp only [hthird, Bool.not_true, Bool.false_eq_true, if_false] at hseen
        split at hseen
        next hthree =>
          obtain ⟨rfl, rfl⟩ := NextChar.char.inj hseen
          exact ⟨[second, third], rest, rfl,
            encodeCode_three ⟨by omega, hthree⟩ hsecond hthird, rfl⟩
        next hthree =>
          rcases rest with _ | ⟨fourth, rest⟩
          · cases hseen
          rcases hfourth : isContinuation fourth.toNat
          · simp [hfourth] at hseen
          simp only [hfourth, Bool.not_true, Bool.false_eq_true, if_false] at hseen
          obtain ⟨rfl, rfl⟩ := NextChar.char.inj hseen
          exact ⟨[second, third, fourth], rest, rfl,
            encodeCode_four ⟨by omega, hrange.2⟩ hsecond hthird hfourth, rfl⟩

/-! ## Whole texts -/

theorem decodeFrom_skip (index : Nat) (skipped bytes : List UInt8) :
    decodeFrom index skipped.length (skipped ++ bytes) =
      decodeFrom (index + skipped.length) 0 bytes := by
  induction skipped generalizing index with
  | nil => rfl
  | cons first skipped ih =>
      rw [List.length_cons, List.cons_append, decodeFrom, ih]
      congr 1
      omega

theorem encodeText_cons (c : Char) (text : List Char) :
    encodeText (c :: text) = encodeCode c.toNat ++ encodeText text := rfl

theorem decodeFrom_encodeText (index : Nat) (text : List Char) :
    decodeFrom index 0 (encodeText text) = .ok text := by
  induction text generalizing index with
  | nil => simp [encodeText, decodeFrom]
  | cons c text ih =>
      obtain ⟨first, tail, hbytes, hseen⟩ := nextChar_encodeCode c (encodeText text)
      rw [encodeText_cons, hbytes, List.cons_append, decodeFrom, hseen]
      simp only [Nat.add_sub_cancel, decodeFrom_skip, ih]
      rfl

/-- The bytes of a text are read as that text. -/
theorem decodeText_encodeText (text : List Char) : decodeText (encodeText text) = .ok text :=
  decodeFrom_encodeText 0 text

theorem encodeText_injective : Function.Injective encodeText := by
  intro text other hbytes
  have hread := congrArg decodeText hbytes
  rw [decodeText_encodeText, decodeText_encodeText] at hread
  exact Except.ok.inj hread

theorem encodeText_of_decodeFrom {index : Nat} {bytes : List UInt8} {text : List Char}
    (hread : decodeFrom index 0 bytes = .ok text) : bytes = encodeText text := by
  induction text generalizing index bytes with
  | nil =>
      cases bytes with
      | nil => rfl
      | cons first rest =>
          rw [decodeFrom] at hread
          split at hread
          next c length _ =>
            cases hrest : decodeFrom (index + 1) (length - 1) rest <;>
              simp [hrest, Except.map] at hread
          next => cases hread
          next => cases hread
  | cons c text ih =>
      cases bytes with
      | nil => simp [decodeFrom] at hread
      | cons first rest =>
          rw [decodeFrom] at hread
          split at hread
          next d length hseen =>
            obtain ⟨tail, back, rfl, hbytes, rfl⟩ := encodeCode_of_nextChar hseen
            rw [Nat.add_sub_cancel, decodeFrom_skip] at hread
            cases hrest : decodeFrom (index + 1 + tail.length) 0 back with
            | error fault => simp [hrest, Except.map] at hread
            | ok found =>
                simp only [hrest, Except.map, Except.ok.injEq, List.cons.injEq] at hread
                obtain ⟨rfl, rfl⟩ := hread
                rw [encodeText_cons, hbytes, List.cons_append, ← ih hrest]
          next => cases hread
          next => cases hread

theorem length_encodeCode (c : Char) : (encodeCode c.toNat).length = c.utf8Size := by
  simp only [encodeCode, Char.utf8Size, UInt32.le_iff_toNat_le, Char.toNat_val]
  split_ifs <;> simp at * <;> omega

/-- A text has as many bytes as the standard library counts. -/
theorem length_encodeText (text : List Char) :
    (encodeText text).length = (String.ofList text).utf8ByteSize := by
  rw [String.utf8ByteSize_ofList]
  induction text with
  | nil => rfl
  | cons c text ih =>
      rw [encodeText_cons, List.length_append, ih, length_encodeCode, String.utf8Len_cons,
        Nat.add_comm]

/-- Bytes that are read as a text are the bytes of that text. -/
theorem encodeText_of_decodeText {bytes : List UInt8} {text : List Char}
    (hread : decodeText bytes = .ok text) : bytes = encodeText text :=
  encodeText_of_decodeFrom hread

/-! ## Lenient reading -/

theorem decodeLenientFrom_skip (skipped bytes : List UInt8) :
    decodeLenientFrom skipped.length (skipped ++ bytes) = decodeLenientFrom 0 bytes := by
  induction skipped with
  | nil => rfl
  | cons first skipped ih => exact ih

/-- Nothing of a text is replaced when its bytes are read leniently. -/
theorem decodeLenient_encodeText (text : List Char) : decodeLenient (encodeText text) = text := by
  unfold decodeLenient
  induction text with
  | nil => rfl
  | cons c text ih =>
      obtain ⟨first, tail, hbytes, hseen⟩ := nextChar_encodeCode c (encodeText text)
      rw [encodeText_cons, hbytes, List.cons_append, decodeLenientFrom, hseen]
      simp only [Nat.add_sub_cancel, decodeLenientFrom_skip, ih]

end QueryWarden.Bytes
