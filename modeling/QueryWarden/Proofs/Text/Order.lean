import QueryWarden.Proofs.Bytes.Utf8
import QueryWarden.Text.Order

/-!
# The order of texts is that of their bytes

Comparing texts character by character comes to the same as comparing their bytes in UTF-8, first
byte first. The reason lies in single characters: the bytes of a smaller code point come before
those of a larger one, whatever follows either.
-/

namespace QueryWarden.Bytes

theorem byte_lt_byte {value other : Nat} (hless : value < other) (hother : other < 256) :
    byte value < byte other := by
  rw [UInt8.lt_iff_toNat_lt, toNat_byte (hless.trans hother), toNat_byte hother]
  exact hless

/-- Bytes in front decide when they differ and are passed over when they do not. -/
theorem byte_cons_lt {value other : Nat} {rest more : List UInt8} (hother : other < 256)
    (hcase : value < other ∨ value = other ∧ rest < more) :
    byte value :: rest < byte other :: more := by
  rw [List.cons_lt_cons_iff]
  rcases hcase with hless | ⟨rfl, hrest⟩
  · exact .inl (byte_lt_byte hless hother)
  · exact .inr ⟨rfl, hrest⟩

/-- The bytes of a smaller code point come first. -/
theorem encodeCode_append_lt {code other : Nat} (hless : code < other) (hother : other < 0x110000)
    (rest more : List UInt8) : encodeCode code ++ rest < encodeCode other ++ more := by
  unfold encodeCode
  -- With different numbers of bytes the first ones differ; with equal numbers the first byte that
  -- differs holds the first digit in base 64 that does.
  split_ifs <;> simp only [List.cons_append, List.nil_append]
  · exact byte_cons_lt (by omega) (.inl (by omega))
  · exact byte_cons_lt (by omega) (.inl (by omega))
  · exact byte_cons_lt (by omega) (.inl (by omega))
  · exact byte_cons_lt (by omega) (.inl (by omega))
  · omega
  · refine byte_cons_lt (by omega) ?_
    rcases Nat.lt_or_ge (code / 0x40) (other / 0x40) with hhigh | hhigh
    · exact .inl (by omega)
    · exact .inr ⟨by omega, byte_cons_lt (by omega) (.inl (by omega))⟩
  · exact byte_cons_lt (by omega) (.inl (by omega))
  · exact byte_cons_lt (by omega) (.inl (by omega))
  · omega
  · omega
  · refine byte_cons_lt (by omega) ?_
    rcases Nat.lt_or_ge (code / 0x1000) (other / 0x1000) with hhigh | hhigh
    · exact .inl (by omega)
    · refine .inr ⟨by omega, byte_cons_lt (by omega) ?_⟩
      rcases Nat.lt_or_ge (code / 0x40) (other / 0x40) with hmiddle | hmiddle
      · exact .inl (by omega)
      · exact .inr ⟨by omega, byte_cons_lt (by omega) (.inl (by omega))⟩
  · exact byte_cons_lt (by omega) (.inl (by omega))
  · omega
  · omega
  · omega
  · refine byte_cons_lt (by omega) ?_
    rcases Nat.lt_or_ge (code / 0x40000) (other / 0x40000) with hhigh | hhigh
    · exact .inl (by omega)
    · refine .inr ⟨by omega, byte_cons_lt (by omega) ?_⟩
      rcases Nat.lt_or_ge (code / 0x1000) (other / 0x1000) with hmiddle | hmiddle
      · exact .inl (by omega)
      · refine .inr ⟨by omega, byte_cons_lt (by omega) ?_⟩
        rcases Nat.lt_or_ge (code / 0x40) (other / 0x40) with hlow | hlow
        · exact .inl (by omega)
        · exact .inr ⟨by omega, byte_cons_lt (by omega) (.inl (by omega))⟩

theorem toNat_lt (c : Char) : c.toNat < 0x110000 := by
  have hvalid := isValidChar_toNat c
  omega

end QueryWarden.Bytes

namespace QueryWarden.Text

open QueryWarden.Bytes

theorem encodeText_lt_of_textLess {left right : List Char} (hless : textLess left right = true) :
    encodeText left < encodeText right := by
  induction left generalizing right with
  | nil =>
      cases right with
      | nil => cases hless
      | cons d right =>
          obtain ⟨first, tail, hbytes, -⟩ := nextChar_encodeCode d []
          rw [encodeText_cons, hbytes]
          exact List.nil_lt_cons ..
  | cons c left ih =>
      cases right with
      | nil => cases hless
      | cons d right =>
          rw [encodeText_cons, encodeText_cons]
          rw [textLess] at hless
          split at hless
          next heq =>
            subst heq
            exact List.append_left_lt (ih hless)
          next => exact encodeCode_append_lt (of_decide_eq_true hless) (toNat_lt d) _ _

theorem textLess_trichotomy (left right : List Char) :
    textLess left right = true ∨ left = right ∨ textLess right left = true := by
  induction left generalizing right with
  | nil => cases right <;> simp [textLess]
  | cons c left ih =>
      cases right with
      | nil => simp [textLess]
      | cons d right =>
          by_cases heq : c = d
          · subst heq
            simpa [textLess] using ih right
          · have hcode : c.toNat ≠ d.toNat := fun h => heq (Char.toNat_inj.mp h)
            simp only [textLess, heq, Ne.symm heq, if_false, decide_eq_true_eq]
            omega

/-- Texts are ordered as their bytes are. -/
theorem textLess_iff {left right : List Char} :
    textLess left right = true ↔ encodeText left < encodeText right := by
  refine ⟨encodeText_lt_of_textLess, fun hbytes => ?_⟩
  rcases textLess_trichotomy left right with hless | rfl | hgreater
  · exact hless
  · exact absurd hbytes (List.lt_irrefl _)
  · exact absurd hbytes (List.lt_asymm (encodeText_lt_of_textLess hgreater))

theorem textLess_trans {first second third : List Char} (hfirst : textLess first second = true)
    (hsecond : textLess second third = true) : textLess first third = true :=
  textLess_iff.mpr (List.lt_trans (textLess_iff.mp hfirst) (textLess_iff.mp hsecond))

theorem textLess_cons (c : Char) (left right : List Char) :
    textLess (c :: left) (c :: right) = textLess left right :=
  if_pos rfl

theorem textLess_irrefl (text : List Char) : textLess text text = false := by
  induction text with
  | nil => rfl
  | cons c text ih => rwa [textLess_cons]

/-- Beginnings of one length decide unless they are the same. -/
theorem textLess_append_iff {left right : List Char} (hlength : left.length = right.length)
    (rest more : List Char) :
    textLess (left ++ rest) (right ++ more) = true ↔
      textLess left right = true ∨ left = right ∧ textLess rest more = true := by
  induction left generalizing right with
  | nil =>
      obtain rfl := List.eq_nil_of_length_eq_zero hlength.symm
      simp [textLess]
  | cons c left ih =>
      cases right with
      | nil => cases hlength
      | cons d right =>
          by_cases heq : c = d
          · subst heq
            rw [List.cons_append, List.cons_append, textLess_cons, textLess_cons,
              ih (Nat.succ.inj hlength), List.cons_inj_right]
          · simp [textLess, heq]

end QueryWarden.Text
