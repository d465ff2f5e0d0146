import QueryWarden.Text.UppercaseTable

/-!
# Upper case

The full upper-case mapping of a text, character by character and without regard to language.
-/

namespace QueryWarden.Text

/-- The code point that `code` moves to within a stride, if it lies on it. -/
def CaseStride.moved? (stride : CaseStride) (code : Nat) : Option Nat :=
  if stride.first ≤ code ∧ code ≤ stride.last ∧ (code - stride.first) % stride.step = 0 then
    some ((code : Int) + stride.distance).toNat
  else none

/-- The upper case of one character, which may be several characters. -/
def uppercaseChar (c : Char) : List Char :=
  if c.toNat < 128 then [c.toUpper]
  else
    match uppercaseExpansions.lookup c.toNat with
    | some codes => codes.map Char.ofNat
    | none =>
        match uppercaseStrides.findSome? (·.moved? c.toNat) with
        | some code => [Char.ofNat code]
        | none => [c]

/-- The upper case of a text. -/
def uppercase (text : List Char) : List Char :=
  text.flatMap uppercaseChar

end QueryWarden.Text
