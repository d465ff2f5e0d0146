import QueryWarden.Text.DigitTable
import QueryWarden.Text.WordTable

/-!
# Character classes

The three classes that patterns over query text are written in: blanks (the characters with the
White_Space property), word characters and decimal digits. Below 128 each class is decided by a
formula; above, by a table of ranges.
-/

namespace QueryWarden.Text

/-- Membership of a code point in a list of inclusive ranges. -/
def inRanges (ranges : List (Nat × Nat)) (code : Nat) : Bool :=
  ranges.any fun range => decide (range.1 ≤ code) && decide (code ≤ range.2)

/-- A blank is a character with the White_Space property. The zero-width characters and the
information separators 28 to 31 are not blanks. -/
def isBlank (c : Char) : Bool :=
  let code := c.toNat
  (decide (9 ≤ code) && decide (code ≤ 13)) || code == 32 || code == 133 || code == 160 ||
    code == 5760 || (decide (8192 ≤ code) && decide (code ≤ 8202)) || code == 8232 ||
    code == 8233 || code == 8239 || code == 8287 || code == 12288

/-- A word character: a letter, digit, combining mark, connector or join control. -/
def isWordChar (c : Char) : Bool :=
  if c.toNat < 128 then c.isAlphanum || c == '_' else inRanges wordRanges c.toNat

/-- A decimal digit of any script. -/
def isDecimalDigit (c : Char) : Bool :=
  if c.toNat < 128 then c.isDigit else inRanges digitRanges c.toNat

/-- The text with its ASCII letters in lower case; every other character stays as it is. -/
def asciiLower (text : List Char) : List Char :=
  text.map Char.toLower

/-- `c` reads as `letter` when case is ignored. The long s folds to `s` and the kelvin sign to
`k`; no other character outside ASCII folds to an ASCII letter. -/
def foldsTo (letter c : Char) : Bool :=
  c.toLower == letter || (letter == 's' && c == '\u017f') || (letter == 'k' && c == '\u212a')

end QueryWarden.Text
