/-!
# The order of texts

Texts are ordered character by character, which is also the order of their bytes in UTF-8.
-/

namespace QueryWarden.Text

/-- The first text comes strictly before the second. -/
def textLess : List Char → List Char → Bool
  | _, [] => false
  | [], _ :: _ => true
  | a :: left, b :: right =>
      if a = b then textLess left right else decide (a.toNat < b.toNat)

end QueryWarden.Text
