import QueryWarden.Text.CharClass
import QueryWarden.Text.LowercaseTable
import QueryWarden.Text.Uppercase

/-!
# Lower case

The full lower-case mapping of a text, without regard to language. Each character has its lower case
by itself, but for the capital sigma, whose lower case at the end of a word is a letter of its own.
-/

namespace QueryWarden.Text

/-- The lower case of one character by itself, which may be several characters. -/
def lowercaseChar (c : Char) : List Char :=
  if c.toNat < 128 then [c.toLower]
  else if c = '\u0130' then ['i', '\u0307']
  else
    match lowercaseStrides.findSome? (·.moved? c.toNat) with
    | some code => [Char.ofNat code]
    | none => [c]

/-- The first character is a letter with a case, those that are ignored for it aside. -/
def meetsCased (text : List Char) : Bool :=
  ((text.dropWhile fun c => inRanges caseIgnorableRanges c.toNat).head?.map fun c =>
    inRanges casedRanges c.toNat).getD false

/-- The lower case of a capital sigma between two texts, the one before it read backwards: a letter
of its own where a word ends. -/
def lowercaseSigma (before after : List Char) : Char :=
  if meetsCased before && !meetsCased after then '\u03c2' else '\u03c3'

/-- The lower case of a text behind another one that is read backwards. -/
def lowercaseAfter (before : List Char) : List Char → List Char
  | [] => []
  | c :: text =>
      (if c = '\u03a3' then [lowercaseSigma before text] else lowercaseChar c) ++
        lowercaseAfter (c :: before) text

/-- The lower case of a text. -/
def lowercase (text : List Char) : List Char :=
  lowercaseAfter [] text

end QueryWarden.Text
