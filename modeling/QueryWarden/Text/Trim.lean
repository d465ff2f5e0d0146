import QueryWarden.Text.CharClass

/-!
# Trimming, cutting and splitting

Operations on a text as a list of characters that keep every character they do not name.
-/

namespace QueryWarden.Text

/-- The text without its leading blanks. -/
def trimStart (text : List Char) : List Char :=
  text.dropWhile isBlank

/-- The text without the trailing characters that satisfy `drop`. -/
def dropEndWhile (drop : Char → Bool) (text : List Char) : List Char :=
  (text.reverse.dropWhile drop).reverse

/-- The text without its trailing blanks. -/
def trimEnd (text : List Char) : List Char :=
  dropEndWhile isBlank text

/-- The text without blanks at either end. -/
def trim (text : List Char) : List Char :=
  trimEnd (trimStart text)

/-- A text with nothing but blanks in it. -/
def isBlankText (text : List Char) : Bool :=
  text.all isBlank

/-- The pieces between the characters that satisfy `cut`; there is always at least one. -/
def splitWhere (cut : Char → Bool) : List Char → List (List Char)
  | [] => [[]]
  | c :: text =>
      if cut c then [] :: splitWhere cut text
      else
        match splitWhere cut text with
        | [] => [[c]]
        | piece :: pieces => (c :: piece) :: pieces

/-- The pieces joined with `separator` between neighbours. -/
def joinWith (separator : List Char) : List (List Char) → List Char
  | [] => []
  | [piece] => piece
  | piece :: pieces => piece ++ separator ++ joinWith separator pieces

/-- `piece` stands somewhere inside `text`. -/
def hasInfix (piece : List Char) : List Char → Bool
  | [] => piece.isEmpty
  | c :: text => piece.isPrefixOf (c :: text) || hasInfix piece text

/-- The stretch from the first `opening` to the last `closing`, both included, or the whole text
when no `closing` stands after an `opening`. -/
def outermost (opening closing : Char) (text : List Char) : List Char :=
  let fromOpening := text.dropWhile (· != opening)
  let inner := dropEndWhile (· != closing) fromOpening
  if inner.length ≤ 1 then text else inner

end QueryWarden.Text
