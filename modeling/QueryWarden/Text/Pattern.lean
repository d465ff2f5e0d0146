import QueryWarden.Text.CharClass

/-!
# Patterns over text

A pattern looks at the text from one position on, together with the single character before that
position, and says what it found and what is left. Searching tries the positions from left to
right; replacing takes the matches leftmost first and never lets two of them overlap.
-/

namespace QueryWarden.Text

/-- A pattern: the character before the position, then the text from the position on. -/
abbrev Pattern (α : Type) := Option Char → List Char → Option (α × List Char)

namespace Pattern

variable {α : Type}

/-- The pattern matches somewhere in the text that follows `before`. -/
def occursAfter (pattern : Pattern α) : Option Char → List Char → Bool
  | before, [] => (pattern before []).isSome
  | before, c :: text =>
      (pattern before (c :: text)).isSome || occursAfter pattern (some c) text

/-- The pattern matches somewhere in the text. -/
def occursIn (pattern : Pattern α) (text : List Char) : Bool :=
  pattern.occursAfter none text

/-- What the leftmost match in the text that follows `before` found. -/
def firstAfter (pattern : Pattern α) : Option Char → List Char → Option α
  | before, [] => (pattern before []).map Prod.fst
  | before, c :: text =>
      match pattern before (c :: text) with
      | some (found, _) => some found
      | none => firstAfter pattern (some c) text

/-- What the leftmost match in the text found. -/
def first (pattern : Pattern α) (text : List Char) : Option α :=
  pattern.firstAfter none text

/-- Replaces every match; `skip` more characters belong to the match written last. -/
def replaceAfter (pattern : Pattern α) (write : α → List Char) :
    Nat → Option Char → List Char → List Char
  | _, _, [] => []
  | skip + 1, _, c :: text => replaceAfter pattern write skip (some c) text
  | 0, before, c :: text =>
      match pattern before (c :: text) with
      | some (found, rest) =>
          write found ++ replaceAfter pattern write (text.length - rest.length) (some c) text
      | none => c :: replaceAfter pattern write 0 (some c) text

/-- Replaces every match by what `write` makes of it. -/
def replaceAll (pattern : Pattern α) (write : α → List Char) (text : List Char) : List Char :=
  pattern.replaceAfter write 0 none text

/-- Replaces the leftmost match only, in the text that follows `before`. -/
def replaceFirstAfter (pattern : Pattern α) (write : α → List Char) :
    Option Char → List Char → List Char
  | _, [] => []
  | before, c :: text =>
      match pattern before (c :: text) with
      | some (found, rest) => write found ++ rest
      | none => c :: replaceFirstAfter pattern write (some c) text

/-- Replaces the leftmost match only. -/
def replaceFirst (pattern : Pattern α) (write : α → List Char) (text : List Char) : List Char :=
  pattern.replaceFirstAfter write none text

end Pattern

/-! ## Parts of patterns -/

/-- Nothing of a word stands before the position, so a word may start there. -/
def atWordStart (before : Option Char) : Bool :=
  !before.any isWordChar

/-- Nothing of a word stands at the position, so a word may end there. -/
def atWordEnd (text : List Char) : Bool :=
  !text.head?.any isWordChar

/-- Reads `word`, given in lower case, without regard to case. -/
def dropWord : List Char → List Char → Option (List Char)
  | [], text => some text
  | _ :: _, [] => none
  | letter :: word, c :: text => if foldsTo letter c then dropWord word text else none

/-- Reads one character exactly. -/
def dropChar (wanted : Char) : List Char → Option (List Char)
  | [] => none
  | c :: text => if c = wanted then some text else none

/-- Reads `piece` exactly. -/
def dropExact : List Char → List Char → Option (List Char)
  | [], text => some text
  | _ :: _, [] => none
  | wanted :: piece, c :: text => if c = wanted then dropExact piece text else none

/-- Reads any number of blanks. -/
def dropBlanks (text : List Char) : List Char :=
  text.dropWhile isBlank

/-- Reads one blank or more. -/
def dropSomeBlanks : List Char → Option (List Char)
  | [] => none
  | c :: text => if isBlank c then some (dropBlanks text) else none

/-- Reads one decimal digit or more and gives the digits back. -/
def takeDigits (text : List Char) : Option (List Char × List Char) :=
  match text.takeWhile isDecimalDigit with
  | [] => none
  | digits => some (digits, text.dropWhile isDecimalDigit)

/-- `word` as a whole word, in any case. -/
def wholeWord (word : List Char) : Pattern Unit := fun before text =>
  if atWordStart before then
    match dropWord word text with
    | some rest => if atWordEnd rest then some ((), rest) else none
    | none => none
  else none

/-- `piece` exactly as written, wherever it stands. -/
def exactly (piece : List Char) : Pattern Unit := fun _ text =>
  (dropExact piece text).map fun rest => ((), rest)

/-- Reads the first of the words that stands at the position, without regard to case. -/
def dropAnyWord (words : List (List Char)) (text : List Char) : Option (List Char) :=
  words.findSome? fun word => dropWord word text

end QueryWarden.Text
