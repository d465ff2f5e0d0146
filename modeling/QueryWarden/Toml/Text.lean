import QueryWarden.Text.Numeral
import QueryWarden.Toml.Value

/-!
# Blanks, comments, texts and keys of TOML

Readers for the parts of a document that hold no numbers. Each gives what it read and the rest of
the document, or nothing if the document is broken there.
-/

namespace QueryWarden.Toml

open QueryWarden.Text

/-! ## Between tokens -/

/-- A blank on a line. -/
def isBlank (c : Char) : Bool := c == ' ' || c == '\t'

/-- The text from the next token on the line. -/
def dropBlanks (text : List Char) : List Char := text.dropWhile isBlank

/-- A control character, which may stand nowhere as it is. -/
def isControl (c : Char) : Bool :=
  (decide (c.toNat < 32) && c != '\t') || c.toNat == 127

/-- The text after a line break, if one stands first. -/
def dropNewline? : List Char → Option (List Char)
  | '\n' :: text => some text
  | '\r' :: '\n' :: text => some text
  | _ => none

/-- The text after a comment, if one stands first. -/
def dropComment? : List Char → Option (List Char)
  | '#' :: text =>
      let rest := text.dropWhile fun c => !isControl c
      if rest.isEmpty || (dropNewline? rest).isSome then some rest else none
  | text => some text

/-- The text after the rest of a line, on which nothing else may stand. -/
def dropLine? (text : List Char) : Option (List Char) := do
  let rest ← dropComment? (dropBlanks text)
  if rest.isEmpty then some [] else dropNewline? rest

/-- The text after blanks, comments and line breaks; `fuel` bounds the number of lines. -/
def dropFiller? : Nat → List Char → Option (List Char)
  | 0, text => some text
  | fuel + 1, text => do
      let rest ← dropComment? (dropBlanks text)
      match dropNewline? rest with
      | some rest => dropFiller? fuel rest
      | none => some rest

/-! ## Texts -/

/-- The character with a number of hexadecimal digits. -/
def scanCode? (digits : List Char) : Option Char := do
  let code ← digits.foldl (fun code? c => do
    let code ← code?
    some (code * 16 + (← hexValue? c))) (some 0)
  if code < 0xd800 || (0xdfff < code && code < 0x110000) then some (Char.ofNat code) else none

/-- What follows a backslash. -/
def scanEscape? : List Char → Option (Char × List Char)
  | 'b' :: text => some ('\x08', text)
  | 't' :: text => some ('\t', text)
  | 'n' :: text => some ('\n', text)
  | 'f' :: text => some ('\x0c', text)
  | 'r' :: text => some ('\r', text)
  | '"' :: text => some ('"', text)
  | '\\' :: text => some ('\\', text)
  | 'u' :: text =>
      if text.length < 4 then none
      else (scanCode? (text.take 4)).map fun c => (c, text.drop 4)
  | 'U' :: text =>
      if text.length < 8 then none
      else (scanCode? (text.take 8)).map fun c => (c, text.drop 8)
  | _ => none

/-- The rest of a text on one line up to its quote; `before` holds what was read, latest first. -/
def scanShort? (quote : Char) (hasEscapes : Bool) :
    Nat → List Char → List Char → Option (List Char × List Char)
  | 0, _, _ | _ + 1, [], _ => none
  | fuel + 1, c :: text, before =>
      if c = quote then some (before.reverse, text)
      else if hasEscapes && c == '\\' then
        (scanEscape? text).bind fun (escaped, rest) =>
          scanShort? quote hasEscapes fuel rest (escaped :: before)
      else if isControl c then none
      else scanShort? quote hasEscapes fuel text (c :: before)

/-- The text after blanks and line breaks, if a line break is among them. -/
def dropFold? (text : List Char) : Option (List Char) :=
  (dropNewline? (dropBlanks text)).map fun rest =>
    rest.dropWhile fun c => isBlank c || c == '\n' || c == '\r'

/-- The rest of a text over several lines up to its three quotes. One or two quotes more belong to
the text. -/
def scanLong? (quote : Char) (hasEscapes : Bool) :
    Nat → List Char → List Char → Option (List Char × List Char)
  | 0, _, _ | _ + 1, [], _ => none
  | fuel + 1, c :: text, before =>
      if c = quote then
        let run := ((c :: text).takeWhile (· == quote)).take 5
        let rest := (c :: text).drop run.length
        if 3 ≤ run.length then some (before.reverse ++ run.drop 3, rest)
        else scanLong? quote hasEscapes fuel rest (run ++ before)
      else if hasEscapes && c == '\\' then
        match dropFold? text with
        | some rest => scanLong? quote hasEscapes fuel rest before
        | none =>
            (scanEscape? text).bind fun (escaped, rest) =>
              scanLong? quote hasEscapes fuel rest (escaped :: before)
      else
        match dropNewline? (c :: text) with
        | some rest => scanLong? quote hasEscapes fuel rest ('\n' :: before)
        | none =>
            if isControl c then none else scanLong? quote hasEscapes fuel text (c :: before)

/-- A text on one line. -/
def scanShortText? : List Char → Option (List Char × List Char)
  | '"' :: text => scanShort? '"' true (text.length + 1) text []
  | '\'' :: text => scanShort? '\'' false (text.length + 1) text []
  | _ => none

/-- A text on one line or on several. A line break right after three quotes does not count. -/
def scanText? (text : List Char) : Option (List Char × List Char) :=
  let long (quote : Char) (hasEscapes : Bool) (text : List Char) :
      Option (List Char × List Char) :=
    scanLong? quote hasEscapes (text.length + 1) ((dropNewline? text).getD text) []
  match text with
  | '"' :: '"' :: '"' :: rest => long '"' true rest
  | '\'' :: '\'' :: '\'' :: rest => long '\'' false rest
  | _ => scanShortText? text

/-! ## Keys -/

/-- A character of a key without quotes. -/
def isKeyChar (c : Char) : Bool := c.isAlphanum || c == '_' || c == '-'

/-- A key without points. -/
def scanKey? (text : List Char) : Option (Key × List Char) :=
  let bare := text.takeWhile isKeyChar
  if bare.isEmpty then scanShortText? text else some (bare, text.drop bare.length)

/-- Keys with points between them; `fuel` bounds their number. -/
def scanPath? : Nat → List Char → Option (List Key × List Char)
  | 0, _ => none
  | fuel + 1, text => do
      let (key, rest) ← scanKey? (dropBlanks text)
      match dropBlanks rest with
      | '.' :: rest => (scanPath? fuel rest).map fun (keys, rest) => (key :: keys, rest)
      | rest => some ([key], rest)

end QueryWarden.Toml
