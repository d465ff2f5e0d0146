import QueryWarden.Json.Fault

/-!
# Scanning the leaves of a JSON text

Reading blanks, words, texts and numbers from the front of a text. Each reader gives what it read
and the text it left, or the fault that stopped it.
-/

namespace QueryWarden.Json

open QueryWarden.Text

/-- White space between tokens. -/
def isSpace (c : Char) : Bool :=
  c == ' ' || c == '\n' || c == '\t' || c == '\r'

/-- The text from the next token on. -/
def dropSpace (text : List Char) : List Char :=
  text.dropWhile isSpace

/-- Reads the rest of a word. -/
def scanWord : List Char → List Char → Except Fault (List Char)
  | [], text => .ok text
  | _ :: _, [] => failHere .endInValue []
  | wanted :: word, c :: text =>
      if c = wanted then scanWord word text else failAt .expectedIdent (c :: text)

/-! ## Texts -/

/-- The bytes that a text takes. -/
def byteCount (text : List Char) : Nat :=
  text.foldr (fun c bytes => c.utf8Size + bytes) 0

/-- The four hexadecimal digits of an escape. -/
def scanHex (text : List Char) : Except Fault (Nat × List Char) :=
  let wrong : Fault := ⟨.invalidEscape, text, 4, []⟩
  if byteCount (text.take 4) < 4 then failHere .endInText []
  else
    match text with
    | a :: b :: c :: d :: rest =>
        match hexValue? a, hexValue? b, hexValue? c, hexValue? d with
        | some a, some b, some c, some d => .ok (((a * 16 + b) * 16 + c) * 16 + d, rest)
        | _, _, _, _ => .error wrong
    | _ => .error wrong

/-- Reads a character of the second half of a surrogate pair's mark. -/
def scanPairMark (wanted : Char) : List Char → Except Fault (List Char)
  | [] => failHere .endInText []
  | c :: text =>
      if c = wanted then .ok text else failAt .unexpectedEndOfEscape (c :: text)

/-- The character that a numbered escape stands for; two escapes make one character when the first
is a high surrogate. -/
def scanNumbered (text : List Char) : Except Fault (Char × List Char) := do
  let (unit, rest) ← scanHex text
  if 0xdc00 ≤ unit && unit ≤ 0xdfff then failHere .loneSurrogate rest
  else if unit < 0xd800 || 0xdbff < unit then .ok (Char.ofNat unit, rest)
  else do
    let rest ← scanPairMark '\\' rest
    let rest ← scanPairMark 'u' rest
    let (second, rest) ← scanHex rest
    if 0xdc00 ≤ second && second ≤ 0xdfff then
      .ok (Char.ofNat (0x10000 + (unit - 0xd800) * 0x400 + (second - 0xdc00)), rest)
    else failHere .loneSurrogate rest

/-- The character that a letter after a backslash stands for. -/
def simpleEscape? (c : Char) : Option Char :=
  if c = '"' || c = '\\' || c = '/' then some c
  else if c = 'b' then some '\x08'
  else if c = 'f' then some '\x0c'
  else if c = 'n' then some '\n'
  else if c = 'r' then some '\r'
  else if c = 't' then some '\t'
  else none

/-- What follows a backslash. -/
def scanEscape : List Char → Except Fault (Char × List Char)
  | [] => failHere .endInText []
  | c :: text =>
      match simpleEscape? c with
      | some escaped => .ok (escaped, text)
      | none => if c = 'u' then scanNumbered text else failAt .invalidEscape (c :: text)

/-- The rest of a text up to its closing quote; `before` holds what was read, latest first. -/
def scanTextFrom : Nat → List Char → List Char → Except Fault ((List Char) × List Char)
  | 0, text, _ => failHere .endInText text
  | _ + 1, [], _ => failHere .endInText []
  | fuel + 1, c :: text, before =>
      if c = '"' then .ok (before.reverse, text)
      else if c = '\\' then
        match scanEscape text with
        | .ok (escaped, rest) => scanTextFrom fuel rest (escaped :: before)
        | .error fault => .error fault
      else if c.toNat < 32 then failAt .controlCharacter (c :: text)
      else scanTextFrom fuel text (c :: before)

/-- The rest of a text up to its closing quote. -/
def scanText (text : List Char) : Except Fault ((List Char) × List Char) :=
  scanTextFrom (text.length + 1) text []

/-- Passes over what follows a backslash. Any four hexadecimal digits will do. -/
def skipEscape : List Char → Except Fault (List Char)
  | [] => failHere .endInText []
  | c :: text =>
      if (simpleEscape? c).isSome then .ok text
      else if c = 'u' then (scanHex text).map Prod.snd
      else failAt .invalidEscape (c :: text)

/-- Passes over the rest of a text up to its closing quote. -/
def skipTextFrom : Nat → List Char → Except Fault (List Char)
  | 0, text => failHere .endInText text
  | _ + 1, [] => failHere .endInText []
  | fuel + 1, c :: text =>
      if c = '"' then .ok text
      else if c = '\\' then
        match skipEscape text with
        | .ok rest => skipTextFrom fuel rest
        | .error fault => .error fault
      else if c.toNat < 32 then failHere .controlCharacter (c :: text)
      else skipTextFrom fuel text

/-- Passes over the rest of a text up to its closing quote. -/
def skipText (text : List Char) : Except Fault (List Char) :=
  skipTextFrom (text.length + 1) text

/-! ## Numbers -/

/-- A number as it is read: whole if it is written without fraction and exponent and fits 64 bits,
floating otherwise. -/
inductive Number where
  | whole (value : Int)
  | float (value : Float)

/-- The next character is a decimal digit. -/
def startsWithDigit (text : List Char) : Bool :=
  text.head?.any Char.isDigit

/-- The text after its leading digits. -/
def dropDigits (text : List Char) : List Char :=
  text.dropWhile Char.isDigit

/-- Continues `value` by the leading digits as long as it stays below `limit`. -/
def gatherDigits (limit : Nat) : Nat → List Char → Nat × List Char
  | value, [] => (value, [])
  | value, c :: text =>
      match digitValue? c with
      | some digit =>
          if value * 10 + digit < limit then gatherDigits limit (value * 10 + digit) text
          else (value, c :: text)
      | none => (value, c :: text)

/-- `10 ^ exponent` for exponents up to 308. -/
def powerOfTen (exponent : Nat) : Float :=
  Float.ofScientific 1 false exponent

/-- `value * 10 ^ exponent` with one rounding for each step of at most 308 decimal places; nothing
if it is too large. -/
def scaleFloat : Nat → Float → Int → Option Float
  | 0, value, _ => some value
  | tries + 1, value, exponent =>
      if exponent.natAbs ≤ 308 then
        if 0 ≤ exponent then
          let scaled := value * powerOfTen exponent.natAbs
          if scaled.isInf then none else some scaled
        else some (value / powerOfTen exponent.natAbs)
      else if value == 0.0 then some value
      else if 0 ≤ exponent then none
      else scaleFloat tries (value / powerOfTen 308) (exponent + 308)

/-- A sign, a significand and a decimal exponent as a floating number. The significand reaches
zero within three steps. -/
def floatOfParts (isPositive : Bool) (significand : Nat) (exponent : Int) (rest : List Char) :
    Except Fault (Float × List Char) :=
  match scaleFloat 8 significand.toUInt64.toFloat exponent with
  | some value => .ok (if isPositive then value else -value, rest)
  | none => failHere .outOfRange rest

/-- What follows the mark of an exponent. An exponent too large to count makes zero, or a number
out of range. -/
def scanExponent (isPositive : Bool) (significand : Nat) (start : Int) (text : List Char) :
    Except Fault (Float × List Char) :=
  let isRaised := text.head? != some '-'
  let text := if text.head? == some '-' || text.head? == some '+' then text.drop 1 else text
  match text with
  | [] => failHere .endInValue []
  | c :: _ =>
      if c.isDigit then
        let (exponent, rest) := gatherDigits (Nat.pow 2 31) 0 text
        if startsWithDigit rest then
          if significand != 0 && isRaised then failAt .outOfRange rest
          else .ok (if isPositive then 0.0 else -0.0, dropDigits rest)
        else
          floatOfParts isPositive significand
            (if isRaised then start + exponent else start - exponent) rest
      else failAt .invalidNumber text

/-- The exponent, if one follows. -/
def scanScale (isPositive : Bool) (significand : Nat) (start : Int) (text : List Char) :
    Except Fault (Float × List Char) :=
  match text with
  | c :: rest =>
      if c = 'e' || c = 'E' then scanExponent isPositive significand start rest
      else floatOfParts isPositive significand start text
  | [] => floatOfParts isPositive significand start text

/-- What follows the decimal point. Digits beyond 64 bits do not count. -/
def scanFraction (isPositive : Bool) (significand : Nat) (start : Int) (text : List Char) :
    Except Fault (Float × List Char) :=
  let (gathered, rest) := gatherDigits (Nat.pow 2 64) significand text
  let places := text.length - rest.length
  if startsWithDigit rest then scanScale isPositive gathered (start - places) (dropDigits rest)
  else if places = 0 then
    match rest with
    | [] => failHere .endInValue []
    | _ => failAt .invalidNumber rest
  else scanScale isPositive gathered (start - places) rest

/-- The number whose whole part has been read. -/
def finishNumber (isPositive : Bool) (significand : Nat) (text : List Char) :
    Except Fault (Number × List Char) :=
  let whole : Number :=
    if isPositive then .whole significand
    else if significand = 0 || Nat.pow 2 63 < significand then .float (-significand.toUInt64.toFloat)
    else .whole (-significand)
  match text with
  | c :: rest =>
      if c = '.' then do
        let (value, rest) ← scanFraction isPositive significand 0 rest
        .ok (.float value, rest)
      else if c = 'e' || c = 'E' then do
        let (value, rest) ← scanExponent isPositive significand 0 rest
        .ok (.float value, rest)
      else .ok (whole, text)
  | [] => .ok (whole, text)

/-- A whole part beyond 64 bits: the digits left over only count. -/
def finishLongNumber (isPositive : Bool) (significand : Nat) (text : List Char) :
    Except Fault (Number × List Char) := do
  let rest := dropDigits text
  let extra : Int := (text.length - rest.length : Nat)
  let (value, rest) ←
    match rest with
    | c :: after =>
        if c = '.' then scanFraction isPositive significand extra after
        else scanScale isPositive significand extra rest
    | [] => scanScale isPositive significand extra rest
  .ok (.float value, rest)

/-- A number without its sign. -/
def scanNumber (isPositive : Bool) (text : List Char) : Except Fault (Number × List Char) :=
  match text with
  | [] => failHere .endInValue []
  | c :: rest =>
      if c = '0' then
        if startsWithDigit rest then failAt .invalidNumber rest
        else finishNumber isPositive 0 rest
      else if c.isDigit then
        let (significand, rest) := gatherDigits (Nat.pow 2 64) 0 text
        if startsWithDigit rest then finishLongNumber isPositive significand rest
        else finishNumber isPositive significand rest
      else failAt .invalidNumber text

/-- Passes over what follows the mark of an exponent. -/
def skipExponent (text : List Char) : Except Fault (List Char) :=
  let text := if text.head? == some '-' || text.head? == some '+' then text.drop 1 else text
  if startsWithDigit text then .ok (dropDigits text) else failAt .invalidNumber text

/-- Passes over a number without its sign. -/
def skipNumber (text : List Char) : Except Fault (List Char) :=
  let skipScale (text : List Char) : Except Fault (List Char) :=
    match text with
    | c :: rest => if c = 'e' || c = 'E' then skipExponent rest else .ok text
    | [] => .ok text
  let skipFraction (text : List Char) : Except Fault (List Char) :=
    match text with
    | c :: rest =>
        if c = '.' then
          if startsWithDigit rest then skipScale (dropDigits rest) else failAt .invalidNumber rest
        else skipScale text
    | [] => .ok text
  match text with
  | [] => failAt .invalidNumber text
  | c :: rest =>
      if c = '0' then
        if startsWithDigit rest then failAt .invalidNumber rest else skipFraction rest
      else if c.isDigit then skipFraction (dropDigits rest)
      else failAt .invalidNumber text

end QueryWarden.Json
