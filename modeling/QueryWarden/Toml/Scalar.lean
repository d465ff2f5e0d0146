import QueryWarden.Decimal.Literal
import QueryWarden.Text.Trim
import QueryWarden.Time.Calendar
import QueryWarden.Toml.Value

/-!
# Scalars of TOML

Truth values, numbers, dates and times, all of which are tokens without blanks; only a date and its
time may have a blank between them.
-/

namespace QueryWarden.Toml

open QueryWarden.Text QueryWarden.Time

/-! ## Numbers -/

/-- Digits in which single underscores between two of them do not count. -/
def plainDigits? (isDigit : Char → Bool) (text : List Char) : Option (List Char) :=
  let pieces := splitWhere (· == '_') text
  if pieces.all fun piece => !piece.isEmpty && piece.all isDigit then some pieces.flatten else none

/-- Decimal digits without a zero in front. -/
def wholeDigits? (text : List Char) : Option (List Char) := do
  let digits ← plainDigits? Char.isDigit text
  if digits.head? = some '0' && 1 < digits.length then none else some digits

/-- A text without its sign, and whether the sign was a minus. -/
def splitSign : List Char → Bool × List Char
  | '-' :: text => (true, text)
  | '+' :: text => (false, text)
  | text => (false, text)

/-- A number in another base than ten. -/
def inBase? (base : Nat) (text : List Char) : Option Nat := do
  let isDigit (c : Char) : Bool := (hexValue? c).any (· < base)
  let digits ← plainDigits? isDigit text
  some (digits.foldl (fun number c => number * base + (hexValue? c).getD 0) 0)

/-- A whole number of 64 bits. -/
def integer? (text : List Char) : Option Int := do
  let number : Int ←
    match text with
    | '0' :: 'x' :: digits => (inBase? 16 digits).map Int.ofNat
    | '0' :: 'o' :: digits => (inBase? 8 digits).map Int.ofNat
    | '0' :: 'b' :: digits => (inBase? 2 digits).map Int.ofNat
    | _ =>
        let (isNegative, magnitude) := splitSign text
        ((wholeDigits? magnitude).bind readNat?).map fun number : Nat =>
          if isNegative then -(number : Int) else number
  if -Int.pow 2 63 ≤ number ∧ number < Int.pow 2 63 then some number else none

/-- The digits of a floating number without underscores. -/
def floatMagnitude? (text : List Char) : Option (List Char) := do
  let isMark (c : Char) : Bool := c == 'e' || c == 'E'
  let mantissa := text.takeWhile fun c => !isMark c
  let whole ← wholeDigits? (mantissa.takeWhile (· != '.'))
  let fraction ←
    match mantissa.dropWhile (· != '.') with
    | [] => some []
    | _ :: digits => (plainDigits? Char.isDigit digits).map ('.' :: ·)
  let exponent ←
    match text.drop mantissa.length with
    | [] => some []
    | _ :: exponent =>
        let (isNegative, digits) := splitSign exponent
        (plainDigits? Char.isDigit digits).map fun digits =>
          'e' :: (if isNegative then '-' else '+') :: digits
  if fraction.isEmpty && exponent.isEmpty then none else some (whole ++ fraction ++ exponent)

/-- A floating number. One that is too large is refused. -/
def float? (text : List Char) : Option Float := do
  let (isNegative, magnitude) := splitSign text
  let value ←
    if magnitude = "inf".toList || magnitude = "nan".toList then Decimal.readFloat? magnitude
    else (((floatMagnitude? magnitude).bind Decimal.readFloat?).filter Float.isFinite)
  some (if isNegative then -value else value)

/-! ## Dates and times -/

/-- A number of exactly so many digits. -/
def fixedNumber? (width : Nat) (text : List Char) : Option Nat :=
  if text.length = width then readNat? text else none

/-- A date. -/
def date? (text : List Char) : Option Date :=
  match splitWhere (· == '-') text with
  | [year, month, day] => do
      let date : Date :=
        ⟨(← fixedNumber? 4 year : Nat), ← fixedNumber? 2 month, ← fixedNumber? 2 day⟩
      if date.isValid then some date else none
  | _ => none

/-- A fraction of a second in nine digits at most, without zeros at its end. -/
def shortFraction (digits : List Char) : List Char :=
  let kept := dropEndWhile (· == '0') (digits.take 9)
  if kept.isEmpty then [] else '.' :: kept

/-- The text of a time of day. -/
def clockText? (text : List Char) : Option (List Char) := do
  let whole := text.takeWhile (· != '.')
  let fraction ←
    match text.drop whole.length with
    | [] => some []
    | _ :: digits =>
        if !digits.isEmpty && digits.all Char.isDigit then some (shortFraction digits) else none
  match splitWhere (· == ':') whole with
  | [hour, minute, second] =>
      let hour ← fixedNumber? 2 hour
      let minute ← fixedNumber? 2 minute
      let second ← fixedNumber? 2 second
      if hour < 24 ∧ minute < 60 ∧ second ≤ 60 then some (whole ++ fraction) else none
  | _ => none

/-- The text of a distance from universal time. -/
def distanceText? (text : List Char) : Option (List Char) :=
  match text with
  | [] => some []
  | ['Z'] | ['z'] => some ['Z']
  | sign :: distance =>
      match splitWhere (· == ':') distance with
      | [hour, minute] => do
          let hour ← fixedNumber? 2 hour
          let minute ← fixedNumber? 2 minute
          if hour < 24 ∧ minute < 60 then
            some ((if sign = '-' ∧ 0 < hour + minute then '-' else '+') :: distance)
          else none
      | _ => none

/-- The normal form of a date, a time of day, or both, the latter perhaps with a zone. -/
def moment? (text : List Char) : Option (List Char) := do
  let head := text.takeWhile fun c => !(c == 'T' || c == 't' || c == ' ')
  match text.drop head.length with
  | [] =>
      if head.contains ':' then clockText? head else (date? head).map Date.text
  | _ :: rest =>
      let date ← date? head
      let clock := rest.takeWhile fun c => !(c == 'Z' || c == 'z' || c == '+' || c == '-')
      some (date.text ++ 'T' :: (← clockText? clock) ++ (← distanceText? (rest.drop clock.length)))

/-! ## Tokens -/

/-- A character of a token. -/
def isTokenChar (c : Char) : Bool :=
  c.isAlphanum || c == '+' || c == '-' || c == '_' || c == '.' || c == ':'

/-- The token at the front of a text. A date goes on after a blank if a digit follows. -/
def scalarToken (text : List Char) : List Char :=
  let token := text.takeWhile isTokenChar
  match text.drop token.length with
  | ' ' :: c :: rest =>
      if (date? token).isSome && c.isDigit then
        token ++ ' ' :: (c :: rest).takeWhile isTokenChar
      else token
  | _ => token

/-- The scalar that a token spells. -/
def scalar? (token : List Char) : Option Value :=
  if token = "true".toList then some (.bool true)
  else if token = "false".toList then some (.bool false)
  else
    ((integer? token).map Value.integer).or
      (((float? token).map Value.float).or ((moment? token).map Value.moment))

end QueryWarden.Toml
