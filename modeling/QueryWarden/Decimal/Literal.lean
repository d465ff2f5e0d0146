import QueryWarden.Text.Numeral

/-!
# Floating literals

Reading the text of a floating number: digits with at most one point, an exponent, or a word for
what is not finite. The nearest floating number is taken.
-/

namespace QueryWarden.Decimal

open QueryWarden.Text

/-- How many decimal places a finite floating number can be away from the point, and more. -/
def farthestPlace : Int := 800

/-- The floating number nearest to `coefficient * 10 ^ exponent`. -/
def nearestFloat (coefficient : Nat) (exponent : Int) : Float :=
  let leading := exponent + (decimalNumeral coefficient).length
  if coefficient = 0 || leading < -farthestPlace then 0.0
  else if farthestPlace < leading then 1.0 / 0.0
  else Float.ofScientific coefficient (decide (exponent < 0)) exponent.natAbs

/-- The floating number of a text without its sign. -/
def readMagnitude? (text : List Char) : Option Float := do
  let word := String.ofList (text.map Char.toLower)
  if word = "inf" || word = "infinity" then some (1.0 / 0.0)
  else if word = "nan" then some (0.0 / 0.0)
  else
    let isMark (c : Char) : Bool := c == 'e' || c == 'E'
    let mantissa := text.takeWhile fun c => !isMark c
    let exponent ←
      match text.drop mantissa.length with
      | [] => some 0
      | _ :: exponent => readInt? exponent
    let whole := mantissa.takeWhile (· != '.')
    let fraction := mantissa.drop (whole.length + 1)
    let coefficient ← readNat? (whole ++ fraction)
    some (nearestFloat coefficient (exponent - fraction.length))

/-- The floating number of a text. -/
def readFloat? (text : List Char) : Option Float :=
  match text with
  | '-' :: magnitude => (readMagnitude? magnitude).map Float.neg
  | '+' :: magnitude => readMagnitude? magnitude
  | magnitude => readMagnitude? magnitude

end QueryWarden.Decimal
