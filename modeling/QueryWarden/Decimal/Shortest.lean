import QueryWarden.Text.Numeral

/-!
# The fewest digits that read back

A binary floating-point number is written with as few decimal digits as still single it out among
its neighbours. The digits are found by exact arithmetic: a number is a whole multiple of a power
of two, the decimals that round to it fill an interval, and on each decimal grid only the two
neighbours of the number need a test.
-/

namespace QueryWarden.Decimal

open QueryWarden.Text

/-- How many bits of a binary number hold its fraction and its exponent. -/
structure BinaryFormat where
  fractionBits : Nat
  exponentBits : Nat

/-- Eight-byte numbers. -/
def double : BinaryFormat := ⟨52, 11⟩

/-- Four-byte numbers. -/
def single : BinaryFormat := ⟨23, 8⟩

/-- A finite number: a sign and `significand * 2 ^ exponent`. The lower neighbour is nearer when
the significand is the smallest of a larger exponent. -/
structure Binary where
  isNegative : Bool
  significand : Nat
  exponent : Int
  hasNearLower : Bool
  deriving DecidableEq, Repr

/-- The number that the bits of a format stand for, unless it is infinite or none at all. -/
def BinaryFormat.decode? (format : BinaryFormat) (bits : Nat) : Option Binary :=
  let fraction := bits % Nat.pow 2 format.fractionBits
  let biased := bits / Nat.pow 2 format.fractionBits % Nat.pow 2 format.exponentBits
  let isNegative := bits / Nat.pow 2 (format.fractionBits + format.exponentBits) % 2 == 1
  let least : Int := 2 - Int.pow 2 (format.exponentBits - 1) - format.fractionBits
  if biased = Nat.pow 2 format.exponentBits - 1 then none
  else if biased = 0 then some ⟨isNegative, fraction, least, false⟩
  else
    some ⟨isNegative, Nat.pow 2 format.fractionBits + fraction, least + (biased - 1),
      fraction == 0 && biased > 1⟩

/-- A positive rational number as a numerator and a denominator. -/
structure Ratio where
  num : Nat
  den : Nat

/-- `number * 2 ^ exponent`. -/
def Ratio.scaled (number : Nat) (exponent : Int) : Ratio :=
  if exponent < 0 then ⟨number, Nat.pow 2 exponent.natAbs⟩
  else ⟨number * Nat.pow 2 exponent.natAbs, 1⟩

/-- `number * 10 ^ exponent`. -/
def Ratio.decimal (number : Nat) (exponent : Int) : Ratio :=
  if exponent < 0 then ⟨number, Nat.pow 10 exponent.natAbs⟩
  else ⟨number * Nat.pow 10 exponent.natAbs, 1⟩

/-- Less than. -/
def Ratio.lt (left right : Ratio) : Bool :=
  left.num * right.den < right.num * left.den

/-- The exact magnitude of a number. -/
def Binary.ratio (number : Binary) : Ratio :=
  Ratio.scaled number.significand number.exponent

/-- The decimal `candidate` rounds to the number: it is no further away than half the gap to the
neighbour on its side, and at exactly half the gap the significand is even. -/
def Binary.claims (number : Binary) (candidate : Ratio) : Bool :=
  let lower :=
    if number.hasNearLower then
      Ratio.scaled (4 * number.significand - 1) (number.exponent - 2)
    else Ratio.scaled (2 * number.significand - 1) (number.exponent - 1)
  let upper := Ratio.scaled (2 * number.significand + 1) (number.exponent - 1)
  if number.significand % 2 = 0 then !candidate.lt lower && !upper.lt candidate
  else lower.lt candidate && candidate.lt upper

/-- A decimal number `digits * 10 ^ exponent`. -/
structure Scientific where
  digits : Nat
  exponent : Int
  deriving DecidableEq, Repr

/-- The number of decimal digits of a natural number. -/
def digitCount (number : Nat) : Nat :=
  (decimalNumeral number).length

/-- The exponent of the leading decimal digit of a positive number. The scale is large enough for
the smallest numbers of both formats. -/
def leadingExponent (ratio : Ratio) : Int :=
  (digitCount (ratio.num * Nat.pow 10 350 / ratio.den) : Int) - 351

/-- Of the two neighbours on the grid with step `10 ^ exponent`, the one that rounds to the number;
the nearer one if both do, and the even one if both are equally near. -/
def Binary.onGrid? (number : Binary) (exponent : Int) : Option Scientific :=
  let ratio := number.ratio
  let step := Ratio.decimal 1 exponent
  let num := ratio.num * step.den
  let den := ratio.den * step.num
  let below := num / den
  let above := below + 1
  let takesBelow := number.claims (Ratio.decimal below exponent)
  let takesAbove := number.claims (Ratio.decimal above exponent)
  if takesBelow && takesAbove then
    let rest := num % den
    if 2 * rest < den || (2 * rest == den && below % 2 == 0) then some ⟨below, exponent⟩
    else some ⟨above, exponent⟩
  else if takesBelow then some ⟨below, exponent⟩
  else if takesAbove then some ⟨above, exponent⟩
  else none

/-- Tries grids of more and more digits. -/
def Binary.search (number : Binary) (leading : Int) : Nat → Nat → Scientific
  | 0, _ => ⟨0, 0⟩
  | tries + 1, digits =>
      match number.onGrid? (leading + 1 - digits) with
      | some found => found
      | none => number.search leading tries (digits + 1)

/-- The decimal with the fewest digits that rounds to a number, and of those the nearest. -/
def Binary.shortest (number : Binary) : Scientific :=
  if number.significand = 0 then ⟨0, 0⟩
  else number.search (leadingExponent number.ratio) 20 1

/-- The digits of a decimal without trailing zeros, and the exponent of the first. -/
def Scientific.normalized (number : Scientific) : List Char × Int :=
  let digits := decimalNumeral number.digits
  let kept := (digits.reverse.dropWhile (· == '0')).reverse
  if kept.isEmpty then (['0'], 0) else (kept, number.exponent + (digits.length - 1 : Nat))

/-- A decimal in positional notation with at least one digit after the point, for leading
exponents from -5 to 15; in scientific notation with a signed exponent of two digits or more
otherwise. -/
def Scientific.notate (number : Scientific) : List Char :=
  let (digits, leading) := number.normalized
  if 0 ≤ leading ∧ leading < 16 then
    let whole := leading.toNat + 1
    let fraction := digits.drop whole
    digits.take whole ++ List.replicate (whole - digits.length) '0' ++
      '.' :: (if fraction.isEmpty then ['0'] else fraction)
  else if -5 ≤ leading ∧ leading < 0 then
    '0' :: '.' :: List.replicate (leading.natAbs - 1) '0' ++ digits
  else
    let mantissa :=
      match digits with
      | first :: second :: more => first :: '.' :: second :: more
      | _ => digits
    mantissa ++ 'e' :: (if leading < 0 then '-' else '+') :: paddedNumeral 2 leading.natAbs

/-- The shortest text of a finite number. -/
def Binary.numeral (number : Binary) : List Char :=
  let magnitude := number.shortest.notate
  if number.isNegative then '-' :: magnitude else magnitude

/-- The shortest text of an eight-byte number that reads back; nothing if it is not finite. -/
def floatNumeral? (value : Float) : Option (List Char) :=
  (double.decode? value.toBits.toNat).map Binary.numeral

/-- The shortest text of an eight-byte number, or `null` if it is not finite. -/
def floatNumeral (value : Float) : List Char :=
  (floatNumeral? value).getD "null".toList

/-- The shortest text of a four-byte number, or `null` if it is not finite. -/
def float32Numeral (value : Float32) : List Char :=
  ((single.decode? value.toBits.toNat).map Binary.numeral).getD "null".toList

end QueryWarden.Decimal
