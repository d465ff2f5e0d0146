import QueryWarden.Decimal.Shortest

/-!
# Positional floating numerals

The shortest digits of a floating number written out in full: no exponent, and no point in a whole
number.
-/

namespace QueryWarden.Decimal

/-- Shortest digits in positional notation, for any exponent. -/
def Scientific.positional (number : Scientific) : List Char :=
  let (digits, leading) := number.normalized
  if leading < 0 then '0' :: '.' :: List.replicate (leading.natAbs - 1) '0' ++ digits
  else
    let whole := leading.toNat + 1
    let fraction := digits.drop whole
    digits.take whole ++ List.replicate (whole - digits.length) '0' ++
      (if fraction.isEmpty then [] else '.' :: fraction)

/-- The positional text of an eight-byte number. -/
def positionalNumeral (value : Float) : List Char :=
  match double.decode? value.toBits.toNat with
  | some number =>
      if number.isNegative then '-' :: number.shortest.positional else number.shortest.positional
  | none =>
      if value.isNaN then "NaN".toList
      else if value < 0.0 then "-inf".toList
      else "inf".toList

/-- The positional text with at least one digit after the point, unless the number is not finite. -/
def pointedNumeral (value : Float) : List Char :=
  let text := positionalNumeral value
  if value.isFinite && !text.contains '.' then text ++ ['.', '0'] else text

end QueryWarden.Decimal
