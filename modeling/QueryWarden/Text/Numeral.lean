/-!
# Numerals

Numbers as digits and back: decimal and hexadecimal, with leading zeros where a width is asked for.
-/

namespace QueryWarden.Text

/-- The digit for a value below 16, in lower case. -/
def digitChar (value : Nat) : Char :=
  if value < 10 then Char.ofNat (48 + value) else Char.ofNat (87 + value)

/-- The digits of `number`, most significant first, put before `digits`. -/
def pushDigits (base : Nat) : Nat → Nat → List Char → List Char
  | 0, _, digits => digits
  | fuel + 1, number, digits =>
      let digits := digitChar (number % base) :: digits
      if number < base then digits else pushDigits base fuel (number / base) digits

/-- The decimal numeral of a natural number. -/
def decimalNumeral (number : Nat) : List Char :=
  pushDigits 10 (number + 1) number []

/-- The decimal numeral of an integer. -/
def integerNumeral (number : Int) : List Char :=
  if number < 0 then '-' :: decimalNumeral number.natAbs else decimalNumeral number.natAbs

/-- The hexadecimal numeral of a natural number, in lower case. -/
def hexNumeral (number : Nat) : List Char :=
  pushDigits 16 (number + 1) number []

/-- The text with `fill` in front of it up to a width. -/
def padStart (width : Nat) (fill : Char) (text : List Char) : List Char :=
  List.replicate (width - text.length) fill ++ text

/-- A decimal numeral with at least `width` digits. -/
def paddedNumeral (width number : Nat) : List Char :=
  padStart width '0' (decimalNumeral number)

/-- A hexadecimal numeral with at least `width` digits. -/
def paddedHex (width number : Nat) : List Char :=
  padStart width '0' (hexNumeral number)

/-- The value of an ASCII decimal digit. -/
def digitValue? (c : Char) : Option Nat :=
  if c.isDigit then some (c.toNat - 48) else none

/-- The value of an ASCII hexadecimal digit of either case. -/
def hexValue? (c : Char) : Option Nat :=
  if c.isDigit then some (c.toNat - 48)
  else if 'a' ≤ c ∧ c ≤ 'f' then some (c.toNat - 87)
  else if 'A' ≤ c ∧ c ≤ 'F' then some (c.toNat - 55)
  else none

/-- The number that a list of decimal digits continues `value` to. -/
def foldDigits? : Nat → List Char → Option Nat
  | value, [] => some value
  | value, c :: text => (digitValue? c).bind fun digit => foldDigits? (value * 10 + digit) text

/-- The number written by one decimal digit or more. -/
def readNat? : List Char → Option Nat
  | [] => none
  | text => foldDigits? 0 text

/-- The whole number written by one decimal digit or more, perhaps after a sign. -/
def readInt? (text : List Char) : Option Int :=
  match text with
  | '-' :: digits => (readNat? digits).map fun number => -(number : Int)
  | '+' :: digits => (readNat? digits).map fun number => (number : Int)
  | digits => (readNat? digits).map fun number => (number : Int)

end QueryWarden.Text
