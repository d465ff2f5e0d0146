import QueryWarden.Text.Numeral

/-!
# Whole numbers within bounds

Reading the numeral of a whole number that has to fit a machine word. The digits are taken from the
left, and the first thing that is wrong decides what is said.
-/

namespace QueryWarden.Text

/-- The whole numbers of a machine word. Only a word with a sign has numerals with a minus. -/
structure WordRange where
  least : Int
  greatest : Int
  deriving DecidableEq, Repr

/-- The words of so many bits without a sign. -/
def WordRange.unsigned (bits : Nat) : WordRange := ⟨0, Int.pow 2 bits - 1⟩

/-- The words of so many bits with a sign. -/
def WordRange.signed (bits : Nat) : WordRange :=
  ⟨-Int.pow 2 (bits - 1), Int.pow 2 (bits - 1) - 1⟩

/-- Why a text is no numeral of a word. -/
inductive NumeralFault where
  | empty
  | invalidDigit
  | tooLarge
  | tooSmall
  deriving DecidableEq, Repr

/-- The fault in words. -/
def NumeralFault.message : NumeralFault → String
  | .empty => "cannot parse integer from empty string"
  | .invalidDigit => "invalid digit found in string"
  | .tooLarge => "number too large to fit in target type"
  | .tooSmall => "number too small to fit in target type"

/-- The number with more digits, each of which counts with the sign. -/
def WordRange.readDigits (range : WordRange) (sign : Int) :
    List Char → Int → Except NumeralFault Int
  | [], number => .ok number
  | c :: digits, number =>
      match digitValue? c with
      | none => .error .invalidDigit
      | some digit =>
          let number := number * 10 + sign * digit
          if range.greatest < number then .error .tooLarge
          else if number < range.least then .error .tooSmall
          else range.readDigits sign digits number

/-- Reads the numeral of a word, which may have a sign. -/
def WordRange.read (range : WordRange) (text : List Char) : Except NumeralFault Int :=
  match text with
  | [] => .error .empty
  | ['+'] | ['-'] => .error .invalidDigit
  | '+' :: digits => range.readDigits 1 digits 0
  | '-' :: digits =>
      if range.least < 0 then range.readDigits (-1) digits 0 else .error .invalidDigit
  | digits => range.readDigits 1 digits 0

end QueryWarden.Text
