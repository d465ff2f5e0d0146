import QueryWarden.Text.Numeral

/-!
# Spans of time

Lengths of time in nanoseconds and their text, in the largest unit that the span reaches.
-/

namespace QueryWarden.Time

open QueryWarden.Text

/-- A length of time in nanoseconds. -/
structure Span where
  nanos : Nat
  deriving DecidableEq, Repr

/-- Whole milliseconds. -/
def Span.ofMillis (millis : Nat) : Span := ⟨millis * 1000000⟩

/-- Whole seconds. -/
def Span.ofSeconds (seconds : Nat) : Span := ⟨seconds * 1000000000⟩

/-- A number of units, with the digits after the point that are not trailing zeros. -/
def inUnits (nanos perUnit digits : Nat) (unit : String) : String :=
  let fraction :=
    (paddedNumeral digits (nanos % perUnit)).reverse.dropWhile (· == '0') |>.reverse
  String.ofList (decimalNumeral (nanos / perUnit) ++
    (if fraction.isEmpty then [] else '.' :: fraction)) ++ unit

/-- The span in words. -/
def Span.text (span : Span) : String :=
  if 1000000000 ≤ span.nanos then inUnits span.nanos 1000000000 9 "s"
  else if 1000000 ≤ span.nanos then inUnits span.nanos 1000000 6 "ms"
  else if 1000 ≤ span.nanos then inUnits span.nanos 1000 3 "µs"
  else toString span.nanos ++ "ns"

end QueryWarden.Time
