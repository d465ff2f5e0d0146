import QueryWarden.Text.Numeral
import QueryWarden.Text.Trim

/-!
# IPv6 addresses

Eight groups of sixteen bits. A gap of two colons stands for as many zero groups as are missing, and
the last two groups may be written as four decimal numbers. Writing leaves the longest gap.
-/

namespace QueryWarden.Net

open QueryWarden.Text

/-- How many groups an address has. -/
def groupCount : Nat := 8

/-! ## Reading -/

/-- A group of one to four hexadecimal digits. -/
def hexGroup? (text : List Char) : Option Nat :=
  if text.isEmpty || 4 < text.length then none
  else
    text.foldl (fun value? c => do
      let value ← value?
      some (value * 16 + (← hexValue? c))) (some 0)

/-- A decimal number below 256 without zeros in front. -/
def decimalByte? (text : List Char) : Option Nat := do
  guard (text.length = 1 || text.head? != some '0')
  let value ← readNat? text
  if value < 256 then some value else none

/-- Two groups written as four decimal numbers. -/
def decimalGroups? (text : List Char) : Option (List Nat) := do
  match ← (splitWhere (· == '.') text).mapM decimalByte? with
  | [a, b, c, d] => some [a * 256 + b, c * 256 + d]
  | _ => none

/-- Groups with colons between them; the last may be written in decimal. -/
def groupsOf? (text : List Char) : Option (List Nat) := do
  if text.isEmpty then some []
  else
    let pieces := splitWhere (· == ':') text
    let last ← pieces.getLast?
    if last.contains '.' then
      some ((← pieces.dropLast.mapM hexGroup?) ++ (← decimalGroups? last))
    else pieces.mapM hexGroup?

/-- What stands before the first two colons in a row, and what after. -/
def splitGap? : List Char → Option (List Char × List Char)
  | ':' :: ':' :: text => some ([], text)
  | c :: text => (splitGap? text).map fun (before, after) => (c :: before, after)
  | [] => none

/-- The groups of an address. -/
def ipv6? (text : List Char) : Option (List Nat) := do
  match splitGap? text with
  | none =>
      let groups ← groupsOf? text
      if groups.length = groupCount then some groups else none
  | some (before, after) =>
      guard (!before.contains '.')
      let front ← groupsOf? before
      let back ← groupsOf? after
      let missing := groupCount - (front.length + back.length)
      if missing = 0 then none else some (front ++ List.replicate missing 0 ++ back)

/-! ## Writing -/

/-- Where the first of the longest runs of zeros starts, and how long it is. -/
def longestZeros (groups : List Nat) : Nat × Nat :=
  (List.range groups.length).foldl (fun best start =>
    let size := ((groups.drop start).takeWhile (· == 0)).length
    if best.2 < size then (start, size) else best) (0, 0)

/-- Groups in hexadecimal with colons between them. -/
def groupsText (groups : List Nat) : List Char :=
  joinWith [':'] (groups.map hexNumeral)

/-- The address in its normal form. A single zero leaves no gap. -/
def ipv6Text (groups : List Nat) : List Char :=
  let (start, size) := longestZeros groups
  if size < 2 then groupsText groups
  else groupsText (groups.take start) ++ ':' :: ':' :: groupsText (groups.drop (start + size))

end QueryWarden.Net
