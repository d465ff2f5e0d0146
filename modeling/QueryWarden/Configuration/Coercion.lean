import QueryWarden.Configuration.Fault
import QueryWarden.Decimal.Literal
import QueryWarden.Text.Lowercase

/-!
# Coercions

How values are taken for one another, since variables hold nothing but texts: truth values and
numbers are read from texts and from each other, and texts are made of any scalar.
-/

namespace QueryWarden.Configuration

open QueryWarden.Decimal QueryWarden.Text

/-- What a value is found to be. -/
def Tree.found : Tree → Found
  | .scalar _ .nothing => .nothing
  | .scalar _ (.bool value) => .bool value
  | .scalar _ (.integer value) => .integer value
  | .scalar _ (.float value) => .float value
  | .scalar _ (.text value) => .text value
  | .list .. => .list
  | .table .. => .table

/-- Where a value comes from. -/
def Tree.origin : Tree → Origin
  | .scalar origin _ | .list origin _ | .table origin _ => origin

/-- Refuses a value for what it is. -/
def Tree.refuse {α : Type} (tree : Tree) (expected : String) : Except Fault α :=
  .error (.wrongType tree.found expected [] tree.origin)

/-- The text in lower case. -/
def lowered (text : String) : String := String.ofList (lowercase text.toList)

/-- The truth value of a word. -/
def truthOfWord? (word : String) : Option Bool :=
  if ["true", "on", "yes"].contains (lowered word) then some true
  else if ["false", "off", "no"].contains (lowered word) then some false
  else none

/-- A truth value. -/
def Tree.toBool (tree : Tree) : Except Fault Bool :=
  match tree with
  | .scalar _ (.bool value) => .ok value
  | .scalar _ (.integer value) => .ok (value != 0)
  | .scalar _ (.float value) => .ok (value != 0.0)
  | .scalar origin (.text text) =>
      match truthOfWord? text with
      | some value => .ok value
      | none =>
          if text = "1" then .ok true
          else if text = "0" then .ok false
          else .error (.wrongType (.text (lowered text)) "a boolean" [] origin)
  | tree => tree.refuse "a boolean"

/-- The whole number of a text: a numeral, or a word for a truth value. -/
def numberOfText (range : WordRange) (tree : Tree) (text : String) : Except Fault Int :=
  match truthOfWord? text with
  | some value => .ok (if value then 1 else 0)
  | none =>
      match range.read text.toList with
      | .ok number => .ok number
      | .error _ => tree.refuse "an integer"

/-- A whole number of 64 bits with a sign. -/
def Tree.toInteger (tree : Tree) : Except Fault Int :=
  match tree with
  | .scalar _ (.integer value) => .ok value
  | .scalar _ (.bool value) => .ok (if value then 1 else 0)
  | .scalar _ (.float value) => .ok value.round.toInt64.toInt
  | .scalar _ (.text text) => numberOfText (.signed 64) tree text
  | tree => tree.refuse "an integer"

/-- A whole number of 64 bits without a sign. -/
def Tree.toNatural (tree : Tree) : Except Fault Nat :=
  match tree with
  | .scalar _ (.integer value) =>
      if value < 0 then tree.refuse "an unsigned 64 bit or less integer" else .ok value.toNat
  | .scalar _ (.bool value) => .ok (if value then 1 else 0)
  | .scalar _ (.float value) => .ok value.round.toUInt64.toNat
  | .scalar _ (.text text) => (numberOfText (.unsigned 64) tree text).map Int.toNat
  | tree => tree.refuse "an integer"

/-- A port number. -/
def Tree.toPort (tree : Tree) : Except Fault Nat := do
  let port ← tree.toNatural
  if port < Nat.pow 2 16 then .ok port
  else .error (.wrongType (.unsigned port) "an unsigned 16 bit integer" [] none)

/-- A floating number. -/
def Tree.toFloat (tree : Tree) : Except Fault Float :=
  match tree with
  | .scalar _ (.float value) => .ok value
  | .scalar _ (.integer value) => .ok (Float.ofInt value)
  | .scalar _ (.bool value) => .ok (if value then 1.0 else 0.0)
  | .scalar _ (.text text) =>
      match truthOfWord? text with
      | some value => .ok (if value then 1.0 else 0.0)
      | none =>
          match readFloat? text.toList with
          | some value => .ok value
          | none => tree.refuse "a floating point"
  | tree => tree.refuse "a floating point"

/-- A text. -/
def Tree.toText (tree : Tree) : Except Fault String :=
  match tree with
  | .scalar _ (.text text) => .ok text
  | .scalar _ (.bool value) => .ok (toString value)
  | .scalar _ (.integer value) => .ok (String.ofList (integerNumeral value))
  | .scalar _ (.float value) => .ok (String.ofList (positionalNumeral value))
  | tree => tree.refuse "a string"

/-- A text or nothing. -/
def Tree.toOptionalText (tree : Tree) : Except Fault (Option String) :=
  match tree with
  | .scalar _ .nothing => .ok none
  | tree => tree.toText.map some

end QueryWarden.Configuration
