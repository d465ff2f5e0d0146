import QueryWarden.Json.Fault

/-!
# JSON values and their compact text

Objects keep the order of their members. Numbers are whole or floating: whole numbers are those of
64 bits, signed or not, and the two kinds are never mixed up.
-/

namespace QueryWarden.Json

open QueryWarden.Text

/-- A JSON value. -/
inductive Value where
  | null
  | bool (value : Bool)
  | integer (value : Int)
  | float (value : Float)
  | single (value : Float32)
  | text (value : String)
  | list (items : List Value)
  | object (members : List (String × Value))

/-! ## Writing -/

/-- One character of a text between quotes. -/
def escapedChar (c : Char) : List Char :=
  if c = '"' then ['\\', '"']
  else if c = '\\' then ['\\', '\\']
  else if c = '\n' then ['\\', 'n']
  else if c = '\r' then ['\\', 'r']
  else if c = '\t' then ['\\', 't']
  else if c = '\x08' then ['\\', 'b']
  else if c = '\x0c' then ['\\', 'f']
  else if c.toNat < 32 then '\\' :: 'u' :: paddedHex 4 c.toNat
  else [c]

/-- A text between quotes. -/
def renderText (text : List Char) : List Char :=
  '"' :: text.flatMap escapedChar ++ ['"']

mutual

/-- The compact text of a value. A number that is not finite has none and becomes null. -/
def Value.render : Value → List Char
  | .null => "null".toList
  | .bool true => "true".toList
  | .bool false => "false".toList
  | .integer value => integerNumeral value
  | .float value => Decimal.floatNumeral value
  | .single value => Decimal.float32Numeral value
  | .text value => renderText value.toList
  | .list [] => ['[', ']']
  | .list (item :: items) => '[' :: item.render ++ renderItems items
  | .object [] => ['\x7b', '\x7d']
  | .object ((name, value) :: members) =>
      '\x7b' :: renderText name.toList ++ ':' :: value.render ++ renderMembers members

/-- The rest of a list after its first item. -/
def renderItems : List Value → List Char
  | [] => [']']
  | item :: items => ',' :: item.render ++ renderItems items

/-- The rest of an object after its first member. -/
def renderMembers : List (String × Value) → List Char
  | [] => ['\x7d']
  | (name, value) :: members =>
      ',' :: renderText name.toList ++ ':' :: value.render ++ renderMembers members

end

/-- The compact text of a value as a string. -/
def Value.compact (value : Value) : String :=
  String.ofList value.render

/-- A text or null. -/
def Value.ofOption (value : Option String) : Value :=
  (value.map Value.text).getD .null

/-- A list of texts. -/
def Value.ofTexts (items : List String) : Value :=
  .list (items.map .text)

/-- A natural number. -/
def Value.ofNat (value : Nat) : Value :=
  .integer value

/-- The value of a member. -/
def Value.member? (value : Value) (name : String) : Option Value :=
  match value with
  | .object members => members.lookup name
  | _ => none

/-- Sets a member where it stands, or at the end. -/
def setMember (name : String) (value : Value) : List (String × Value) → List (String × Value)
  | [] => [(name, value)]
  | member :: members =>
      if member.1 = name then (name, value) :: members
      else member :: setMember name value members

end QueryWarden.Json
