import QueryWarden.Text.CharClass
import QueryWarden.Text.EscapedTable
import QueryWarden.Text.Numeral

/-!
# Quoted renderings

How messages show a text between double quotes: quotes, backslashes and the usual controls by a
backslash and a letter, whatever else does not show on its own by its number.
-/

namespace QueryWarden.Text

/-- A character that a quoted rendering writes by number. -/
def needsNumber (c : Char) : Bool :=
  if c.toNat < 128 then c.toNat < 32 || c.toNat == 127 else inRanges escapedRanges c.toNat

/-- One character of a quoted rendering. -/
def quotedChar (c : Char) : List Char :=
  if c = '\t' then ['\\', 't']
  else if c = '\n' then ['\\', 'n']
  else if c = '\r' then ['\\', 'r']
  else if c = '\x00' then ['\\', '0']
  else if c = '"' then ['\\', '"']
  else if c = '\\' then ['\\', '\\']
  else if needsNumber c then '\\' :: 'u' :: '\x7b' :: hexNumeral c.toNat ++ ['\x7d']
  else [c]

/-- The text between double quotes. -/
def quoted (text : List Char) : List Char :=
  '"' :: text.flatMap quotedChar ++ ['"']

end QueryWarden.Text
