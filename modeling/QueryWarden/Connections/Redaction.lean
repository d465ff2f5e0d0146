import QueryWarden.Text.Pattern

/-!
# Redacted connection strings

What may be shown of a connection string: the password of a URL and the values of password keys are
replaced by stars. Everything else stays as it is.
-/

namespace QueryWarden.Connections

open QueryWarden.Text

/-- What stands in place of a password. -/
def mask : List Char := "****".toList

/-- A character that may follow the first letter of a scheme. -/
def isSchemeChar (c : Char) : Bool :=
  isWordChar c || c == '+' || c == '.' || c == '-'

/-- A character that a user name may hold. -/
def isUserChar (c : Char) : Bool :=
  c != ':' && c != '/' && c != '@'

/-- Cuts a URL in front of its password: the scheme, the user name and the colon, then the text
from the password on. -/
def urlHead? (text : List Char) : Option (List Char × List Char) := do
  guard (text.head?.any Char.isAlpha)
  let afterScheme := text.dropWhile isSchemeChar
  let afterMark ← dropExact "://".toList afterScheme
  let rest ← dropChar ':' (afterMark.dropWhile isUserChar)
  some (text.take (text.length - rest.length), rest)

/-- The password of a URL, from the colon after the user name to the first `@`, masked. -/
def maskUrl (text : List Char) : List Char :=
  match urlHead? text with
  | some (head, rest) =>
      match rest.dropWhile (· != '@') with
      | [] => text
      | tail => head ++ mask ++ tail
  | none => text

/-- A password key with its equals sign and the blanks around it, then the value up to the next
semicolon. What is found is the text in front of the value. -/
def passwordPair : Pattern (List Char) := fun before text => do
  guard (atWordStart before)
  let rest ← dropAnyWord ["password".toList, "pwd".toList] text
  let value := dropBlanks (← dropChar '=' (dropBlanks rest))
  some (text.take (text.length - value.length), value.dropWhile (· != ';'))

/-- The connection string without its passwords. -/
def redactText (text : List Char) : List Char :=
  passwordPair.replaceAll (fun head => head ++ mask) (maskUrl text)

/-- The connection string without its passwords. -/
def redact (connectionString : String) : String :=
  String.ofList (redactText connectionString.toList)

end QueryWarden.Connections
