import QueryWarden.Text.CharClass

/-!
# Content types

Whether the content type of a request announces JSON: the type is `application`, and the subtype is
`json` or ends in `+json`. Parameters may follow and have to be well formed.
-/

namespace QueryWarden.Web

open QueryWarden.Text

/-- A character that a token of a content type may hold. -/
def isTokenChar (c : Char) : Bool :=
  c.isAlphanum || "!#$%&'*+-.^_\x60|~".toList.contains c

/-- A character that a quoted value may hold. -/
def isQuotedChar (c : Char) : Bool :=
  c == '\t' || (decide (32 ≤ c.toNat) && decide (c.toNat < 127))

/-- What follows a quoted value, from the text after its opening quote on. -/
def pastQuoted : List Char → Option (List Char)
  | [] => none
  | '"' :: text => some text
  | '\\' :: c :: text => if isQuotedChar c then pastQuoted text else none
  | c :: text => if isQuotedChar c then pastQuoted text else none

/-- Parameters are well formed: names and values are tokens, or values are quoted, with semicolons
between them. The text starts after a semicolon; `fuel` bounds the number of parameters. -/
def areParameters : Nat → List Char → Bool
  | 0, _ => false
  | _ + 1, [] => true
  | fuel + 1, text =>
      let text := text.dropWhile (· == ' ')
      let name := text.takeWhile isTokenChar
      match text.drop name.length with
      | [] => text.isEmpty
      | '=' :: '"' :: rest =>
          !name.isEmpty &&
            match (pastQuoted rest).map (List.dropWhile (· == ' ')) with
            | some [] => true
            | some (';' :: rest) => areParameters fuel rest
            | _ => false
      | '=' :: rest =>
          let value := rest.takeWhile isTokenChar
          !name.isEmpty &&
            match rest.drop value.length with
            | [] => true
            | ';' :: rest => !value.isEmpty && areParameters fuel rest
            | _ => false
      | _ => false

/-- What stands before the last plus sign of a subtype, and after it. -/
def splitSuffix (subtype : List Char) : List Char × Option (List Char) :=
  let suffix := (subtype.reverse.takeWhile (· != '+')).reverse
  if suffix.length + 1 < subtype.length then
    (subtype.take (subtype.length - suffix.length - 1), some suffix)
  else (subtype, none)

/-- The content type announces JSON. -/
def announcesJson (contentType : List Char) : Bool :=
  let text := asciiLower contentType
  let name := text.takeWhile fun c => isTokenChar c
  match text.drop name.length with
  | '/' :: rest =>
      let subtype := rest.takeWhile isTokenChar
      let (base, suffix) := splitSuffix subtype
      let isWellFormed :=
        match rest.drop subtype.length with
        | [] => true
        | ';' :: parameters => areParameters (parameters.length + 1) parameters
        | _ => false
      isWellFormed && name == "application".toList &&
        (base == "json".toList || suffix == some "json".toList)
  | _ => false

end QueryWarden.Web
