import QueryWarden.Decimal.Shortest
import QueryWarden.Text.Quoted

/-!
# Faults of JSON texts

What can be wrong with a JSON text, where it is wrong, and how both are worded. A fault keeps the
text that was still unread when it was found, so its place is a function of the two texts.
-/

namespace QueryWarden.Json

open QueryWarden.Text

/-- What stands in a place where something else was wanted. -/
inductive Found where
  | null
  | bool (value : Bool)
  | integer (value : Int)
  | float (value : Float)
  | text (value : List Char)
  | list
  | object

/-- What is wrong with a text. -/
inductive Cause where
  | endInValue
  | endInText
  | endInObject
  | endInList
  | expectedColon
  | expectedObjectCommaOrEnd
  | expectedListCommaOrEnd
  | expectedIdent
  | expectedValue
  | invalidEscape
  | invalidNumber
  | outOfRange
  | controlCharacter
  | keyMustBeText
  | loneSurrogate
  | unexpectedEndOfEscape
  | trailingComma
  | trailingCharacters
  | tooDeep
  | invalidType (found : Found) (expected : String)
  | invalidValue (found : Found) (expected : String)
  | invalidLength (length : Nat) (expected : String)
  | missingField (name : String)
  | duplicateField (name : String)
  | unknownVariant (name : List Char) (expected : List String)

/-- One step of the way from a document to a part of it. -/
inductive Step where
  | field (name : List Char)
  | element (index : Nat)
  deriving DecidableEq, Repr

/-- A fault: the cause, the text unread when it was found, how many bytes of that are to blame,
and the way to the part that was being read. -/
structure Fault where
  cause : Cause
  unread : List Char
  ahead : Nat
  way : List Step

/-! ## Wording -/

/-- The words for what was found. -/
def Found.describe : Found → List Char
  | .null => "null".toList
  | .bool true => "boolean \x60true\x60".toList
  | .bool false => "boolean \x60false\x60".toList
  | .integer value => "integer \x60".toList ++ integerNumeral value ++ ['\x60']
  | .float value => "floating point \x60".toList ++ Decimal.floatNumeral value ++ ['\x60']
  | .text value => "string ".toList ++ quoted value
  | .list => "sequence".toList
  | .object => "map".toList

/-- Names between back quotes, with commas between them. -/
def quotedNames (names : List String) : String :=
  String.intercalate ", " (names.map fun name => "\x60" ++ name ++ "\x60")

/-- The words for a cause. -/
def Cause.describe : Cause → String
  | .endInValue => "EOF while parsing a value"
  | .endInText => "EOF while parsing a string"
  | .endInObject => "EOF while parsing an object"
  | .endInList => "EOF while parsing a list"
  | .expectedColon => "expected \x60:\x60"
  | .expectedObjectCommaOrEnd => "expected \x60,\x60 or \x60\x7d\x60"
  | .expectedListCommaOrEnd => "expected \x60,\x60 or \x60]\x60"
  | .expectedIdent => "expected ident"
  | .expectedValue => "expected value"
  | .invalidEscape => "invalid escape"
  | .invalidNumber => "invalid number"
  | .outOfRange => "number out of range"
  | .controlCharacter => "control character (\\u0000-\\u001F) found while parsing a string"
  | .keyMustBeText => "key must be a string"
  | .loneSurrogate => "lone leading surrogate in hex escape"
  | .unexpectedEndOfEscape => "unexpected end of hex escape"
  | .trailingComma => "trailing comma"
  | .trailingCharacters => "trailing characters"
  | .tooDeep => "recursion limit exceeded"
  | .invalidType found expected =>
      "invalid type: " ++ String.ofList found.describe ++ ", expected " ++ expected
  | .invalidValue found expected =>
      "invalid value: " ++ String.ofList found.describe ++ ", expected " ++ expected
  | .invalidLength length expected =>
      "invalid length " ++ toString length ++ ", expected " ++ expected
  | .missingField name => "missing field \x60" ++ name ++ "\x60"
  | .duplicateField name => "duplicate field \x60" ++ name ++ "\x60"
  | .unknownVariant name expected =>
      "unknown variant \x60" ++ String.ofList name ++ "\x60, expected one of " ++
        quotedNames expected

/-- A fault of the data rather than of the text that spells it. -/
def Cause.isAboutData : Cause → Bool
  | .invalidType .. | .invalidValue .. | .invalidLength .. | .missingField _ | .duplicateField _
  | .unknownVariant .. => true
  | _ => false

/-! ## Places -/

/-- A place in a text: lines count from one, columns are bytes since the last line break. -/
structure Place where
  line : Nat
  column : Nat
  deriving DecidableEq, Repr

/-- The place after one more character. -/
def Place.after (place : Place) (c : Char) : Place :=
  if c = '\n' then ⟨place.line + 1, 0⟩ else ⟨place.line, place.column + c.utf8Size⟩

/-- The place some bytes further on. A character may be entered and not left. -/
def Place.advance (place : Place) : Nat → List Char → Place
  | 0, _ | _ + 1, [] => place
  | bytes + 1, c :: text =>
      if c.utf8Size ≤ bytes + 1 then (place.after c).advance (bytes + 1 - c.utf8Size) text
      else ⟨place.line, place.column + (bytes + 1)⟩

/-- Where a fault lies in the text it was found in. -/
def Fault.place (fault : Fault) (text : List Char) : Place :=
  let readSoFar := text.take (text.length - fault.unread.length)
  (readSoFar.foldl Place.after ⟨1, 0⟩).advance fault.ahead fault.unread

/-- What is said about a fault, with its place. -/
def Fault.message (fault : Fault) (text : List Char) : String :=
  let place := fault.place text
  fault.cause.describe ++ " at line " ++ toString place.line ++ " column " ++
    toString place.column

/-- One step of a way, in words. -/
def Step.describe : Step → String
  | .field name => String.ofList name
  | .element index => "[" ++ toString index ++ "]"

/-- A way in words: fields are joined by points, elements stand in brackets. -/
def describeWay : List Step → String
  | [] => ""
  | step :: [] => step.describe
  | step :: .element index :: way => step.describe ++ describeWay (.element index :: way)
  | step :: .field name :: way => step.describe ++ "." ++ describeWay (.field name :: way)

/-! ## Raising -/

/-- A fault in what has been read so far. -/
def failHere {α : Type} (cause : Cause) (unread : List Char) : Except Fault α :=
  .error ⟨cause, unread, 0, []⟩

/-- A fault in the next byte of the text. -/
def failAt {α : Type} (cause : Cause) (unread : List Char) : Except Fault α :=
  .error ⟨cause, unread, 1, []⟩

/-- The same fault, one step further from the document. -/
def Fault.within (step : Step) (fault : Fault) : Fault :=
  { fault with way := step :: fault.way }

/-- What was read, with faults placed one step further from the document. -/
def placedIn {α : Type} (step : Step) : Except Fault α → Except Fault α
  | .ok value => .ok value
  | .error fault => .error (fault.within step)

end QueryWarden.Json
