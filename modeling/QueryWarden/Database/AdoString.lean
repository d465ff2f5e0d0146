import QueryWarden.Text.Integer
import QueryWarden.Text.Trim

/-!
# Key-value connection strings

The form in which SQL Server connections are written: pairs of a key and a value joined by an equals
sign, with semicolons between the pairs. Quotes and braces protect what they enclose. Keys are
matched in lower case and the last of several pairs with one key counts.
-/

namespace QueryWarden.Database

open QueryWarden.Text

/-- Why a connection string is refused. -/
inductive AdoFault where
  | unjoinedPair
  | unseparatedPair
  | emptyKey
  | unclosedQuote (kind : String)
  | foreignCharacter (c : Char)
  | faultyServer
  | badPort (fault : NumeralFault)
  | notBoolean
  deriving DecidableEq, Repr

/-- The fault in words. -/
def AdoFault.message : AdoFault → String
  | .unjoinedPair =>
      "Conversion error: Conversion error: key-value pairs must be joined by a \x60=\x60"
  | .unseparatedPair =>
      "Conversion error: Conversion error: Key-value pairs must be separated by a \x60;\x60"
  | .emptyKey => "Conversion error: Conversion error: Key must not be empty"
  | .unclosedQuote kind => "Conversion error: Conversion error: unclosed " ++ kind
  | .foreignCharacter c =>
      "Conversion error: Conversion error: Invalid character found: " ++ String.singleton c
  | .faultyServer => "Conversion error: Server value faulty."
  | .badPort fault => "Error parsing an integer: " ++ fault.message
  | .notBoolean => "Conversion error: Connection string: Not a valid boolean"

/-- A token of a connection string. -/
inductive AdoToken where
  | semicolon
  | equals
  | newline
  | blank
  | atom (c : Char)
  | enclosed (text : List Char)
  deriving DecidableEq, Repr

/-- The text up to a closing mark; a doubled mark stands for one inside. -/
def readEnclosed (mark : Char) (kind : String) :
    Nat → List Char → List Char → Except AdoFault (List Char × List Char)
  | 0, _, _ => .error (.unclosedQuote kind)
  | _ + 1, [], _ => .error (.unclosedQuote kind)
  | fuel + 1, c :: text, before =>
      if c = mark then
        if mark != '\x7d' && text.head? = some mark && !before.isEmpty then
          readEnclosed mark kind fuel (text.drop 1) (mark :: before)
        else .ok (before.reverse, text)
      else if c.toNat < 128 then readEnclosed mark kind fuel text (c :: before)
      else .error (.foreignCharacter c)

/-- The tokens of a connection string. -/
def adoTokens : Nat → List Char → Except AdoFault (List AdoToken)
  | 0, _ => .ok []
  | _ + 1, [] => .ok []
  | fuel + 1, c :: text => do
      let enclosed (mark : Char) (kind : String) : Except AdoFault (List AdoToken) := do
        let (inner, rest) ← readEnclosed mark kind (text.length + 1) text []
        .ok (.enclosed inner :: (← adoTokens fuel rest))
      if c = '"' then enclosed '"' "double quote"
      else if c = '\'' then enclosed '\'' "single quote"
      else if c = '\x7b' then enclosed '\x7d' "escape literal"
      else
        let token : AdoToken :=
          if c = ';' then .semicolon
          else if c = '=' then .equals
          else if c = '\n' then .newline
          else if c = ' ' then .blank
          else .atom c
        if c.toNat < 128 then .ok (token :: (← adoTokens fuel text))
        else .error (.foreignCharacter c)

/-- A key or a value: everything up to a semicolon or an equals sign, without blanks around it. -/
def readPart : List AdoToken → List Char → List Char × List AdoToken
  | .enclosed text :: tokens, part => readPart tokens (part ++ text)
  | .atom c :: tokens, part => readPart tokens (part ++ [c])
  | .newline :: tokens, part | .blank :: tokens, part =>
      readPart tokens (if part.isEmpty then [] else part ++ [' '])
  | tokens, part => (trimEnd part, tokens)

/-- The pairs of a connection string; `fuel` bounds their number. -/
def readPairs : Nat → Bool → List AdoToken → Except AdoFault (List (List Char × List Char))
  | 0, _, _ => .ok []
  | _ + 1, _, [] => .ok []
  | fuel + 1, isFirst, token :: tokens => do
      let rest ←
        if isFirst then .ok (token :: tokens)
        else if token = .semicolon then .ok tokens
        else .error .unseparatedPair
      if rest.isEmpty && !isFirst then .ok []
      else
        let (key, rest) := readPart rest []
        if key.isEmpty then .error .emptyKey
        else
          match rest with
          | .equals :: rest =>
              let (value, rest) := readPart rest []
              .ok ((asciiLower key, value) :: (← readPairs fuel false rest))
          | _ => .error .unjoinedPair

/-- Where a SQL Server listens. -/
structure ServerAddress where
  host : List Char
  port : Nat
  deriving DecidableEq, Repr

/-- The value of the last pair with one of the keys, the keys tried in order. -/
def adoValue? (pairs : List (List Char × List Char)) (keys : List String) : Option (List Char) :=
  keys.findSome? fun key => pairs.reverse.lookup key.toList

/-- A port number. -/
def readPort (text : List Char) : Except AdoFault Nat :=
  match (WordRange.unsigned 16).read text with
  | .ok port => .ok port.toNat
  | .error fault => .error (.badPort fault)

/-- The address that a server value names: a host, perhaps with an instance, and a port. -/
def readServer (value : List Char) : Except AdoFault ServerAddress :=
  let value := if "tcp:".toList.isPrefixOf value then value.drop 4 else value
  let named (host : List Char) : Bool := host.contains '\\'
  let bare (host : List Char) : List Char :=
    let host := host.takeWhile (· != '\\')
    if host = "(local)".toList then "localhost".toList else host
  match splitWhere (· == ',') value with
  | [host] => .ok ⟨bare host, if named host then 1434 else 1433⟩
  | [host, port] => (readPort port).map fun port => ⟨bare host, port⟩
  | _ => .error .faultyServer

/-- A truth value in words, in any case and with blanks around it. -/
def readBoolean (value : List Char) : Except AdoFault Bool :=
  let word := asciiLower (trim value)
  if word = "true".toList || word = "yes".toList then .ok true
  else if word = "false".toList || word = "no".toList then .ok false
  else .error .notBoolean

/-- The address in a connection string, which is checked as a whole. -/
def parseAdoString (text : String) : Except AdoFault ServerAddress := do
  let tokens ← adoTokens (text.toList.length + 1) text.toList
  let pairs ← readPairs (tokens.length + 1) true tokens
  let address ←
    match adoValue? pairs ["server", "data source"] with
    | some value => readServer value
    | none => .ok ⟨"localhost".toList, 1433⟩
  let _ ← (adoValue? pairs ["trustservercertificate"]).mapM readBoolean
  let _ ← ((adoValue? pairs ["encrypt"]).filter (· != "DANGER_PLAINTEXT".toList)).mapM readBoolean
  .ok address

end QueryWarden.Database
