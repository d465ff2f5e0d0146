import QueryWarden.Text.Integer
import QueryWarden.Web.Request

/-!
# Routes

The paths that the service answers at. A path is matched as it is written, segment by segment, and
an id in it stands for any segment that is not empty.
-/

namespace QueryWarden.Web

open QueryWarden.Text

/-- A path that the service answers at; ids are as they are written. -/
inductive Route where
  | generate
  | execute
  | validate
  | suggest
  | history
  | schema (id : List Char)
  | refreshSchema (id : List Char)
  | connections
  | connection (id : List Char)
  | status
  deriving DecidableEq, Repr

/-- The route of the segments of a path. -/
def Route.ofSegments? : List String → Option Route
  | ["query", "generate"] => some .generate
  | ["query", "execute"] => some .execute
  | ["query", "validate"] => some .validate
  | ["query", "suggest"] => some .suggest
  | ["query", "history"] => some .history
  | ["schema", id] => if id.isEmpty then none else some (.schema id.toList)
  | ["schema", id, "refresh"] => if id.isEmpty then none else some (.refreshSchema id.toList)
  | ["connections"] => some .connections
  | ["connections", id] => if id.isEmpty then none else some (.connection id.toList)
  | ["status"] => some .status
  | _ => none

/-- The route of a path. -/
def Route.ofPath? (path : List Char) : Option Route :=
  match (splitWhere (· == '/') path).map String.ofList with
  | "" :: "api" :: segments => Route.ofSegments? segments
  | _ => none

/-- Why the id in a path is none. -/
inductive PathFault where
  | notText (parameter : String)
  | notNumber (value : List Char)
  deriving DecidableEq, Repr

/-- The fault in words. -/
def PathFault.message : PathFault → String
  | .notText parameter => "Invalid URL: Invalid UTF-8 in \x60" ++ parameter ++ "\x60"
  | .notNumber value =>
      "Invalid URL: Cannot parse \x60" ++ String.ofList value ++ "\x60 to a \x60i64\x60"

/-- The id that a segment of a path spells, once it is decoded. -/
def readId (parameter : String) (segment : List Char) : Except PathFault Int :=
  match Bytes.decodeText (Net.percentDecode segment) with
  | .error _ => .error (.notText parameter)
  | .ok text =>
      match (WordRange.signed 64).read text with
      | .ok id => .ok id
      | .error _ => .error (.notNumber text)

/-- Why a query string is refused. -/
inductive QueryFault where
  | badLimit (fault : NumeralFault)
  | repeatedLimit
  deriving DecidableEq, Repr

/-- The fault in words. -/
def QueryFault.message : QueryFault → String
  | .badLimit fault => "Failed to deserialize query string: limit: " ++ fault.message
  | .repeatedLimit => "Failed to deserialize query string: duplicate field \x60limit\x60"

/-- The limit among the pairs of a query string; `found` is the one read before. -/
def readLimitFrom :
    List (List Char × List Char) → Option UInt64 → Except QueryFault (Option UInt64)
  | [], found => .ok found
  | (name, value) :: pairs, found =>
      if name != "limit".toList then readLimitFrom pairs found
      else if found.isSome then .error .repeatedLimit
      else
        match (WordRange.unsigned 64).read value with
        | .ok limit => readLimitFrom pairs (some (.ofNat limit.toNat))
        | .error fault => .error (.badLimit fault)

/-- The limit that a query string asks for. -/
def readLimit (query : Option (List Char)) : Except QueryFault (Option UInt64) :=
  readLimitFrom (formPairs (query.getD [])) none

end QueryWarden.Web
