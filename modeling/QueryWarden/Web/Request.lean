import QueryWarden.Net.Percent
import QueryWarden.Text.Trim

/-!
# Requests

A request as it arrives: its method, its path and query as written, its content type and its body.
-/

namespace QueryWarden.Web

open QueryWarden.Text

/-- The methods that the service tells apart. -/
inductive Method where
  | get
  | head
  | post
  | put
  | delete
  | options
  | other
  deriving DecidableEq, Repr

/-- The method of a name. -/
def Method.ofName : String → Method
  | "GET" => .get
  | "HEAD" => .head
  | "POST" => .post
  | "PUT" => .put
  | "DELETE" => .delete
  | "OPTIONS" => .options
  | _ => .other

/-- A request. The query is what follows the question mark. -/
structure Request where
  method : Method
  path : List Char
  query : Option (List Char)
  contentType : Option (List Char)
  body : List Char
  deriving DecidableEq, Repr

/-- The request for a path with its query. -/
def Request.ofTarget (method : Method) (target : List Char) (contentType : Option (List Char))
    (body : List Char) : Request :=
  let path := target.takeWhile (· != '?')
  ⟨method, path, (target.drop path.length).tail?, contentType, body⟩

/-- A piece of a form in clear: plus signs are blanks and encoded bytes are decoded. -/
def formText (piece : List Char) : List Char :=
  Bytes.decodeLenient (Net.percentDecode (piece.map fun c => if c = '+' then ' ' else c))

/-- The names and values of a form, in order. -/
def formPairs (query : List Char) : List (List Char × List Char) :=
  ((splitWhere (· == '&') query).filter fun piece => !piece.isEmpty).map fun piece =>
    let name := piece.takeWhile (· != '=')
    (formText name, formText ((piece.drop name.length).drop 1))

end QueryWarden.Web
