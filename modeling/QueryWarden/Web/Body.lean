import QueryWarden.Json.Decoder
import QueryWarden.Sql.Dialect
import QueryWarden.Web.ContentType
import QueryWarden.Web.Request

/-!
# Request bodies

The JSON bodies of requests. A body has to be announced as JSON. What is wrong with its data is told
apart from what is wrong with its text, and both name the way to the place.
-/

namespace QueryWarden.Web

open QueryWarden.Json QueryWarden.Sql

/-- A question about a connection's database. -/
structure GenerateBody where
  question : String
  id : Int
  deriving DecidableEq, Repr, Inhabited

/-- A query to run. -/
structure ExecuteBody where
  sql : String
  id : Int
  deriving DecidableEq, Repr, Inhabited

/-- A query to look at. -/
structure ValidateBody where
  sql : String
  dialect : Option Dialect
  deriving DecidableEq, Repr, Inhabited

/-- Reads a question. -/
def generateDecoder : Decoder GenerateBody :=
  RecordShape.decoder
    ⟨"GenerateRequest",
     [.required "naturalLanguageQuery" [] stringDecoder fun body question =>
        { body with question },
      .required "databaseConfigId" [] int64Decoder fun body id => { body with id }]⟩ default

/-- Reads a query to run. -/
def executeDecoder : Decoder ExecuteBody :=
  RecordShape.decoder
    ⟨"ExecuteRequest",
     [.required "sqlQuery" [] stringDecoder fun body sql => { body with sql },
      .required "databaseConfigId" [] int64Decoder fun body id => { body with id }]⟩ default

/-- Reads a query to look at. -/
def validateDecoder : Decoder ValidateBody :=
  RecordShape.decoder
    ⟨"ValidateRequest",
     [.required "sqlQuery" [] stringDecoder fun body sql => { body with sql },
      .nullable "dialect" [] (choiceDecoder Dialect.spellings) fun body dialect =>
        { body with dialect }]⟩ default

/-- Why a body is refused. -/
inductive BodyFault where
  | notAnnounced
  | badText (detail : String)
  | badData (detail : String)
  deriving DecidableEq, Repr

/-- The fault in words. -/
def BodyFault.message : BodyFault → String
  | .notAnnounced => "Expected request with \x60Content-Type: application/json\x60"
  | .badText detail => "Failed to parse the request body as JSON: " ++ detail
  | .badData detail => "Failed to deserialize the JSON body into the target type: " ++ detail

/-- The status code of the response to a refused body. -/
def BodyFault.statusCode : BodyFault → Nat
  | .notAnnounced => 415
  | .badText _ => 400
  | .badData _ => 422

/-- A fault in words, after the way to its place. -/
def describeFault (fault : Fault) (text : List Char) : String :=
  let way := describeWay fault.way
  (if way.isEmpty then "" else way ++ ": ") ++ fault.message text

/-- Reads the body of a request. -/
def Request.readBody {α : Type} (request : Request) (decoder : Decoder α) : Except BodyFault α :=
  if !(request.contentType.map announcesJson).getD false then .error .notAnnounced
  else
    match decoder.document request.body with
    | .ok value => .ok value
    | .error fault =>
        let detail := describeFault fault request.body
        .error (if fault.cause.isAboutData then .badData detail else .badText detail)

end QueryWarden.Web
