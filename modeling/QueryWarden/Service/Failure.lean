import QueryWarden.Database.Failure
import QueryWarden.Generation.Failure
import QueryWarden.Json.Value

/-!
# Failures that clients are told of

Every failure that reaches a client is one of these kinds; each has a status code and a text, and
failures of a model's endpoint also carry what the endpoint said.
-/

namespace QueryWarden.Service

open QueryWarden.Json

/-- A failure that a client is told of. -/
inductive Failure where
  /-- The validator refused the query; the reason is carried word by word. -/
  | validationRejected (reason : String)
  | generation (status : Nat) (body : String)
  | schemaUnavailable (detail : String)
  | execution (detail : String)
  | timeout (limit : Time.Span)
  | notFound (detail : String)
  | badRequest (detail : String)
  | internal (detail : String)
  deriving DecidableEq, Repr

namespace Failure

/-- The failure in words. -/
def message : Failure → String
  | .validationRejected reason => "Validation failed: " ++ reason
  | .generation status body =>
      "Generation service responded with status " ++ toString status ++ ": " ++ body
  | .schemaUnavailable detail => "Schema unavailable: " ++ detail
  | .execution detail => "Query execution failed: " ++ detail
  | .timeout limit => "Query timed out after " ++ limit.text
  | .notFound detail | .badRequest detail => detail
  | .internal detail => "Internal error: " ++ detail

/-- The status code of the response. -/
def statusCode : Failure → Nat
  | .validationRejected _ | .badRequest _ => 400
  | .generation .. => 502
  | .schemaUnavailable _ => 503
  | .timeout _ => 504
  | .notFound _ => 404
  | .execution _ | .internal _ => 500

/-- A model's failure as clients see it: trouble with the endpoint counts as its bad answer. -/
def ofModel : Generation.ModelFailure → Failure
  | .declined status body => .generation status body
  | .connection detail | .response detail => .generation 502 detail
  | .configuration detail => .internal (Generation.ModelFailure.configuration detail).message

/-- A database's failure as clients see it. -/
def ofDatabase : Database.Failure → Failure
  | .notFound id => .notFound ("Database configuration " ++ toString id ++ " not found")
  | .timeout limit => .timeout limit
  | .invalidConfiguration detail => .badRequest detail
  | other => .execution other.message

/-- The object for a failure. -/
def toValue (failure : Failure) : Value :=
  .object
    ([("error", .text failure.message), ("status", .ofNat failure.statusCode)] ++
      match failure with
      | .generation status body =>
          [("upstreamStatus", .ofNat status), ("upstreamBody", .text body)]
      | _ => [])

end Failure

end QueryWarden.Service
