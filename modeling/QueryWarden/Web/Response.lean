import QueryWarden.Connections.Redaction
import QueryWarden.Schema.Document
import QueryWarden.Service.Operation

/-!
# Responses

A status code and a body. Outcomes of operations become JSON; connection strings in them are shown
without their passwords.
-/

namespace QueryWarden.Web

open QueryWarden.Connections QueryWarden.History QueryWarden.Json QueryWarden.Schema
open QueryWarden.Service QueryWarden.Sql

/-- The body of a response. -/
inductive ResponseBody where
  | empty
  | text (text : String)
  | json (value : Value)

/-- A response. -/
structure Response where
  statusCode : Nat
  body : ResponseBody

/-- A response without a body. -/
def Response.bare (statusCode : Nat) : Response := ⟨statusCode, .empty⟩

/-- A failure told to the client. -/
def Response.ofFailure (failure : Failure) : Response :=
  ⟨failure.statusCode, .json failure.toValue⟩

/-- A connection as clients may see it. -/
def shownConnection (connection : Connection) : Value :=
  Connection.toValue { connection with connectionString := redact connection.connectionString }

/-- The object for a generated query. -/
def generatedValue (generated : Generated) : Value :=
  let answer :=
    match generated.answer.toValue with
    | .object members => members
    | _ => []
  .object (answer ++
    [("isSuccessful", .bool generated.isSuccessful),
     ("historyId", (generated.historyId.map Value.integer).getD .null)])

/-- The object for a verdict. -/
def verdictValue (verdict : Verdict) : Value :=
  .object [("isValid", .bool verdict.isValid), ("reason", .ofOption verdict.reason)]

/-- The object for the status of the service. -/
def statusValue (status : Status) : Value :=
  .object [("version", .text status.version), ("uptimeSeconds", .integer status.uptimeSeconds),
    ("llmBackend", .text status.backendName),
    ("connectionCount", .ofNat status.connectionCount)]

/-- What an operation gave, as a response. -/
def Response.ofOutcome : Outcome → Response
  | .generated generated => ⟨200, .json (generatedValue generated)⟩
  | .result result => ⟨200, .json result.toValue⟩
  | .verdict verdict => ⟨200, .json (verdictValue verdict)⟩
  | .questions questions => ⟨200, .json (.ofTexts questions)⟩
  | .snapshot snapshot => ⟨200, .json snapshot.toValue⟩
  | .records records => ⟨200, .json (.list (records.map Record.toValue))⟩
  | .cleared count => ⟨200, .json (.object [("removed", .ofNat count)])⟩
  | .connections connections => ⟨200, .json (.list (connections.map shownConnection))⟩
  | .connection connection => ⟨200, .json (shownConnection connection)⟩
  | .created connection => ⟨201, .json (shownConnection connection)⟩
  | .deleted => .bare 204
  | .status status => ⟨200, .json (statusValue status)⟩

end QueryWarden.Web
