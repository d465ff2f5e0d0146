import QueryWarden.Web.Body
import QueryWarden.Web.Response
import QueryWarden.Web.Route

/-!
# The router

From a request to the operation it asks for, and from the operation's outcome to the response. The
path is looked at first, then the method, then what the path holds, and the body last.
-/

namespace QueryWarden.Web

open QueryWarden.Connections QueryWarden.Json QueryWarden.Service

/-- What was read, or the response that tells why it could not be. -/
def orRefuse {ε α : Type} (refuse : ε → Response) : Except ε α → Except Response α :=
  Except.mapError refuse

/-- The response to a path that does not hold what it should. -/
def refusePath (fault : PathFault) : Response := ⟨400, .text fault.message⟩

/-- The response to a query string that does not hold what it should. -/
def refuseQuery (fault : QueryFault) : Response := ⟨400, .text fault.message⟩

/-- The response to a body that does not hold what it should. -/
def refuseBody (fault : BodyFault) : Response := ⟨fault.statusCode, .text fault.message⟩

/-- The body of a request, or the response that refuses it. -/
def bodyOf {α : Type} (request : Request) (decoder : Decoder α) : Except Response α :=
  orRefuse refuseBody (request.readBody decoder)

/-- The id in a path, or the response that refuses it. -/
def idOf (parameter : String) (segment : List Char) : Except Response Int :=
  orRefuse refusePath (readId parameter segment)

/-- The operation that a request asks for at a route, or the response that refuses it. A method that
the route does not know is refused without a word. -/
def Route.operation (route : Route) (request : Request) : Except Response Operation :=
  match route, request.method with
  | .generate, .post => do
      let body ← bodyOf request generateDecoder
      .ok (.generate body.question body.id)
  | .execute, .post => do
      let body ← bodyOf request executeDecoder
      .ok (.execute body.sql body.id)
  | .validate, .post => do
      let body ← bodyOf request validateDecoder
      .ok (.validate body.sql (body.dialect.getD .sqlServer))
  | .suggest, .post => do .ok (.suggest (← bodyOf request int64Decoder))
  | .history, .get | .history, .head => do
      let limit ← orRefuse refuseQuery (readLimit request.query)
      .ok (.history (limit.getD History.defaultLimit))
  | .history, .delete => .ok .clearHistory
  | .schema id, .get | .schema id, .head => do .ok (.schema (← idOf "config_id" id))
  | .refreshSchema id, .post => do .ok (.refreshSchema (← idOf "config_id" id))
  | .connections, .get | .connections, .head => .ok .connections
  | .connections, .post => do .ok (.createConnection (← bodyOf request draftDecoder))
  | .connection id, .get | .connection id, .head => do .ok (.connection (← idOf "id" id))
  | .connection id, .put => do
      let id ← idOf "id" id
      .ok (.updateConnection id (← bodyOf request draftDecoder))
  | .connection id, .delete => do .ok (.deleteConnection (← idOf "id" id))
  | .status, .get | .status, .head => .ok .status
  | _, _ => .error (.bare 405)

/-- The operation that a request asks for, or the response that refuses it. Questions about what is
allowed are answered for every path. -/
def Request.operation (request : Request) : Except Response Operation :=
  if request.method = .options then .error (.bare 200)
  else
    match Route.ofPath? request.path with
    | some route => route.operation request
    | none => .error (.bare 404)

/-- The response to a request and the state after it. -/
def respond (setup : Setup) (occasion : Occasion) (state : State) (request : Request) :
    Response × State :=
  let (response, state) :=
    match request.operation with
    | .error response => (response, state)
    | .ok operation =>
        match state.perform setup occasion operation with
        | (.ok outcome, state) => (.ofOutcome outcome, state)
        | (.error failure, state) => (.ofFailure failure, state)
  (if request.method = .head then { response with body := .empty } else response, state)

end QueryWarden.Web
