import QueryWarden.Connections.Registry
import QueryWarden.Generation.Proposal
import QueryWarden.History.Store
import QueryWarden.Service.Failure
import QueryWarden.Targets.CachedSchema

/-!
# The state of the service

What the service keeps between operations, what it is set up with for good, and what an operation
meets outside. The log of attempts is best effort: an entry that cannot be written is left out.
-/

namespace QueryWarden.Service

open QueryWarden.Connections QueryWarden.Generation QueryWarden.History QueryWarden.Schema
open QueryWarden.Sql QueryWarden.Targets

/-- What a service is set up with. The model's replies may change from one prompt to the next: it is
told how many it has been sent before. -/
structure Setup where
  cipher : Cipher
  validator : Validator
  model : Nat → Model
  backendName : String
  queryLimit : Time.Span

/-- What an operation meets outside: the clocks, a fresh nonce and the databases as they are. -/
structure Occasion where
  now : Time.Timestamp
  times : Cache.LoadTimes
  uptimeSeconds : Int
  nonce : List UInt8
  databases : Databases

/-- What a service keeps. The log is missing once its table is lost. -/
structure State where
  registry : Registry
  cache : Cache
  history : Option Store
  promptsSent : Nat

/-- A service that knows no connections yet, with a lifetime for its cached schemas. -/
def State.initial (lifetime : Nat) : State :=
  ⟨.empty, .empty lifetime, some .empty, 0⟩

/-- What the registry needs from outside. -/
def Setup.circumstances (setup : Setup) (occasion : Occasion) : Circumstances :=
  ⟨setup.cipher, occasion.nonce, occasion.now⟩

/-! ## The log -/

/-- The log with one more attempt, and the id of its entry if it could be written. -/
def State.record (state : State) (occasion : Occasion) (attempt : Attempt) :
    Option Int × State :=
  match state.history with
  | none => (none, state)
  | some store =>
      let (outcome, store) := store.append occasion.now attempt
      (outcome.toOption.map Record.id, { state with history := some store })

/-- An attempt that came to nothing. -/
def failedAttempt (question : Option String) (sqlQuery : String) (id : Int) (message : String) :
    Attempt :=
  ⟨question, sqlQuery, "", .table, id, false, some message⟩

/-- The log with one more attempt that came to nothing. -/
def State.recordFailure (state : State) (occasion : Occasion) (question : Option String)
    (sqlQuery : String) (id : Int) (message : String) : State :=
  (state.record occasion (failedAttempt question sqlQuery id message)).2

/-- What is said when the log is gone. -/
def lostHistory : Database.Failure := .engine "the log is gone"

/-! ## Schemas -/

/-- A failure to have a schema. -/
def schemaFailure : Database.Failure → Failure
  | .notFound id => .ofDatabase (.notFound id)
  | failure => .schemaUnavailable failure.message

/-- The schema of a connection, cached or introspected. -/
def State.load (state : State) (occasion : Occasion) (connection : Connection) :
    Except Failure Snapshot × State :=
  let (outcome, cache) := state.cache.load occasion.times occasion.databases connection
  (outcome.mapError schemaFailure, { state with cache })

/-- The schema of a connection, introspected anew. -/
def State.reload (state : State) (occasion : Occasion) (connection : Connection) :
    Except Failure Snapshot × State :=
  let (outcome, cache) := state.cache.refresh occasion.times occasion.databases connection
  (outcome.mapError schemaFailure, { state with cache })

/-- The connection with an id, as the registry holds it. -/
def State.connection (state : State) (setup : Setup) (id : Int) : Except Failure Connection :=
  (state.registry.get setup.cipher id).mapError Failure.ofDatabase

/-- The model at its next prompt. -/
def State.nextModel (state : State) (setup : Setup) : Model :=
  setup.model state.promptsSent

/-- The state after one more prompt. -/
def State.prompted (state : State) : State :=
  { state with promptsSent := state.promptsSent + 1 }

end QueryWarden.Service
