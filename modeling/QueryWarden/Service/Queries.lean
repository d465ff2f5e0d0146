import QueryWarden.Service.State

/-!
# Queries and questions

The operations that turn a question into a query, run a query, and suggest questions. Each attempt
to generate or to run a query leaves one entry in the log, whether it succeeds or not, provided that
its connection is registered.
-/

namespace QueryWarden.Service

open QueryWarden.Connections QueryWarden.Database QueryWarden.Generation QueryWarden.History

/-- The answer to a question: what was generated, whether it may be run, and its entry in the
log. -/
structure Generated where
  answer : Answer
  isSuccessful : Bool
  historyId : Option Int
  deriving DecidableEq, Repr

/-- What is said when there is no question. -/
def blankQuestion : Failure := .badRequest "naturalLanguageQuery cannot be empty"

/-- Why a report is no success: what the validator said, or else the model's own explanation. -/
def reportError (report : Report) : Option String :=
  report.validationError.or
    (if report.answer.isFailure then some report.answer.explanation else none)

/-- A report as an attempt. -/
def reportAttempt (report : Report) (question : String) (id : Int) : Attempt :=
  ⟨some question, report.answer.sqlQuery, report.answer.explanation,
    report.answer.visualization.chart, id, report.isSuccessful, reportError report⟩

namespace State

/-- Turns a question about a connection's database into a query. -/
def generate (state : State) (setup : Setup) (occasion : Occasion) (question : String)
    (id : Int) : Except Failure Generated × State :=
  if Text.isBlankText question.toList then (.error blankQuestion, state)
  else
    match state.connection setup id with
    | .error failure => (.error failure, state)
    | .ok connection =>
        match state.load occasion connection with
        | (.error failure, state) =>
            (.error failure,
              state.recordFailure occasion (some question) errorSentinel id failure.message)
        | (.ok snapshot, state) =>
            let request : Request := ⟨question, snapshot, connection.dialect⟩
            match Generation.generate (state.nextModel setup) setup.validator request with
            | .error failure =>
                (.error (.ofModel failure),
                  state.prompted.recordFailure occasion (some question) errorSentinel id
                    failure.message)
            | .ok report =>
                let (historyId, state) :=
                  state.prompted.record occasion (reportAttempt report question id)
                (.ok ⟨report.answer, report.isSuccessful, historyId⟩, state)

/-- Runs a query on a connection's database, once the validator has let it pass. -/
def execute (state : State) (setup : Setup) (occasion : Occasion) (sql : String) (id : Int) :
    Except Failure QueryResult × State :=
  match state.connection setup id with
  | .error failure => (.error failure, state)
  | .ok connection =>
      let verdict := setup.validator.validate sql connection.dialect
      if verdict.isValid then
        match occasion.databases.execute connection.dialect connection.connectionString sql
            setup.queryLimit with
        | .error failure =>
            (.error (.ofDatabase failure),
              state.recordFailure occasion none sql id failure.message)
        | .ok result =>
            (.ok result, (state.record occasion ⟨none, sql, "", .table, id, true, none⟩).2)
      else
        let reason := verdict.reason.getD ""
        (.error (.validationRejected reason),
          state.recordFailure occasion none sql id ("Validation failed: " ++ reason))

/-- Suggests questions about a connection's database. -/
def suggest (state : State) (setup : Setup) (occasion : Occasion) (id : Int) :
    Except Failure (List String) × State :=
  match state.connection setup id with
  | .error failure => (.error failure, state)
  | .ok connection =>
      match state.load occasion connection with
      | (.error failure, state) => (.error failure, state)
      | (.ok snapshot, state) =>
          ((Generation.suggest (state.nextModel setup) snapshot connection.dialect).mapError
            Failure.ofModel, state.prompted)

end State

end QueryWarden.Service
