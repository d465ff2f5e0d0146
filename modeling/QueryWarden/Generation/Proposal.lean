import QueryWarden.Generation.Failure
import QueryWarden.Generation.Prompt
import QueryWarden.Generation.Recovery
import QueryWarden.Schema.Relevance
import QueryWarden.Sql.Adaptation
import QueryWarden.Sql.Validator

/-!
# Proposing queries and questions

From a question to a query that may be shown: the prompt goes to the model, the reply is read, the
query is brought into the target's dialect and put before the validator. A query that the validator
refuses is withheld, and only the reason is told.
-/

namespace QueryWarden.Generation

open QueryWarden.Schema QueryWarden.Sql

/-- A language model: a prompt goes in, a reply or a failure comes out. -/
abbrev Model := Prompt → Except ModelFailure String

/-- A question about a database. -/
structure Request where
  question : String
  snapshot : Snapshot
  dialect : Dialect
  deriving Repr

/-- The answer to a question and what the validator had against it. -/
structure Report where
  answer : Answer
  validationError : Option String
  deriving DecidableEq, Repr

/-- The query may be shown as a proposal. -/
def Report.isSuccessful (report : Report) : Bool :=
  !report.answer.isFailure && report.validationError.isNone

/-- What is said instead of the explanation of a withheld query. -/
def blockedExplanation : String :=
  "The generated query was blocked by security policies."

/-- The prompt for a question, with the relevant part of the schema. -/
def Request.prompt (request : Request) : Prompt :=
  ⟨generationPrompt (request.snapshot.relevantTo request.question) request.dialect,
   request.question⟩

/-- The answer with its query withheld. -/
def Answer.withheld (answer : Answer) (reason : String) : Answer :=
  { answer with
    sqlQuery := errorSentinel ++ ": Validation failed. " ++ reason
    explanation := blockedExplanation }

/-- What becomes of a reply: its answer, adapted and checked. -/
def conclude (validator : Validator) (dialect : Dialect) (reply : String) : Report :=
  let answer := recoverAnswer reply
  if answer.isFailure then ⟨answer, none⟩
  else
    let answer := { answer with sqlQuery := adapt answer.sqlQuery dialect }
    let verdict := validator.validate answer.sqlQuery dialect
    if verdict.isValid then ⟨answer, none⟩
    else
      let reason := verdict.reason.getD ""
      ⟨answer.withheld reason, some reason⟩

/-- Asks the model for a query. -/
def generate (model : Model) (validator : Validator) (request : Request) :
    Except ModelFailure Report :=
  (model request.prompt).map (conclude validator request.dialect)

/-- The prompt for questions worth asking about a database. -/
def suggestionRequest (snapshot : Snapshot) (dialect : Dialect) : Prompt :=
  ⟨suggestionPrompt snapshot dialect, "Suggest 3 questions."⟩

/-- Asks the model for questions. -/
def suggest (model : Model) (snapshot : Snapshot) (dialect : Dialect) :
    Except ModelFailure (List String) :=
  (model (suggestionRequest snapshot dialect)).map recoverSuggestions

end QueryWarden.Generation
