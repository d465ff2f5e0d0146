/-!
# Failures of a language model

Why no reply could be had from a model, and how that is worded.
-/

namespace QueryWarden.Generation

/-- Why there is no reply. -/
inductive ModelFailure where
  /-- The endpoint was not reached. -/
  | connection (detail : String)
  /-- The endpoint answered with another status than success. -/
  | declined (status : Nat) (body : String)
  /-- The reply was not understood. -/
  | response (detail : String)
  /-- The backend is not set up. -/
  | configuration (detail : String)
  deriving DecidableEq, Repr

/-- The failure in words. -/
def ModelFailure.message : ModelFailure → String
  | .connection detail => "LLM connection error: " ++ detail
  | .declined status body =>
      "LLM API responded with status " ++ toString status ++ ": " ++ body
  | .response detail => "LLM response error: " ++ detail
  | .configuration detail => "LLM configuration error: " ++ detail

end QueryWarden.Generation
