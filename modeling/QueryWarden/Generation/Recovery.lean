import QueryWarden.Generation.Answer
import QueryWarden.Text.Pattern

/-!
# Recovering answers from free-form replies

A model wraps its answer in prose and code fences and breaks lines inside of texts. What is looked
for is the outermost pair of brackets; a reply that holds no readable answer becomes an answer that
says so.
-/

namespace QueryWarden.Generation

open QueryWarden.Json QueryWarden.Text

/-- The reply without code fences, trimmed. -/
def stripFences (raw : List Char) : List Char :=
  let fence := ['\x60', '\x60', '\x60']
  let opened := (exactly (fence ++ "json".toList)).replaceAll (fun _ => []) raw
  trim ((exactly fence).replaceAll (fun _ => []) opened)

/-- The text on one line: each line break becomes a space, and so does a carriage return followed
by a line feed. -/
def joinLines : List Char → List Char
  | [] => []
  | '\r' :: '\n' :: text => ' ' :: joinLines text
  | c :: text => (if c = '\n' || c = '\r' then ' ' else c) :: joinLines text

/-- The part of a reply that should be the answer's object. -/
def answerCandidate (raw : List Char) : List Char :=
  joinLines (outermost '\x7b' '\x7d' (stripFences raw))

/-- The answer in a reply. There always is one: an unreadable reply gives a failure with the
diagnosis. -/
def recoverAnswer (raw : String) : Answer :=
  let candidate := answerCandidate raw.toList
  match answerDecoder.document candidate with
  | .ok answer => answer
  | .error fault =>
      .failure errorSentinel
        ("Failed to parse AI response JSON. Raw: " ++ String.ofList candidate ++ ". Error: " ++
          fault.message candidate)

/-- The part of a reply that should be the list of questions. -/
def suggestionCandidate (raw : List Char) : List Char :=
  outermost '[' ']' (stripFences raw)

/-- The questions in a reply, or one entry with the diagnosis. -/
def recoverSuggestions (raw : String) : List String :=
  let candidate := suggestionCandidate raw.toList
  match (listDecoder stringDecoder).document candidate with
  | .ok questions => questions
  | .error fault =>
      ["Failed to generate suggestions. Raw: " ++ String.ofList candidate ++ ". Error: " ++
        fault.message candidate]

end QueryWarden.Generation
