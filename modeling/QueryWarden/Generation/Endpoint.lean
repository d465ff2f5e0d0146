import QueryWarden.Bytes.Utf8
import QueryWarden.Configuration.Settings
import QueryWarden.Generation.Proposal
import QueryWarden.Net.Url

/-!
# Endpoints of language models

The services that a prompt can be sent to: what each needs to be set up, what it is sent, and how
its answer is read. What an exchange over the network gives is left to the caller.
-/

namespace QueryWarden.Generation

open QueryWarden.Bytes QueryWarden.Configuration QueryWarden.Json QueryWarden.Net

/-- A kind of endpoint. -/
inductive Backend where
  | anthropic
  | remote
  | ollama
  deriving DecidableEq, Repr

namespace Backend

/-- The name that the settings use. -/
def name : Backend → String
  | .anthropic => "anthropic"
  | .remote => "remote"
  | .ollama => "ollama"

/-- The endpoint of a name. -/
def ofName? (name : String) : Option Backend :=
  [Backend.anthropic, .remote, .ollama].find? fun backend => backend.name == name

end Backend

/-- An endpoint that is set up. Only a local model needs no key. -/
structure Endpoint where
  backend : Backend
  url : String
  key : String
  model : String
  maxTokens : Nat
  temperature : Float32

/-- The endpoint that the settings describe. A key for Anthropic may come from the environment. -/
def Endpoint.ofSettings (settings : ModelSettings) (environmentKey : Option String) :
    Except ModelFailure Endpoint :=
  let endpoint (backend : Backend) (url key : String) : Endpoint :=
    ⟨backend, url, key, settings.model, settings.maxTokens, settings.temperature⟩
  let require (detail : String) (setting : Option String) : Except ModelFailure String :=
    match setting with
    | some value => .ok value
    | none => .error (.configuration detail)
  match Backend.ofName? settings.backend with
  | none => .error (.configuration ("Unsupported LLM backend: " ++ settings.backend))
  | some .anthropic => do
      let key ← require "API key is required for the anthropic backend"
        (settings.apiKey.or environmentKey)
      .ok (endpoint .anthropic (settings.apiUrl.getD "https://api.anthropic.com/v1/messages") key)
  | some .remote => do
      let url ← require "API URL is required for remote LLM provider" settings.apiUrl
      let key ← require "API key is required for remote LLM provider" settings.apiKey
      .ok (endpoint .remote url key)
  | some .ollama =>
      .ok (endpoint .ollama (settings.apiUrl.getD "http://localhost:11434/api/generate") "")

/-! ## What is sent -/

/-- A turn of a conversation. -/
def turnValue (role content : String) : Value :=
  .object [("role", .text role), ("content", .text content)]

/-- The body that carries a prompt. -/
def Endpoint.body (endpoint : Endpoint) (prompt : Prompt) : Value :=
  let model := ("model", Value.text endpoint.model)
  let maxTokens := ("max_tokens", Value.ofNat endpoint.maxTokens)
  let temperature := ("temperature", Value.single endpoint.temperature)
  match endpoint.backend with
  | .anthropic =>
      .object [model, maxTokens, temperature, ("system", .text prompt.system),
        ("messages", .list [turnValue "user" prompt.user])]
  | .remote =>
      .object [model,
        ("messages", .list [turnValue "system" prompt.system, turnValue "user" prompt.user]),
        temperature, maxTokens]
  | .ollama =>
      .object [model, ("system", .text prompt.system), ("prompt", .text prompt.user),
        ("stream", .bool false), ("options", .object [temperature])]

/-- The headers besides the content type. -/
def Endpoint.headers (endpoint : Endpoint) : List (String × String) :=
  match endpoint.backend with
  | .anthropic => [("x-api-key", endpoint.key), ("anthropic-version", "2023-06-01")]
  | .remote => [("Authorization", "Bearer " ++ endpoint.key)]
  | .ollama => []

/-- A text that may stand in a header: it has no control characters besides tabs. -/
def isHeaderText (text : String) : Bool :=
  text.toList.all fun c => c == '\t' || (decide (32 ≤ c.toNat) && c.toNat != 127)

/-- A request to an endpoint. -/
structure Call where
  url : Url
  headers : List (String × String)
  body : Value

/-- What came of a request. -/
inductive Exchange where
  | unreachable
  | answered (status : Nat) (body : List UInt8)
  deriving DecidableEq, Repr

/-- Trouble before or while a request was sent, with its URL. -/
def urlFailure (what : String) (url : Url) : ModelFailure :=
  .connection (what ++ " for url (" ++ url.text ++ ")")

/-- The request that carries a prompt, unless it cannot be built. -/
def Endpoint.call (endpoint : Endpoint) (prompt : Prompt) : Except ModelFailure Call :=
  match Url.parse endpoint.url.toList with
  | .error _ => .error (.connection "builder error")
  | .ok url =>
      if url.host.isNone then .error (urlFailure "builder error" url)
      else
        let url := url.withoutUser
        if !endpoint.headers.all fun header => isHeaderText header.2 then
          .error (.connection "builder error")
        else if !(["http".toList, "https".toList].contains url.scheme) then
          .error (urlFailure "builder error" url)
        else .ok ⟨url, endpoint.headers, endpoint.body prompt⟩

/-! ## What is answered -/

/-- A part of an answer from Anthropic. -/
structure ContentBlock where
  kind : String
  text : Option String
  deriving DecidableEq, Repr, Inhabited

/-- Reads a part of an answer from Anthropic. -/
def contentBlockDecoder : Decoder ContentBlock :=
  RecordShape.decoder
    ⟨"ContentBlock",
     [.required "type" [] stringDecoder fun block kind => { block with kind },
      .optional "text" [] (optionDecoder stringDecoder) fun block text => { block with text }]⟩
    default

/-- Reads a record with a single field that counts. -/
def soleField {α : Type} [Inhabited α] (record field : String) (decoder : Decoder α) : Decoder α :=
  RecordShape.decoder ⟨record, [.required field [] decoder fun _ value => value]⟩ default

/-- Reads an answer from Anthropic. -/
def contentDecoder : Decoder (List ContentBlock) :=
  soleField "MessagesResponse" "content" (listDecoder contentBlockDecoder)

/-- Reads the choices of a remote model. -/
def choicesDecoder : Decoder (List String) :=
  let message := soleField "ResponseMessage" "content" stringDecoder
  soleField "PromptResponse" "choices" (listDecoder (soleField "Choice" "message" message))

/-- Reads the answer of a local model. -/
def localDecoder : Decoder String :=
  RecordShape.decoder
    ⟨"OllamaResponse",
     [.required "response" [] stringDecoder fun _ response => response,
      .optional "done" [] (optionDecoder boolDecoder) fun response _ => response]⟩ default

/-- What is read from a body, or the failure to decode it. -/
def decodeBody {α : Type} (decoder : Decoder α) (body : List UInt8) : Except ModelFailure α :=
  match (decodeText body).toOption.bind fun text => (decoder.document text).toOption with
  | some value => .ok value
  | none => .error (.response "error decoding response body")

/-- The part of an answer that carries the reply, which must be there. -/
def orResponse (detail : String) (text : Option String) : Except ModelFailure String :=
  match text with
  | some text => .ok text
  | none => .error (.response detail)

/-- The reply in the body of an answer. -/
def Backend.readReply (backend : Backend) (body : List UInt8) : Except ModelFailure String :=
  match backend with
  | .anthropic => do
      let blocks ← decodeBody contentDecoder body
      orResponse "No text block in response"
        ((blocks.find? fun block => block.kind == "text").bind ContentBlock.text)
  | .remote => do
      let choices ← decodeBody choicesDecoder body
      orResponse "No choices in response" choices.head?
  | .ollama =>
      let text := decodeLenient body
      match localDecoder.document text with
      | .ok reply => .ok reply
      | .error fault =>
          .error (.response ("Failed to parse Ollama response: " ++ fault.message text ++
            " - Response was: " ++ String.ofList text))

/-- The status tells of success. -/
def isSuccess (status : Nat) : Bool := decide (200 ≤ status) && decide (status < 300)

/-- The model behind an endpoint, with what becomes of requests to it. -/
def Endpoint.send (endpoint : Endpoint) (exchange : Call → Exchange) : Model := fun prompt => do
  let call ← endpoint.call prompt
  match exchange call with
  | .unreachable => .error (urlFailure "error sending request" call.url)
  | .answered status body =>
      if isSuccess status then endpoint.backend.readReply body
      else .error (.declined status (String.ofList (decodeLenient body)))

end QueryWarden.Generation
