import QueryWarden.Connections.Connection

/-!
# Settings

What an operator can set, section by section, and what holds if nothing is set.
-/

namespace QueryWarden.Configuration

open QueryWarden.Json

/-- The service's own database. -/
structure DatabaseSettings where
  connectionString : String
  poolSize : Nat
  queryTimeoutSeconds : Nat
  deriving DecidableEq, Repr

/-- Where the service listens. -/
structure WebSettings where
  host : String
  port : Nat
  deriving DecidableEq, Repr

/-- The language model. -/
structure ModelSettings where
  backend : String
  model : String
  apiKey : Option String
  apiUrl : Option String
  maxTokens : Nat
  temperature : Float32
  timeoutSeconds : Nat

/-- How long schemas are cached. -/
structure SchemaCacheSettings where
  lifetimeSeconds : Nat
  deriving DecidableEq, Repr

/-- What the validator refuses. -/
structure ValidationSettings where
  isStrict : Bool
  deriving DecidableEq, Repr

/-- How connection strings are sealed. -/
structure SecuritySettings where
  encryptionKey : Option String
  deriving DecidableEq, Repr

/-- All settings. -/
structure Settings where
  database : DatabaseSettings
  web : WebSettings
  model : ModelSettings
  schemaCache : SchemaCacheSettings
  validation : ValidationSettings
  security : SecuritySettings
  connections : List Connections.Settings

/-- What holds if nothing is set. -/
def Settings.initial : Settings where
  database := ⟨"nl2sql-gate.db", 5, 30⟩
  web := ⟨"127.0.0.1", 3000⟩
  model := ⟨"anthropic", "claude-3-5-sonnet-latest", none, none, 2000, 0, 60⟩
  schemaCache := ⟨3600⟩
  validation := ⟨true⟩
  security := ⟨none⟩
  connections := []

/-! ## Writing -/

/-- The object for the model's settings. -/
def ModelSettings.toValue (settings : ModelSettings) : Value :=
  .object [("backend", .text settings.backend), ("model", .text settings.model),
    ("api_key", .ofOption settings.apiKey), ("api_url", .ofOption settings.apiUrl),
    ("max_tokens", .ofNat settings.maxTokens), ("temperature", .single settings.temperature),
    ("timeout_secs", .ofNat settings.timeoutSeconds)]

/-- The object for a connection of the configuration. -/
def connectionValue (settings : Connections.Settings) : Value :=
  .object [("id", .integer settings.id), ("name", .text settings.name),
    ("dialect", .text settings.dialect.tag),
    ("connection_string", .text settings.connectionString)]

/-- The object for all settings. -/
def Settings.toValue (settings : Settings) : Value :=
  .object
    [("database", .object [("connection_string", .text settings.database.connectionString),
       ("pool_size", .ofNat settings.database.poolSize),
       ("query_timeout_secs", .ofNat settings.database.queryTimeoutSeconds)]),
     ("web", .object [("host", .text settings.web.host), ("port", .ofNat settings.web.port)]),
     ("llm", settings.model.toValue),
     ("schema_cache", .object [("ttl_secs", .ofNat settings.schemaCache.lifetimeSeconds)]),
     ("validation", .object [("strict", .bool settings.validation.isStrict)]),
     ("security", .object [("encryption_key", .ofOption settings.security.encryptionKey)]),
     ("connections", .list (settings.connections.map connectionValue))]

end QueryWarden.Configuration
