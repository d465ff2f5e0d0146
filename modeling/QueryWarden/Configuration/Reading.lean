import QueryWarden.Configuration.Coercion
import QueryWarden.Configuration.Settings

/-!
# Reading settings

From the tree of all layers to the settings. Sections are tables; a list stands for a section too,
its items taking the places of the fields. Values that are there are read before the first that is
missing is complained of.
-/

namespace QueryWarden.Configuration

open QueryWarden.Sql

/-- The fields of a section as they were found: each with the step to it, if it is there. -/
structure Section where
  name : String
  isList : Bool
  fields : List (String × Option (Step × Tree))

/-- The fields of a section. -/
def Tree.section? (tree : Tree) (name : String) (fields : List String) : Except Fault Section :=
  match tree with
  | .table _ members =>
      .ok ⟨name, false, fields.map fun field =>
        (field, (members.lookup field).map fun tree => (.key field, tree))⟩
  | .list _ items =>
      .ok ⟨name, true, fields.zipIdx.map fun (field, index) =>
        (field, items[index]?.map fun tree => (.index index, tree))⟩
  | tree =>
      .error (.unfit ("invalid type: " ++ tree.found.describeShape ++ ", expected struct " ++ name)
        [])

/-- The value of a field, if it is there. -/
def Section.read? {α : Type} (found : Section) (read : Tree → Except Fault α) (field : String) :
    Except Fault (Option α) :=
  match (found.fields.lookup field).join with
  | some (step, tree) => (placedAt step (read tree)).map some
  | none => .ok none

/-- What a list that is too short for the section is told. -/
def Section.tooShort (found : Section) (length : Nat) : Fault :=
  let count := found.fields.length
  .unfit ("invalid length " ++ toString length ++ ", expected struct " ++ found.name ++ " with " ++
    toString count ++ (if count = 1 then " element" else " elements")) []

/-- The value of a field, which must be there. -/
def Section.require {α : Type} (found : Section) (field : String) (value : Option α) :
    Except Fault α :=
  match value with
  | some value => .ok value
  | none =>
      if found.isList then
        .error (found.tooShort (found.fields.takeWhile fun entry => entry.1 != field).length)
      else .error (.missing [.key field])

/-- The value of a field that may be left out of a table, but not of a list. -/
def Section.orNothing {α : Type} (found : Section) (field : String) (value : Option (Option α)) :
    Except Fault (Option α) :=
  if found.isList then found.require field value else .ok value.join

/-! ## Sections -/

/-- The settings of the service's own database. -/
def Tree.toDatabase (tree : Tree) : Except Fault DatabaseSettings := do
  let found ← tree.section? "DatabaseConfig"
    ["connection_string", "pool_size", "query_timeout_secs"]
  let connectionString ← found.read? Tree.toText "connection_string"
  let poolSize ← found.read? Tree.toNatural "pool_size"
  let timeout ← found.read? Tree.toNatural "query_timeout_secs"
  .ok ⟨← found.require "connection_string" connectionString,
    ← found.require "pool_size" poolSize, ← found.require "query_timeout_secs" timeout⟩

/-- Where the service listens. -/
def Tree.toWeb (tree : Tree) : Except Fault WebSettings := do
  let found ← tree.section? "WebConfig" ["host", "port"]
  let host ← found.read? Tree.toText "host"
  let port ← found.read? Tree.toPort "port"
  .ok ⟨← found.require "host" host, ← found.require "port" port⟩

/-- The settings of the language model. -/
def Tree.toModel (tree : Tree) : Except Fault ModelSettings := do
  let found ← tree.section? "LlmConfig"
    ["backend", "model", "api_key", "api_url", "max_tokens", "temperature", "timeout_secs"]
  let backend ← found.read? Tree.toText "backend"
  let model ← found.read? Tree.toText "model"
  let apiKey ← found.read? Tree.toOptionalText "api_key"
  let apiUrl ← found.read? Tree.toOptionalText "api_url"
  let maxTokens ← found.read? Tree.toNatural "max_tokens"
  let temperature ← found.read? Tree.toFloat "temperature"
  let timeout ← found.read? Tree.toNatural "timeout_secs"
  .ok ⟨← found.require "backend" backend, ← found.require "model" model,
    ← found.orNothing "api_key" apiKey, ← found.orNothing "api_url" apiUrl,
    ← found.require "max_tokens" maxTokens,
    (← found.require "temperature" temperature).toFloat32,
    ← found.require "timeout_secs" timeout⟩

/-- How long schemas are cached. -/
def Tree.toSchemaCache (tree : Tree) : Except Fault SchemaCacheSettings := do
  let found ← tree.section? "SchemaCacheConfig" ["ttl_secs"]
  let lifetime ← found.read? Tree.toNatural "ttl_secs"
  .ok ⟨← found.require "ttl_secs" lifetime⟩

/-- What the validator refuses. -/
def Tree.toValidation (tree : Tree) : Except Fault ValidationSettings := do
  let found ← tree.section? "ValidationConfig" ["strict"]
  let isStrict ← found.read? Tree.toBool "strict"
  .ok ⟨← found.require "strict" isStrict⟩

/-- How connection strings are sealed. -/
def Tree.toSecurity (tree : Tree) : Except Fault SecuritySettings := do
  let found ← tree.section? "SecurityConfig" ["encryption_key"]
  let key ← found.read? Tree.toOptionalText "encryption_key"
  .ok ⟨← found.orNothing "encryption_key" key⟩

/-! ## Connections -/

/-- The dialect of a spelling. -/
def dialectOfSpelling (spelling : String) : Except Fault Dialect :=
  match Dialect.ofSpelling? spelling with
  | some dialect => .ok dialect
  | none =>
      .error (.unfit ("enum DialectTag does not have variant constructor " ++ spelling) [])

/-- A dialect: a spelling, or a table with a spelling as its only key. -/
def Tree.toDialect (tree : Tree) : Except Fault Dialect :=
  match tree with
  | .scalar _ (.text spelling) => dialectOfSpelling spelling
  | .table _ [(spelling, _)] => dialectOfSpelling spelling
  | _ =>
      .error (.unfit ("value of enum DialectTag should be represented by either string or table " ++
        "with exactly one key") [])

/-- A connection of the configuration. -/
def Tree.toConnection (tree : Tree) : Except Fault Connections.Settings := do
  let found ← tree.section? "ConnectionSettings" ["id", "name", "dialect", "connection_string"]
  let id ← found.read? Tree.toInteger "id"
  let name ← found.read? Tree.toText "name"
  let dialect ← found.read? Tree.toDialect "dialect"
  let connectionString ← found.read? Tree.toText "connection_string"
  .ok ⟨← found.require "id" id, ← found.require "name" name, ← found.require "dialect" dialect,
    ← found.require "connection_string" connectionString⟩

/-- The connections of the configuration. -/
def Tree.toConnections (tree : Tree) : Except Fault (List Connections.Settings) :=
  match tree with
  | .list _ items =>
      items.zipIdx.mapM fun (item, index) => placedAt (.index index) item.toConnection
  | tree =>
      .error (.unfit ("invalid type: " ++ tree.found.describeShape ++ ", expected a sequence") [])

/-! ## The whole -/

/-- All settings of a tree. -/
def Tree.toSettings (tree : Tree) : Except Fault Settings := do
  let found ← tree.section? "AppConfig"
    ["database", "web", "llm", "schema_cache", "validation", "security", "connections"]
  let database ← found.read? Tree.toDatabase "database"
  let web ← found.read? Tree.toWeb "web"
  let model ← found.read? Tree.toModel "llm"
  let schemaCache ← found.read? Tree.toSchemaCache "schema_cache"
  let validation ← found.read? Tree.toValidation "validation"
  let security ← found.read? Tree.toSecurity "security"
  let connections ← found.read? Tree.toConnections "connections"
  .ok
    { database := ← found.require "database" database
      web := ← found.require "web" web
      model := ← found.require "llm" model
      schemaCache := ← found.require "schema_cache" schemaCache
      validation := ← found.require "validation" validation
      security := security.getD ⟨none⟩
      connections := connections.getD [] }

end QueryWarden.Configuration
