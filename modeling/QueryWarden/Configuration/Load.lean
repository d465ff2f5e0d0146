import QueryWarden.Configuration.CommandLine
import QueryWarden.Configuration.Reading
import QueryWarden.Toml.Document

/-!
# Loading settings

The layers from the lowest to the highest: what is built in, the configuration file, the variables
of the environment, the command line.
-/

namespace QueryWarden.Configuration

open QueryWarden.Text

/-- Texts of files by path. -/
abbrev TextFiles := List (String × String)

/-- Values of variables by name, the latest last. -/
abbrev Variables := List (String × String)

/-! ## What is built in -/

/-- A built-in text. -/
def builtText (value : String) : Tree := .scalar none (.text value)

/-- A built-in number. -/
def builtNatural (value : Nat) : Tree := .scalar none (.integer value)

/-- A built-in text, or nothing. -/
def builtOptional (value : Option String) : Tree := (value.map builtText).getD .nothing

/-- Settings as a layer. -/
def Settings.layer (settings : Settings) : Layer :=
  let database := settings.database
  let model := settings.model
  [("database", .table none [("connection_string", builtText database.connectionString),
      ("pool_size", builtNatural database.poolSize),
      ("query_timeout_secs", builtNatural database.queryTimeoutSeconds)]),
   ("web", .table none [("host", builtText settings.web.host),
      ("port", builtNatural settings.web.port)]),
   ("llm", .table none [("backend", builtText model.backend), ("model", builtText model.model),
      ("api_key", builtOptional model.apiKey), ("api_url", builtOptional model.apiUrl),
      ("max_tokens", builtNatural model.maxTokens),
      ("temperature", .scalar none (.float model.temperature.toFloat)),
      ("timeout_secs", builtNatural model.timeoutSeconds)]),
   ("schema_cache",
      .table none [("ttl_secs", builtNatural settings.schemaCache.lifetimeSeconds)]),
   ("validation", .table none [("strict", .scalar none (.bool settings.validation.isStrict))]),
   ("security", .table none [("encryption_key", builtOptional settings.security.encryptionKey)])]

/-! ## The configuration file -/

mutual

/-- A value of a document as a value of the configuration. -/
def treeOfValue (origin : Origin) : Toml.Value → Tree
  | .text value | .moment value => .scalar origin (.text (String.ofList value))
  | .integer value => .scalar origin (.integer value)
  | .float value => .scalar origin (.float value)
  | .bool value => .scalar origin (.bool value)
  | .list items => .list origin (treesOfItems origin items)
  | .table members => .table origin (treesOfMembers origin members)

/-- Items of a document as values of the configuration. -/
def treesOfItems (origin : Origin) : List Toml.Value → List Tree
  | [] => []
  | item :: items => treeOfValue origin item :: treesOfItems origin items

/-- Members of a document as values of the configuration. -/
def treesOfMembers (origin : Origin) : List (Toml.Key × Toml.Value) → List (String × Tree)
  | [] => []
  | (key, value) :: members =>
      (String.ofList key, treeOfValue origin value) :: treesOfMembers origin members

end

/-- The layer of a file. -/
def fileLayer (path text : String) : Except Fault Layer :=
  match Toml.parse? text.toList with
  | some members => .ok (treesOfMembers (some path) members)
  | none => .error .unreadableFile

/-- Where a configuration file is looked for unless one is named, in this order. -/
def defaultPaths : List String :=
  ["config.toml", "config/config.toml", "/etc/nl2sql-gate/config.toml"]

/-- The file at a path, if there is one. -/
def TextFiles.find? (files : TextFiles) (path : String) : Option (String × String) :=
  (files.lookup path).map fun text => (path, text)

/-- The layer of the file that is named, whose ending may be left out, or else of the first that is
found. -/
def chosenLayer (named : Option String) (files : TextFiles) : Except Fault Layer :=
  match named with
  | some path =>
      match (files.find? path).or (files.find? (path ++ ".toml")) with
      | some (path, text) => fileLayer path text
      | none => .error (.missingFile path)
  | none =>
      match defaultPaths.findSome? files.find? with
      | some (path, text) => fileLayer path text
      | none => .ok []

/-! ## Variables -/

/-- What the names of variables start with, in any case. -/
def variablePrefix : List Char := "nl2sql__".toList

/-- The name with two underscores in a row taken for a point. -/
def pointedName : List Char → List Char
  | '_' :: '_' :: text => '.' :: pointedName text
  | c :: text => c :: pointedName text
  | [] => []

/-- The layer of the variables. Of two variables with one name the later counts. -/
def variableLayer (assigned : Variables) : Layer :=
  assigned.filterMap fun (name, value) =>
    let name := lowercase name.toList
    if variablePrefix.isPrefixOf name then
      some (String.ofList (pointedName (name.drop variablePrefix.length)),
        .scalar (some "the environment") (.text value))
    else none

/-! ## The command line -/

/-- The settings with those of the command line put over them. -/
def CommandLine.over (line : CommandLine) (settings : Settings) : Settings :=
  { settings with
    web := ⟨line.host.getD settings.web.host, line.port.getD settings.web.port⟩
    database :=
      { settings.database with
        connectionString := line.database.getD settings.database.connectionString }
    model :=
      { settings.model with
        backend := line.backend.getD settings.model.backend
        model := line.model.getD settings.model.model } }

/-- The settings of a command line, among files and variables. -/
def load (line : CommandLine) (files : TextFiles) (assigned : Variables) :
    Except Fault Settings := do
  let file ← chosenLayer line.config files
  let tree := Tree.ofLayers [Settings.initial.layer, file, variableLayer assigned]
  .ok (line.over (← tree.toSettings))

end QueryWarden.Configuration
