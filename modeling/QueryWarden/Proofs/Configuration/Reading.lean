import QueryWarden.Configuration.Load
import QueryWarden.Proofs.Configuration.Merging
import QueryWarden.Proofs.Outcome

/-!
# Where settings are read

Each setting is read from one place of the tree: the value under its key in a section that is a
table, or the item at its position in a section that is a list. What is not there keeps the setting
from being read at all, unless it may be left out.
-/

namespace QueryWarden.Configuration

/-! ## Parts of a section -/

/-- The part of a section with a key and a position. -/
def Tree.part? (tree : Tree) (key : String) (position : Nat) : Option Tree :=
  match tree with
  | .table _ members => members.lookup key
  | .list _ items => items[position]?
  | .scalar _ _ => none

theorem Tree.part?_of_isTable {tree : Tree} (htree : tree.IsTable) (key : String)
    (position : Nat) : tree.part? key position = tree.member? key := by
  obtain ⟨origin, members, rfl⟩ := htree
  rfl

section Parts

variable {α : Type} {tree : Tree} {name key : String} {fields : List String} {position : Nat}
  {found : Section} {read : Tree → Except Fault α} {value? : Option α} {value : α}

theorem lookup_map_fields {β : Type} (part : String → β) (hkey : key ∈ fields) :
    (fields.map fun field => (field, part field)).lookup key = some (part key) := by
  induction fields with
  | nil => simp at hkey
  | cons field fields ih =>
      rw [List.map_cons, List.lookup_cons]
      by_cases hfield : key = field
      · simp [hfield]
      · rw [beq_false_of_ne hfield]
        exact ih ((List.mem_cons.mp hkey).resolve_left hfield)

theorem lookup_map_zipIdx {β : Type} (part : Nat → β) (hkey : fields.idxOf? key = some position)
    (start : Nat) : ((fields.zipIdx start).map fun entry => (entry.1, part entry.2)).lookup key =
      some (part (start + position)) := by
  induction fields generalizing start position with
  | nil => simp at hkey
  | cons field fields ih =>
      rw [List.zipIdx_cons, List.map_cons, List.lookup_cons]
      rw [List.idxOf?_cons] at hkey
      by_cases hfield : key = field
      · subst hfield
        obtain rfl : 0 = position := by simpa using hkey
        simp
      · rw [beq_false_of_ne (Ne.symm hfield)] at hkey
        obtain ⟨next, hnext, rfl⟩ := Option.map_eq_some_iff.mp hkey
        rw [beq_false_of_ne hfield]
        have hrest := ih hnext (start + 1)
        rwa [Nat.add_assoc, Nat.add_comm 1] at hrest

theorem placedAt_eq_ok_iff {step : Step} {outcome : Except Fault α} :
    placedAt step outcome = .ok value ↔ outcome = .ok value := by
  cases outcome <;> simp [placedAt, Except.mapError]

theorem fields_of_section? (hfound : tree.section? name fields = .ok found)
    (hkey : fields.idxOf? key = some position) :
    ∃ step, (found.fields.lookup key).join =
      (tree.part? key position).map fun part => (step, part) := by
  cases tree with
  | scalar => cases hfound
  | table origin members =>
      obtain rfl := Except.ok.inj hfound
      have hmem : key ∈ fields := by
        refine Decidable.byContradiction fun hnot => ?_
        rw [List.idxOf?_eq_none_iff.mpr hnot] at hkey
        cases hkey
      exact ⟨.key key, by rw [lookup_map_fields _ hmem]; rfl⟩
  | list origin items =>
      obtain rfl := Except.ok.inj hfound
      refine ⟨.index position, ?_⟩
      rw [lookup_map_zipIdx (fun index => items[index]?.map fun tree => (Step.index index, tree))
        hkey, Nat.zero_add]
      rfl

/-- A field is read from its part of the section. -/
theorem map_part?_eq (hfound : tree.section? name fields = .ok found)
    (hkey : fields.idxOf? key = some position) (hread : found.read? read key = .ok value?) :
    (tree.part? key position).map read = value?.map .ok := by
  obtain ⟨step, hfields⟩ := fields_of_section? hfound hkey
  rw [Section.read?, hfields] at hread
  cases hpart : tree.part? key position with
  | none =>
      rw [hpart] at hread
      obtain rfl := Except.ok.inj hread
      rfl
  | some part =>
      rw [hpart] at hread
      obtain ⟨value, hvalue, rfl⟩ := map_eq_ok_iff.mp hread
      rw [Option.map_some, placedAt_eq_ok_iff.mp hvalue]
      rfl

theorem require_eq_ok_iff : found.require key value? = .ok value ↔ value? = some value := by
  cases value? with
  | none =>
      rw [Section.require]
      split <;> simp
  | some => simp [Section.require]

theorem orNothing_eq_ok {value? : Option (Option α)} {value : Option α}
    (hvalue : found.orNothing key value? = .ok value) : value?.getD none = value := by
  rw [Section.orNothing] at hvalue
  split at hvalue
  next =>
    rw [require_eq_ok_iff.mp hvalue]
    rfl
  next =>
    rw [← Except.ok.inj hvalue]
    cases value? <;> rfl

/-- A field that must be there. -/
theorem map_part?_of_require (hfound : tree.section? name fields = .ok found)
    (hkey : fields.idxOf? key = some position) (hread : found.read? read key = .ok value?)
    (hvalue : found.require key value? = .ok value) :
    (tree.part? key position).map read = some (.ok value) := by
  rw [map_part?_eq hfound hkey hread, require_eq_ok_iff.mp hvalue]
  rfl

/-- A field that may be left out. -/
theorem map_part?_getD (hfound : tree.section? name fields = .ok found)
    (hkey : fields.idxOf? key = some position) (hread : found.read? read key = .ok value?)
    (absent : α) :
    ((tree.part? key position).map read).getD (.ok absent) = .ok (value?.getD absent) := by
  rw [map_part?_eq hfound hkey hread]
  cases value? <;> rfl

end Parts

/-! ## Sections -/

section Sections

variable {tree : Tree}

theorem toDatabase_eq_ok {settings : DatabaseSettings} (hread : tree.toDatabase = .ok settings) :
    (tree.part? "connection_string" 0).map Tree.toText = some (.ok settings.connectionString) ∧
      (tree.part? "pool_size" 1).map Tree.toNatural = some (.ok settings.poolSize) ∧
      (tree.part? "query_timeout_secs" 2).map Tree.toNatural =
        some (.ok settings.queryTimeoutSeconds) := by
  simp only [Tree.toDatabase, bind_eq_ok_iff, Except.ok.injEq] at hread
  obtain ⟨found, hfound, _, hstring, _, hpool, _, htimeout, _, hstring', _, hpool', _, htimeout',
    rfl⟩ := hread
  exact ⟨map_part?_of_require hfound rfl hstring hstring',
    map_part?_of_require hfound rfl hpool hpool',
    map_part?_of_require hfound rfl htimeout htimeout'⟩

theorem toWeb_eq_ok {settings : WebSettings} (hread : tree.toWeb = .ok settings) :
    (tree.part? "host" 0).map Tree.toText = some (.ok settings.host) ∧
      (tree.part? "port" 1).map Tree.toPort = some (.ok settings.port) := by
  simp only [Tree.toWeb, bind_eq_ok_iff, Except.ok.injEq] at hread
  obtain ⟨found, hfound, _, hhost, _, hport, _, hhost', _, hport', rfl⟩ := hread
  exact ⟨map_part?_of_require hfound rfl hhost hhost',
    map_part?_of_require hfound rfl hport hport'⟩

theorem toSchemaCache_eq_ok {settings : SchemaCacheSettings}
    (hread : tree.toSchemaCache = .ok settings) :
    (tree.part? "ttl_secs" 0).map Tree.toNatural = some (.ok settings.lifetimeSeconds) := by
  simp only [Tree.toSchemaCache, bind_eq_ok_iff, Except.ok.injEq] at hread
  obtain ⟨found, hfound, _, hlifetime, _, hlifetime', rfl⟩ := hread
  exact map_part?_of_require hfound rfl hlifetime hlifetime'

theorem toValidation_eq_ok {settings : ValidationSettings}
    (hread : tree.toValidation = .ok settings) :
    (tree.part? "strict" 0).map Tree.toBool = some (.ok settings.isStrict) := by
  simp only [Tree.toValidation, bind_eq_ok_iff, Except.ok.injEq] at hread
  obtain ⟨found, hfound, _, hstrict, _, hstrict', rfl⟩ := hread
  exact map_part?_of_require hfound rfl hstrict hstrict'

theorem toSecurity_eq_ok {settings : SecuritySettings} (hread : tree.toSecurity = .ok settings) :
    ((tree.part? "encryption_key" 0).map Tree.toOptionalText).getD (.ok none) =
      .ok settings.encryptionKey := by
  simp only [Tree.toSecurity, bind_eq_ok_iff, Except.ok.injEq] at hread
  obtain ⟨found, hfound, _, hkey, _, hkey', rfl⟩ := hread
  rw [map_part?_getD hfound rfl hkey, orNothing_eq_ok hkey']

/-- Where the settings of the language model are read; two of them may be left out. -/
structure ModelParts (tree : Tree) (settings : ModelSettings) : Prop where
  backend : (tree.part? "backend" 0).map Tree.toText = some (.ok settings.backend)
  model : (tree.part? "model" 1).map Tree.toText = some (.ok settings.model)
  apiKey : ((tree.part? "api_key" 2).map Tree.toOptionalText).getD (.ok none) =
    .ok settings.apiKey
  apiUrl : ((tree.part? "api_url" 3).map Tree.toOptionalText).getD (.ok none) =
    .ok settings.apiUrl
  maxTokens : (tree.part? "max_tokens" 4).map Tree.toNatural = some (.ok settings.maxTokens)
  temperature : (tree.part? "temperature" 5).map (fun part => part.toFloat.map Float.toFloat32) =
    some (.ok settings.temperature)
  timeout : (tree.part? "timeout_secs" 6).map Tree.toNatural = some (.ok settings.timeoutSeconds)

theorem toModel_eq_ok {settings : ModelSettings} (hread : tree.toModel = .ok settings) :
    ModelParts tree settings := by
  simp only [Tree.toModel, bind_eq_ok_iff, Except.ok.injEq] at hread
  obtain ⟨found, hfound, _, hbackend, _, hmodel, _, hkey, _, hurl, _, htokens, _, htemperature, _,
    htimeout, _, hbackend', _, hmodel', _, hkey', _, hurl', _, htokens', _, htemperature', _,
    htimeout', rfl⟩ := hread
  refine ⟨map_part?_of_require hfound rfl hbackend hbackend',
    map_part?_of_require hfound rfl hmodel hmodel', ?_, ?_,
    map_part?_of_require hfound rfl htokens htokens', ?_,
    map_part?_of_require hfound rfl htimeout htimeout'⟩
  · rw [map_part?_getD hfound rfl hkey, orNothing_eq_ok hkey']
  · rw [map_part?_getD hfound rfl hurl, orNothing_eq_ok hurl']
  · obtain ⟨part, hpart, hvalue⟩ := Option.map_eq_some_iff.mp
      (map_part?_of_require hfound rfl htemperature htemperature')
    rw [hpart, Option.map_some, hvalue]
    rfl

/-- Where the sections are read; two of them may be left out. -/
structure SettingsParts (tree : Tree) (settings : Settings) : Prop where
  database : (tree.member? "database").map Tree.toDatabase = some (.ok settings.database)
  web : (tree.member? "web").map Tree.toWeb = some (.ok settings.web)
  model : (tree.member? "llm").map Tree.toModel = some (.ok settings.model)
  schemaCache : (tree.member? "schema_cache").map Tree.toSchemaCache =
    some (.ok settings.schemaCache)
  validation : (tree.member? "validation").map Tree.toValidation = some (.ok settings.validation)
  security : ((tree.member? "security").map Tree.toSecurity).getD (.ok ⟨none⟩) =
    .ok settings.security
  connections : ((tree.member? "connections").map Tree.toConnections).getD (.ok []) =
    .ok settings.connections

theorem toSettings_eq_ok {settings : Settings} (htree : tree.IsTable)
    (hread : tree.toSettings = .ok settings) : SettingsParts tree settings := by
  simp only [Tree.toSettings, bind_eq_ok_iff, Except.ok.injEq] at hread
  obtain ⟨found, hfound, _, hdatabase, _, hweb, _, hmodel, _, hcache, _, hvalidation, security,
    hsecurity, connections, hconnections, _, hdatabase', _, hweb', _, hmodel', _, hcache', _,
    hvalidation', rfl⟩ := hread
  obtain ⟨_, _, rfl⟩ := htree
  exact ⟨map_part?_of_require hfound rfl hdatabase hdatabase',
    map_part?_of_require hfound rfl hweb hweb', map_part?_of_require hfound rfl hmodel hmodel',
    map_part?_of_require hfound rfl hcache hcache',
    map_part?_of_require hfound rfl hvalidation hvalidation',
    map_part?_getD hfound rfl hsecurity _, map_part?_getD hfound rfl hconnections _⟩

end Sections

/-! ## Settings with a single value -/

/-- A setting with a single value. -/
inductive Setting where
  | connectionString | poolSize | queryTimeout
  | host | port
  | backend | model | apiKey | apiUrl | maxTokens | temperature | modelTimeout
  | lifetime
  | isStrict
  | encryptionKey
  deriving DecidableEq, Repr

/-- A place in the configuration: a key of a section, which is an item if the section is a list. -/
structure Place where
  sectionName : String
  key : String
  position : Nat
  deriving DecidableEq, Repr

/-- The part of a tree at a place. -/
def Tree.at? (tree : Tree) (place : Place) : Option Tree :=
  (tree.member? place.sectionName).bind fun part => part.part? place.key place.position

namespace Setting

/-- All of them. -/
def all : List Setting :=
  [connectionString, poolSize, queryTimeout, host, port, backend, model, apiKey, apiUrl, maxTokens,
    temperature, modelTimeout, lifetime, isStrict, encryptionKey]

/-- Where the setting stands. -/
def place : Setting → Place
  | connectionString => ⟨"database", "connection_string", 0⟩
  | poolSize => ⟨"database", "pool_size", 1⟩
  | queryTimeout => ⟨"database", "query_timeout_secs", 2⟩
  | host => ⟨"web", "host", 0⟩
  | port => ⟨"web", "port", 1⟩
  | backend => ⟨"llm", "backend", 0⟩
  | model => ⟨"llm", "model", 1⟩
  | apiKey => ⟨"llm", "api_key", 2⟩
  | apiUrl => ⟨"llm", "api_url", 3⟩
  | maxTokens => ⟨"llm", "max_tokens", 4⟩
  | temperature => ⟨"llm", "temperature", 5⟩
  | modelTimeout => ⟨"llm", "timeout_secs", 6⟩
  | lifetime => ⟨"schema_cache", "ttl_secs", 0⟩
  | isStrict => ⟨"validation", "strict", 0⟩
  | encryptionKey => ⟨"security", "encryption_key", 0⟩

/-- What its values are. -/
def Value : Setting → Type
  | connectionString | host | backend | model => String
  | apiKey | apiUrl | encryptionKey => Option String
  | poolSize | queryTimeout | port | maxTokens | modelTimeout | lifetime => Nat
  | temperature => Float32
  | isStrict => Bool

/-- How a value is read. -/
def read : (setting : Setting) → Tree → Except Fault setting.Value
  | connectionString | host | backend | model => Tree.toText
  | apiKey | apiUrl | encryptionKey => Tree.toOptionalText
  | poolSize | queryTimeout | maxTokens | modelTimeout | lifetime => Tree.toNatural
  | port => Tree.toPort
  | temperature => fun tree => tree.toFloat.map Float.toFloat32
  | isStrict => Tree.toBool

/-- Its value among all settings. -/
def of : (setting : Setting) → Settings → setting.Value
  | connectionString, settings => settings.database.connectionString
  | poolSize, settings => settings.database.poolSize
  | queryTimeout, settings => settings.database.queryTimeoutSeconds
  | host, settings => settings.web.host
  | port, settings => settings.web.port
  | backend, settings => settings.model.backend
  | model, settings => settings.model.model
  | apiKey, settings => settings.model.apiKey
  | apiUrl, settings => settings.model.apiUrl
  | maxTokens, settings => settings.model.maxTokens
  | temperature, settings => settings.model.temperature
  | modelTimeout, settings => settings.model.timeoutSeconds
  | lifetime, settings => settings.schemaCache.lifetimeSeconds
  | isStrict, settings => settings.validation.isStrict
  | encryptionKey, settings => settings.security.encryptionKey

/-- What holds if nothing is set. Layers hold numbers in double precision, so the temperature makes
a detour there. -/
def builtIn : (setting : Setting) → setting.Value
  | temperature => Settings.initial.model.temperature.toFloat.toFloat32
  | setting => setting.of Settings.initial

/-- What the command line says. -/
def given? : (setting : Setting) → CommandLine → Option setting.Value
  | connectionString, line => line.database
  | host, line => line.host
  | port, line => line.port
  | backend, line => line.backend
  | model, line => line.model
  | _, _ => none

theorem mem_all (setting : Setting) : setting ∈ all := by
  cases setting <;> decide

end Setting

section Whole

variable {α β : Type} {tree : Tree} {place : Place} {readSection : Tree → Except Fault β}
  {sectionSettings : β} {read : Tree → Except Fault α} {value absent : α}

/-- From a section that is there to a part of it. -/
theorem map_at?_eq (hsection : (tree.member? place.sectionName).map readSection =
      some (.ok sectionSettings))
    (hpart : ∀ {part : Tree}, readSection part = .ok sectionSettings →
      ((part.part? place.key place.position).map read).getD (.ok absent) = .ok value) :
    ((tree.at? place).map read).getD (.ok absent) = .ok value := by
  obtain ⟨part, hmember, hread⟩ := Option.map_eq_some_iff.mp hsection
  rw [Tree.at?, hmember, Option.bind_some]
  exact hpart hread

theorem getD_of_eq_some (hvalue : ((tree.part? place.key place.position).map read) =
      some (.ok value)) :
    ((tree.part? place.key place.position).map read).getD (.ok absent) = .ok value := by
  rw [hvalue]
  rfl

/-- Every setting is read from its place, and has its built-in value if nothing is there. -/
theorem map_at?_setting {settings : Settings} (htree : tree.IsTable)
    (hread : tree.toSettings = .ok settings) (setting : Setting) :
    ((tree.at? setting.place).map setting.read).getD (.ok setting.builtIn) =
      .ok (setting.of settings) := by
  have hparts := toSettings_eq_ok htree hread
  cases setting with
  | connectionString =>
      exact map_at?_eq hparts.database fun h => getD_of_eq_some (toDatabase_eq_ok h).1
  | poolSize =>
      exact map_at?_eq hparts.database fun h => getD_of_eq_some (toDatabase_eq_ok h).2.1
  | queryTimeout =>
      exact map_at?_eq hparts.database fun h => getD_of_eq_some (toDatabase_eq_ok h).2.2
  | host => exact map_at?_eq hparts.web fun h => getD_of_eq_some (toWeb_eq_ok h).1
  | port => exact map_at?_eq hparts.web fun h => getD_of_eq_some (toWeb_eq_ok h).2
  | backend => exact map_at?_eq hparts.model fun h => getD_of_eq_some (toModel_eq_ok h).backend
  | model => exact map_at?_eq hparts.model fun h => getD_of_eq_some (toModel_eq_ok h).model
  | apiKey => exact map_at?_eq hparts.model fun h => (toModel_eq_ok h).apiKey
  | apiUrl => exact map_at?_eq hparts.model fun h => (toModel_eq_ok h).apiUrl
  | maxTokens => exact map_at?_eq hparts.model fun h => getD_of_eq_some (toModel_eq_ok h).maxTokens
  | temperature =>
      exact map_at?_eq hparts.model fun h => getD_of_eq_some (toModel_eq_ok h).temperature
  | modelTimeout => exact map_at?_eq hparts.model fun h => getD_of_eq_some (toModel_eq_ok h).timeout
  | lifetime =>
      exact map_at?_eq hparts.schemaCache fun h => getD_of_eq_some (toSchemaCache_eq_ok h)
  | isStrict => exact map_at?_eq hparts.validation fun h => getD_of_eq_some (toValidation_eq_ok h)
  | encryptionKey =>
      have hsecurity := hparts.security
      cases hmember : tree.member? "security" with
      | none =>
          rw [hmember] at hsecurity
          have hnone : tree.at? Setting.encryptionKey.place = none := by
            rw [Tree.at?, Setting.place, hmember]
            rfl
          rw [hnone, Setting.of, ← Except.ok.inj hsecurity]
          rfl
      | some part =>
          rw [hmember] at hsecurity
          rw [Tree.at?, Setting.place, hmember]
          exact toSecurity_eq_ok hsecurity

end Whole

end QueryWarden.Configuration
