import QueryWarden.Proofs.Connections.Changes
import QueryWarden.Proofs.Schema.Cache
import QueryWarden.Service.Operation

/-!
# What operations do to connections and schemas

An operation that uses the schema of a registered connection fetches it, from the cache or from the
database, and what it gives is made of what it fetched. The other operations leave connections and
schemas alone, add a connection under a new id, or change what one id stands for.
-/

namespace QueryWarden.Service

open QueryWarden.Connections QueryWarden.Generation QueryWarden.Schema QueryWarden.Sql

/-! ## Operations that use a schema -/

/-- The id whose schema an operation uses. A blank question is turned down before it uses any. -/
def Operation.schemaId? : Operation → Option Int
  | .generate question id => if Text.isBlankText question.toList then none else some id
  | .suggest id | .schema id | .refreshSchema id => some id
  | _ => none

/-- An operation introspects the database of a connection: it uses the schema, which the cache does
not have or which is to be had anew. -/
structure State.Introspects (state : State) (setup : Setup) (occasion : Occasion)
    (operation : Operation) (connection : Connection) (snapshot : Snapshot) : Prop where
  asked : operation.schemaId? = some connection.id
  registered : state.connection setup connection.id = .ok connection
  missed : operation = .refreshSchema connection.id ∨
    state.cache.get? occasion.times.asked (Cache.keyOf connection) = none
  answered : occasion.databases.introspect connection.dialect connection.connectionString =
    .ok snapshot

/-- What an operation gives is made of a snapshot: it is shown to the client, or the model is asked
with it and its reply decides. -/
inductive State.MadeFrom (state : State) (setup : Setup) (dialect : Dialect)
    (snapshot : Snapshot) : Operation → Except Failure Outcome → Prop
  | schema (id : Int) : MadeFrom state setup dialect snapshot (.schema id) (.ok (.snapshot snapshot))
  | refreshSchema (id : Int) :
      MadeFrom state setup dialect snapshot (.refreshSchema id) (.ok (.snapshot snapshot))
  | suggest (id : Int) :
      MadeFrom state setup dialect snapshot (.suggest id)
        (((Generation.suggest (state.nextModel setup) snapshot dialect).mapError
          Failure.ofModel).map .questions)
  | answered (question : String) (id : Int) (report : Report) (historyId : Option Int)
      (hreport : Generation.generate (state.nextModel setup) setup.validator
        ⟨question, snapshot, dialect⟩ = .ok report) :
      MadeFrom state setup dialect snapshot (.generate question id)
        (.ok (.generated ⟨report.answer, report.isSuccessful, historyId⟩))
  | declined (question : String) (id : Int) (failure : ModelFailure)
      (hfailure : Generation.generate (state.nextModel setup) setup.validator
        ⟨question, snapshot, dialect⟩ = .error failure) :
      MadeFrom state setup dialect snapshot (.generate question id) (.error (.ofModel failure))

section Connections

variable {state : State} {setup : Setup} {id : Int} {connection : Connection}

theorem State.connection_eq_ok_iff :
    state.connection setup id = .ok connection ↔
      state.registry.get setup.cipher id = .ok connection := by
  rw [State.connection]
  cases state.registry.get setup.cipher id <;> simp [Except.mapError]

theorem State.id_of_connection (hconnection : state.connection setup id = .ok connection) :
    connection.id = id :=
  Registry.id_of_get (connection_eq_ok_iff.mp hconnection)

theorem State.find?_ne_none_of_connection
    (hconnection : state.connection setup id = .ok connection) :
    state.registry.find? id ≠ none := by
  obtain ⟨row, hfound, -⟩ := Registry.get_eq_ok_iff.mp (connection_eq_ok_iff.mp hconnection)
  rw [hfound]
  exact Option.some_ne_none row

theorem State.connection_congr {next : State}
    (hfind : next.registry.find? id = state.registry.find? id) :
    next.connection setup id = state.connection setup id := by
  rw [State.connection, State.connection, Registry.get_congr hfind]

end Connections

/-! ## Using a schema -/

/-- The schema that an operation uses, and the state once it has it. -/
def State.fetch (state : State) (occasion : Occasion) (connection : Connection) :
    Operation → Except Failure Snapshot × State
  | .refreshSchema _ => state.reload occasion connection
  | _ => state.load occasion connection

/-- An operation uses what it fetched: it fails as fetching does, or gives what is made of the
schema, and only fetching writes to the cache. -/
structure Uses (state : State) (setup : Setup) (operation : Operation) (connection : Connection)
    (fetched : Except Failure Snapshot × State) (done : Except Failure Outcome × State) : Prop where
  registry : done.2.registry = fetched.2.registry
  cache : done.2.cache = fetched.2.cache
  failed : ∀ failure, fetched.1 = .error failure →
    done.1 = .error failure ∧ done.2.promptsSent = fetched.2.promptsSent
  made : ∀ snapshot, fetched.1 = .ok snapshot →
    state.MadeFrom setup connection.dialect snapshot operation done.1

section Uses

variable {state : State} {setup : Setup} {occasion : Occasion} {connection : Connection}

/-- Writing to the log leaves the rest of the state alone. -/
theorem State.record_eq (state : State) (occasion : Occasion) (attempt : History.Attempt) :
    ∃ history, (state.record occasion attempt).2 = { state with history } := by
  rw [record]
  split
  · exact ⟨_, rfl⟩
  · exact ⟨_, rfl⟩

theorem State.recordFailure_eq (state : State) (occasion : Occasion) (question : Option String)
    (sql : String) (id : Int) (message : String) :
    ∃ history, state.recordFailure occasion question sql id message = { state with history } :=
  state.record_eq ..

theorem State.generate_uses {question : String} {id : Int}
    (hquestion : Text.isBlankText question.toList = false)
    (hconnection : state.connection setup id = .ok connection) :
    Uses state setup (.generate question id) connection (state.load occasion connection)
      (state.perform setup occasion (.generate question id)) := by
  have hsent : (state.load occasion connection).2.promptsSent = state.promptsSent := rfl
  simp only [perform, generate, hquestion, hconnection, Bool.false_eq_true, if_false]
  rcases hload : state.load occasion connection with ⟨failure | snapshot, loaded⟩
  · obtain ⟨history, hrecorded⟩ := loaded.recordFailure_eq occasion (some question) errorSentinel id
      failure.message
    simp only [hrecorded]
    exact ⟨rfl, rfl, fun _ hfailure => ⟨congrArg _ (Except.error.inj hfailure), rfl⟩, nofun⟩
  · rw [hload] at hsent
    have hmodel : loaded.nextModel setup = state.nextModel setup := congrArg setup.model hsent
    simp only [hmodel]
    cases hreply : Generation.generate (state.nextModel setup) setup.validator
        ⟨question, snapshot, connection.dialect⟩ with
    | error failure =>
        obtain ⟨history, hrecorded⟩ := loaded.prompted.recordFailure_eq occasion (some question)
          errorSentinel id failure.message
        simp only [hrecorded]
        refine ⟨rfl, rfl, nofun, fun _ hsnapshot => ?_⟩
        obtain rfl := Except.ok.inj hsnapshot
        exact .declined question id failure hreply
    | ok report =>
        obtain ⟨history, hrecorded⟩ := loaded.prompted.record_eq occasion
          (reportAttempt report question id)
        simp only [hrecorded]
        refine ⟨rfl, rfl, nofun, fun _ hsnapshot => ?_⟩
        obtain rfl := Except.ok.inj hsnapshot
        exact .answered question id report _ hreply

theorem State.suggest_uses {id : Int} (hconnection : state.connection setup id = .ok connection) :
    Uses state setup (.suggest id) connection (state.load occasion connection)
      (state.perform setup occasion (.suggest id)) := by
  have hsent : (state.load occasion connection).2.promptsSent = state.promptsSent := rfl
  simp only [perform, suggest, hconnection]
  rcases hload : state.load occasion connection with ⟨failure | snapshot, loaded⟩
  · exact ⟨rfl, rfl, fun _ hfailure => ⟨congrArg _ (Except.error.inj hfailure), rfl⟩, nofun⟩
  · rw [hload] at hsent
    refine ⟨rfl, rfl, nofun, fun _ hsnapshot => ?_⟩
    obtain rfl := Except.ok.inj hsnapshot
    have hmodel : loaded.nextModel setup = state.nextModel setup := congrArg setup.model hsent
    simp only [hmodel]
    exact .suggest id

/-- An operation that uses the schema of a registered connection fetches it. -/
theorem State.perform_uses {operation : Operation} {id : Int}
    (hasked : operation.schemaId? = some id)
    (hconnection : state.connection setup id = .ok connection) :
    Uses state setup operation connection (state.fetch occasion connection operation)
      (state.perform setup occasion operation) := by
  have hfailed : ∀ (outcome : Except Failure Snapshot) failure, outcome = .error failure →
      outcome.map Outcome.snapshot = .error failure := by
    rintro _ failure rfl
    rfl
  cases operation with
  | generate question other =>
      obtain ⟨hquestion, hother⟩ := Option.ite_none_left_eq_some.mp hasked
      obtain rfl := Option.some.inj hother
      exact generate_uses (Bool.eq_false_of_not_eq_true hquestion) hconnection
  | suggest other =>
      obtain rfl := Option.some.inj hasked
      exact suggest_uses hconnection
  | schema other =>
      obtain rfl := Option.some.inj hasked
      simp only [perform, schema, hconnection, fetch]
      refine ⟨rfl, rfl, fun failure hfailure => ⟨hfailed _ failure hfailure, rfl⟩, ?_⟩
      intro snapshot hsnapshot
      rw [hsnapshot]
      exact .schema other
  | refreshSchema other =>
      obtain rfl := Option.some.inj hasked
      simp only [perform, refreshSchema, hconnection, fetch]
      refine ⟨rfl, rfl, fun failure hfailure => ⟨hfailed _ failure hfailure, rfl⟩, ?_⟩
      intro snapshot hsnapshot
      rw [hsnapshot]
      exact .refreshSchema other
  | _ => cases hasked

/-- Without a connection there is nothing to use. -/
theorem State.perform_of_connection_eq_error {operation : Operation} {id : Int} {failure : Failure}
    (hasked : operation.schemaId? = some id)
    (hconnection : state.connection setup id = .error failure) :
    state.perform setup occasion operation = (.error failure, state) := by
  cases operation with
  | generate question other =>
      obtain ⟨hquestion, hother⟩ := Option.ite_none_left_eq_some.mp hasked
      obtain rfl := Option.some.inj hother
      simp [perform, generate, hquestion, hconnection, Except.map]
  | suggest other =>
      obtain rfl := Option.some.inj hasked
      simp [perform, suggest, hconnection, Except.map]
  | schema other =>
      obtain rfl := Option.some.inj hasked
      simp [perform, schema, hconnection, Except.map]
  | refreshSchema other =>
      obtain rfl := Option.some.inj hasked
      simp [perform, refreshSchema, hconnection, Except.map]
  | _ => cases hasked

end Uses

/-! ## Fetching a schema -/

theorem State.registry_fetch (state : State) (occasion : Occasion) (connection : Connection)
    (operation : Operation) :
    (state.fetch occasion connection operation).2.registry = state.registry := by
  cases operation <;> rfl

theorem State.promptsSent_fetch (state : State) (occasion : Occasion) (connection : Connection)
    (operation : Operation) :
    (state.fetch occasion connection operation).2.promptsSent = state.promptsSent := by
  cases operation <;> rfl

/-- Fetching is asking the cache, from which a refresh first drops what it has. -/
theorem State.fetch_eq (state : State) (occasion : Occasion) {connection : Connection}
    {operation : Operation} (hasked : operation.schemaId? = some connection.id) :
    ∃ cache : Cache, (∀ entry ∈ cache.entries, entry ∈ state.cache.entries) ∧
      (cache.get? occasion.times.asked (Cache.keyOf connection) = none →
        operation = .refreshSchema connection.id ∨
          state.cache.get? occasion.times.asked (Cache.keyOf connection) = none) ∧
      state.fetch occasion connection operation =
        (((cache.load occasion.times occasion.databases connection).1.mapError schemaFailure),
          { state with
            cache := (cache.load occasion.times occasion.databases connection).2 }) := by
  cases operation with
  | refreshSchema id =>
      obtain rfl := Option.some.inj hasked
      refine ⟨state.cache.forget connection.id, ?_, fun _ => .inl rfl, rfl⟩
      intro entry hentry
      exact (Cache.mem_entries_forget_iff.mp hentry).1
  | _ => exact ⟨state.cache, fun _ hentry => hentry, .inr, rfl⟩

section Fetching

variable {state : State} {setup : Setup} {occasion : Occasion} {operation : Operation}
  {connection : Connection} (hasked : operation.schemaId? = some connection.id)

include hasked

/-- A schema is not to be had only when its database cannot be introspected. -/
theorem State.of_fetch_eq_error {failure : Failure}
    (hfetch : (state.fetch occasion connection operation).1 = .error failure) :
    ∃ refusal, occasion.databases.introspect connection.dialect connection.connectionString =
      .error refusal ∧ failure = schemaFailure refusal := by
  obtain ⟨cache, -, -, heq⟩ := state.fetch_eq occasion hasked
  rw [heq] at hfetch
  cases hload : (cache.load occasion.times occasion.databases connection).1 with
  | error refusal =>
      rw [hload] at hfetch
      exact ⟨refusal, Cache.of_load_eq_error hload, (Except.error.inj hfetch).symm⟩
  | ok loaded => simp [hload, Except.mapError] at hfetch

variable (hconnection : state.connection setup connection.id = .ok connection)

include hconnection

/-- A schema that is fetched is that of an entry for the connection, or it is introspected. -/
theorem State.of_fetch_eq_ok {snapshot : Snapshot}
    (hfetch : (state.fetch occasion connection operation).1 = .ok snapshot) :
    (∃ entry ∈ state.cache.entries,
      entry.key = Cache.keyOf connection ∧ entry.snapshot = snapshot) ∨
      state.Introspects setup occasion operation connection snapshot := by
  obtain ⟨cache, hkept, hmissed, heq⟩ := state.fetch_eq occasion hasked
  rw [heq] at hfetch
  have hload : (cache.load occasion.times occasion.databases connection).1 = .ok snapshot := by
    cases hloaded : (cache.load occasion.times occasion.databases connection).1 with
    | error failure => simp [hloaded, Except.mapError] at hfetch
    | ok loaded => simpa [hloaded, Except.mapError] using hfetch
  rcases Cache.of_load_eq_ok hload with ⟨entry, hentry, hfound⟩ | ⟨hnone, hanswered⟩
  · exact .inl ⟨entry, hkept entry hentry, hfound⟩
  · exact .inr ⟨hasked, hconnection, hmissed hnone, hanswered⟩

/-- A new entry is for the connection and holds what was introspected. -/
theorem State.of_mem_entries_fetch {entry : CacheEntry}
    (hentry : entry ∈ (state.fetch occasion connection operation).2.cache.entries) :
    entry ∈ state.cache.entries ∨ entry.key = Cache.keyOf connection ∧
      state.Introspects setup occasion operation connection entry.snapshot := by
  obtain ⟨cache, hkept, hmissed, heq⟩ := state.fetch_eq occasion hasked
  rw [heq] at hentry
  rcases Cache.of_mem_entries_load hentry with hold | ⟨hkey, hnone, hanswered⟩
  · exact .inl (hkept entry hold)
  · exact .inr ⟨hkey, hasked, hconnection, hmissed hnone, hanswered⟩

end Fetching

/-! ## What operations touch -/

/-- What an operation does to the registered connections and the cached schemas. -/
inductive Touches (state : State) (setup : Setup) (occasion : Occasion) (operation : Operation)
    (next : State) : Prop
  | nothing (hregistry : next.registry = state.registry) (hcache : next.cache = state.cache)
  | fetched (connection : Connection) (hasked : operation.schemaId? = some connection.id)
      (hconnection : state.connection setup connection.id = .ok connection)
      (hregistry : next.registry = state.registry)
      (hcache : next.cache = (state.fetch occasion connection operation).2.cache)
  | created (row : StoredConnection) (hnew : state.registry.find? row.id = none)
      (hregistry : next.registry = state.registry.insert row) (hcache : next.cache = state.cache)
  | changed (id : Int)
      (hothers : ∀ other ≠ id, next.registry.find? other = state.registry.find? other)
      (hcache : next.cache = state.cache.forget id)
  /-- The changed row cannot be read, and its entries are kept without being of use. -/
  | spoilt (id : Int)
      (hothers : ∀ other ≠ id, next.registry.find? other = state.registry.find? other)
      (hfound : next.registry.find? id = none → state.registry.find? id = none)
      (hunreadable : ∀ connection, next.connection setup id ≠ .ok connection)
      (hcache : next.cache = state.cache)

section Touching

variable (state : State) (setup : Setup) (occasion : Occasion)

/-- Using a schema changes no connection. -/
theorem State.registry_perform {operation : Operation} {id : Int}
    (hasked : operation.schemaId? = some id) :
    (state.perform setup occasion operation).2.registry = state.registry := by
  cases hconnection : state.connection setup id with
  | error failure => rw [perform_of_connection_eq_error hasked hconnection]
  | ok connection =>
      rw [(perform_uses hasked hconnection).registry, registry_fetch]

theorem State.touches_of_schemaId? {operation : Operation} {id : Int}
    (hasked : operation.schemaId? = some id) :
    Touches state setup occasion operation (state.perform setup occasion operation).2 := by
  cases hconnection : state.connection setup id with
  | error failure =>
      rw [perform_of_connection_eq_error hasked hconnection]
      exact .nothing rfl rfl
  | ok connection =>
      have huses : Uses state setup operation connection
          (state.fetch occasion connection operation)
          (state.perform setup occasion operation) := perform_uses hasked hconnection
      obtain rfl := id_of_connection hconnection
      exact .fetched connection hasked hconnection (state.registry_perform setup occasion hasked)
        huses.cache

theorem State.execute_touches (sql : String) (id : Int) :
    Touches state setup occasion (.execute sql id) (state.execute setup occasion sql id).2 := by
  have hrecorded : ∀ attempt, Touches state setup occasion (.execute sql id)
      (state.record occasion attempt).2 := by
    intro attempt
    obtain ⟨history, heq⟩ := state.record_eq occasion attempt
    rw [heq]
    exact .nothing rfl rfl
  rw [execute]
  cases state.connection setup id with
  | error failure => exact .nothing rfl rfl
  | ok connection =>
      dsimp only
      split
      · split
        · exact hrecorded _
        · exact hrecorded _
      · exact hrecorded _

theorem State.createConnection_touches (draft : Draft) :
    Touches state setup occasion (.createConnection draft)
      (state.createConnection setup occasion draft).2 := by
  rw [createConnection]
  rcases state.registry.create_cases (setup.circumstances occasion) draft with
    ⟨failure, hcreate⟩ | ⟨connection, row, hrow, hcreate⟩
  · rw [hcreate]
    exact .nothing rfl rfl
  · rw [hcreate]
    exact .created row (hrow ▸ state.registry.find?_nextId) rfl rfl

theorem State.registry_updateConnection (id : Int) (draft : Draft) :
    (state.updateConnection setup occasion id draft).2.registry =
      (state.registry.update (setup.circumstances occasion) id draft).2 := by
  rw [updateConnection]
  rcases state.registry.update (setup.circumstances occasion) id draft with
    ⟨failure | connection, registry⟩
  · rfl
  · rfl

theorem State.updateConnection_touches (id : Int) (draft : Draft) :
    Touches state setup occasion (.updateConnection id draft)
      (state.updateConnection setup occasion id draft).2 := by
  rw [updateConnection]
  rcases state.registry.update_cases (setup.circumstances occasion) id draft with
    ⟨failure, hupdate⟩ | ⟨change, hchange, hupdate⟩
  · rw [hupdate]
    exact .nothing rfl rfl
  · have hfind := @Registry.find?_modify state.registry _ hchange id
    have hothers : ∀ other ≠ id,
        (state.registry.modify id change).find? other = state.registry.find? other := by
      intro other hother
      rw [hfind, if_neg hother]
    rw [hupdate]
    cases hget : (state.registry.modify id change).get (setup.circumstances occasion).cipher id with
    | ok connection => exact .changed id hothers rfl
    | error failure =>
        refine .spoilt id hothers ?_ ?_ rfl
        · intro hnone
          have hchanged := hfind id
          rw [if_pos rfl] at hchanged
          exact Option.map_eq_none_iff.mp (hchanged.symm.trans hnone)
        · intro connection hconnection
          cases hget.symm.trans (connection_eq_ok_iff.mp hconnection)

theorem State.deleteConnection_touches (id : Int) :
    Touches state setup occasion (.deleteConnection id)
      (state.deleteConnection setup id).2 := by
  rw [deleteConnection]
  rcases state.registry.delete_cases setup.cipher id with
    ⟨failure, hdelete⟩ | ⟨connection, hdelete⟩
  · rw [hdelete]
    exact .nothing rfl rfl
  · rw [hdelete]
    refine .changed id ?_ rfl
    intro other hother
    exact (state.registry.find?_remove id other).trans (if_neg hother)

/-- Every operation touches connections and schemas in one of these ways. -/
theorem State.perform_touches (operation : Operation) :
    Touches state setup occasion operation (state.perform setup occasion operation).2 := by
  cases hasked : operation.schemaId? with
  | some id => exact state.touches_of_schemaId? setup occasion hasked
  | none =>
      cases operation with
      | generate question id =>
          have hblank : Text.isBlankText question.toList = true := by
            simpa [Operation.schemaId?] using hasked
          simp only [perform, generate, hblank, if_true]
          exact .nothing rfl rfl
      | suggest | schema | refreshSchema => cases hasked
      | execute sql id => exact state.execute_touches setup occasion sql id
      | createConnection draft => exact state.createConnection_touches setup occasion draft
      | updateConnection id draft => exact state.updateConnection_touches setup occasion id draft
      | deleteConnection id => exact state.deleteConnection_touches setup occasion id
      | clearHistory =>
          simp only [perform, clearHistory]
          cases state.history with
          | none => exact .nothing rfl rfl
          | some store => exact .nothing rfl rfl
      | validate | history | connections | connection | status => exact .nothing rfl rfl

end Touching

end QueryWarden.Service
