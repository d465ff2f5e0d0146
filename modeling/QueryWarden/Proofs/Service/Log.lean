import QueryWarden.Proofs.Generation.Reports
import QueryWarden.Proofs.History.Sequence
import QueryWarden.Service.Operation

/-!
# The log of attempts

Whatever is asked of the service, and however the model and the databases behave, an entry of the
log is a success exactly when it holds no error, and a success holds a query that the validator
accepts. An attempt on a registered connection leaves one entry, which holds what was answered;
nothing else adds an entry, and only clearing the log removes any.
-/

namespace QueryWarden.Service

open QueryWarden.Connections QueryWarden.Generation QueryWarden.History QueryWarden.Sql

/-! ## Entries -/

/-- An entry is a success exactly when it holds no error, and then its query is accepted. -/
structure SoundRow (validator : Validator) (row : StoredRecord) : Prop where
  successful_iff : row.isSuccessful = true ↔ row.errorMessage = none
  accepted : row.isSuccessful = true →
    ∀ dialect, (validator.validate row.sqlQuery dialect).isValid = true

section Attempts

variable (recordId : Int) (now : Time.Timestamp) (id : Int)

theorem soundRow_failedAttempt (validator : Validator) (question : Option String)
    (sql message : String) :
    SoundRow validator
      (.ofRecord ⟨recordId, failedAttempt question sql id message, now⟩) where
  successful_iff := by simp [StoredRecord.ofRecord, failedAttempt]
  accepted := by simp [StoredRecord.ofRecord, failedAttempt]

theorem soundRow_accepted {validator : Validator} {sql : String}
    (haccepted : ∀ dialect, (validator.validate sql dialect).isValid = true) :
    SoundRow validator
      (.ofRecord ⟨recordId, ⟨none, sql, "", .table, id, true, none⟩, now⟩) where
  successful_iff := by simp [StoredRecord.ofRecord]
  accepted := fun _ => haccepted

/-- A report has an error to tell exactly when it is no success. -/
theorem reportError_eq_none_iff (report : Report) :
    reportError report = none ↔ report.isSuccessful = true := by
  cases hfailure : report.answer.isFailure <;>
    simp [reportError, Report.isSuccessful, hfailure]

theorem soundRow_reportAttempt {validator : Validator} {report : Report}
    (haccepted : report.isSuccessful = true →
      ∀ dialect, (validator.validate report.answer.sqlQuery dialect).isValid = true)
    (question : String) :
    SoundRow validator (.ofRecord ⟨recordId, reportAttempt report question id, now⟩) where
  successful_iff := (reportError_eq_none_iff report).symm
  accepted := haccepted

end Attempts

/-- What was answered to a question is what an entry of the log holds. -/
structure HeldBy (generated : Generated) (row : StoredRecord) : Prop where
  historyId : generated.historyId = some row.id
  sqlQuery : generated.answer.sqlQuery = row.sqlQuery
  explanation : generated.answer.explanation = row.explanation
  chartName : generated.answer.visualization.chart.name = row.chart
  chart : generated.answer.visualization.chart = Chart.ofName row.chart
  isSuccessful : generated.isSuccessful = row.isSuccessful

/-! ## Logs -/

/-- The log as every run keeps it. -/
structure SoundLog (validator : Validator) (store : Store) : Prop where
  ahead : store.IsAhead
  rows : ∀ row ∈ store.rows, SoundRow validator row

section Logs

variable {validator : Validator} {store : Store} {state : State}

theorem SoundLog.appended (hlog : SoundLog validator store) {now : Time.Timestamp}
    {attempt : Attempt}
    (hattempt : SoundRow validator (.ofRecord ⟨store.nextId, attempt, now⟩)) :
    SoundLog validator (store.appended now attempt) where
  ahead := hlog.ahead.appended now attempt
  rows := by
    intro row hrow
    rcases List.mem_append.mp hrow with hold | hnew
    · exact hlog.rows row hold
    · rw [List.mem_singleton.mp hnew]
      exact hattempt

theorem soundLog_of_rows_nil (validator : Validator) (hrows : store.rows = []) :
    SoundLog validator store where
  ahead := Store.isAhead_of_rows_nil hrows
  rows := by simp [hrows]

theorem State.record_of_isAhead (hhistory : state.history = some store) (hahead : store.IsAhead)
    (occasion : Occasion) (attempt : Attempt) :
    state.record occasion attempt =
      (some store.nextId,
        { state with history := some (store.appended occasion.now attempt) }) := by
  simp [State.record, hhistory, hahead.append_eq, Except.toOption]

theorem State.history_recordFailure (hhistory : state.history = some store)
    (hahead : store.IsAhead) (occasion : Occasion) (question : Option String) (sql : String)
    (id : Int) (message : String) :
    (state.recordFailure occasion question sql id message).history =
      some (store.appended occasion.now (failedAttempt question sql id message)) := by
  rw [State.recordFailure, State.record_of_isAhead hhistory hahead]

end Logs

/-! ## Attempts -/

section Operations

variable {isStrict : Bool} {setup : Setup} {state : State} {store : Store}

theorem State.history_load (state : State) (occasion : Occasion) (connection : Connection) :
    (state.load occasion connection).2.history = state.history := rfl

theorem State.history_reload (state : State) (occasion : Occasion) (connection : Connection) :
    (state.reload occasion connection).2.history = state.history := rfl

/-- How a question about a registered connection ends: with a failure, or with what becomes of a
reply. Either way the log is as it was until the one entry is added. -/
theorem State.generate_exits (state : State) (setup : Setup) (occasion : Occasion)
    {question : String} {id : Int} {connection : Connection}
    (hquestion : Text.isBlankText question.toList = false)
    (hconnection : state.connection setup id = .ok connection) :
    ∃ reached : State, reached.history = state.history ∧
      ((∃ failure message, state.generate setup occasion question id =
          (.error failure,
            reached.recordFailure occasion (some question) errorSentinel id message)) ∨
        ∃ reply report, conclude setup.validator connection.dialect reply = report ∧
          state.generate setup occasion question id =
            (.ok ⟨report.answer, report.isSuccessful,
                (reached.record occasion (reportAttempt report question id)).1⟩,
              (reached.record occasion (reportAttempt report question id)).2)) := by
  have hloaded := state.history_load occasion connection
  simp only [State.generate, hquestion, hconnection, Bool.false_eq_true, if_false]
  rcases hload : state.load occasion connection with ⟨failure | snapshot, loaded⟩
  · rw [hload] at hloaded
    exact ⟨loaded, hloaded, .inl ⟨failure, failure.message, rfl⟩⟩
  · rw [hload] at hloaded
    refine ⟨loaded.prompted, hloaded, ?_⟩
    cases hgenerated : Generation.generate (loaded.nextModel setup) setup.validator
        ⟨question, snapshot, connection.dialect⟩ with
    | error failure => exact .inl ⟨.ofModel failure, failure.message, by simp only [hgenerated]⟩
    | ok report =>
        obtain ⟨reply, -, hreport⟩ := generate_eq_ok_iff.mp hgenerated
        exact .inr ⟨reply, report, hreport, by simp only [hgenerated]⟩

/-- A question about a registered connection leaves one entry, and an answer to it is what the entry
holds. -/
theorem State.generate_logs (hvalidator : setup.validator = .ofStrictness isStrict)
    (hhistory : state.history = some store) (hlog : SoundLog setup.validator store)
    (occasion : Occasion) {question : String} {id : Int} {connection : Connection}
    (hquestion : Text.isBlankText question.toList = false)
    (hconnection : state.connection setup id = .ok connection) :
    ∃ attempt, SoundRow setup.validator (.ofRecord ⟨store.nextId, attempt, occasion.now⟩) ∧
      (state.generate setup occasion question id).2.history =
        some (store.appended occasion.now attempt) ∧
      ∀ generated, (state.generate setup occasion question id).1 = .ok generated →
        HeldBy generated (.ofRecord ⟨store.nextId, attempt, occasion.now⟩) := by
  obtain ⟨reached, hreached, ⟨failure, message, hexit⟩ | ⟨reply, report, hreport, hexit⟩⟩ :=
    state.generate_exits setup occasion hquestion hconnection
  · refine ⟨failedAttempt (some question) errorSentinel id message,
      soundRow_failedAttempt .., ?_, ?_⟩
    · rw [hexit]
      exact history_recordFailure (hreached.trans hhistory) hlog.ahead ..
    · simp [hexit]
  · rw [record_of_isAhead (hreached.trans hhistory) hlog.ahead] at hexit
    refine ⟨reportAttempt report question id, soundRow_reportAttempt _ _ _ ?_ question, ?_, ?_⟩
    · intro hsuccess dialect
      rw [hvalidator] at hreport ⊢
      rw [← hreport] at hsuccess ⊢
      exact (isSuccessful_conclude_iff isStrict connection.dialect reply dialect).mp hsuccess
    · rw [hexit]
    · rw [hexit]
      rintro generated ⟨⟩
      exact ⟨rfl, rfl, rfl, rfl, (Chart.ofName_name _).symm, rfl⟩

/-- A query for a registered connection leaves one entry, whether it is run or refused. -/
theorem State.execute_logs (hhistory : state.history = some store)
    (hlog : SoundLog setup.validator store) (occasion : Occasion) (sql : String) {id : Int}
    {connection : Connection} (hconnection : state.connection setup id = .ok connection) :
    ∃ attempt, SoundRow setup.validator (.ofRecord ⟨store.nextId, attempt, occasion.now⟩) ∧
      (state.execute setup occasion sql id).2.history =
        some (store.appended occasion.now attempt) := by
  have hfailed : ∀ message, ∃ attempt,
      SoundRow setup.validator (.ofRecord ⟨store.nextId, attempt, occasion.now⟩) ∧
        (state.recordFailure occasion none sql id message).history =
          some (store.appended occasion.now attempt) := fun message =>
    ⟨_, soundRow_failedAttempt .., history_recordFailure hhistory hlog.ahead ..⟩
  -- A refusal and a failure of the database differ only in their message.
  simp only [State.execute, hconnection]
  cases hvalid : (setup.validator.validate sql connection.dialect).isValid with
  | false => exact hfailed _
  | true =>
      simp only [if_true]
      cases occasion.databases.execute connection.dialect connection.connectionString sql
          setup.queryLimit with
      | error failure => exact hfailed _
      | ok result =>
          refine ⟨⟨none, sql, "", .table, id, true, none⟩, soundRow_accepted _ _ _ ?_, ?_⟩
          · exact fun _ => hvalid
          · rw [record_of_isAhead hhistory hlog.ahead]

theorem State.history_schema (state : State) (setup : Setup) (occasion : Occasion) (id : Int) :
    (state.schema setup occasion id).2.history = state.history := by
  rw [State.schema]
  split
  · rfl
  · exact history_load ..

theorem State.history_refreshSchema (state : State) (setup : Setup) (occasion : Occasion)
    (id : Int) : (state.refreshSchema setup occasion id).2.history = state.history := by
  rw [State.refreshSchema]
  split
  · rfl
  · exact history_reload ..

theorem State.history_suggest (state : State) (setup : Setup) (occasion : Occasion) (id : Int) :
    (state.suggest setup occasion id).2.history = state.history := by
  rw [State.suggest]
  split
  · rfl
  · rename_i connection _
    have hloaded := state.history_load occasion connection
    rcases hload : state.load occasion connection with ⟨failure | snapshot, loaded⟩
    · rw [hload] at hloaded
      exact hloaded
    · rw [hload] at hloaded
      exact hloaded

theorem State.history_afterChange (state : State) (id : Int)
    (change : Except Database.Failure Connection × Registry) :
    (state.afterChange id change).2.history = state.history := by
  rcases change with ⟨failure | connection, registry⟩ <;> rfl

end Operations

/-! ## Steps -/

/-- An operation is an attempt that the log keeps: its connection is registered, and a question is
not blank. -/
def Operation.IsLogged (state : State) (setup : Setup) : Operation → Prop
  | .generate question id =>
      Text.isBlankText question.toList = false ∧
        ∃ connection, state.connection setup id = .ok connection
  | .execute _ id => ∃ connection, state.connection setup id = .ok connection
  | _ => False

/-- What an operation and its outcome have to do with the log: its rows before and after. -/
structure LogStep (state : State) (setup : Setup) (operation : Operation)
    (outcome : Except Failure Outcome) (rows next : List StoredRecord) : Prop where
  logged : operation.IsLogged state setup → ∃ row, next = rows ++ [row] ∧
    ∀ generated, outcome = .ok (.generated generated) → HeldBy generated row
  unlogged : ¬ operation.IsLogged state setup → operation ≠ .clearHistory → next = rows
  cleared : operation = .clearHistory → next = [] ∧ outcome = .ok (.cleared rows.length)

section Steps

variable {isStrict : Bool} {setup : Setup} {state : State} {store : Store}

theorem logStep_of_unlogged {operation : Operation} (hunlogged : ¬ operation.IsLogged state setup)
    (hclear : operation ≠ .clearHistory) (outcome : Except Failure Outcome)
    (rows : List StoredRecord) : LogStep state setup operation outcome rows rows where
  logged hlogged := absurd hlogged hunlogged
  unlogged _ _ := rfl
  cleared hclearing := absurd hclearing hclear

theorem logStep_of_logged {operation : Operation} (hlogged : operation.IsLogged state setup)
    {outcome : Except Failure Outcome} (rows : List StoredRecord) {row : StoredRecord}
    (hheld : ∀ generated, outcome = .ok (.generated generated) → HeldBy generated row) :
    LogStep state setup operation outcome rows (rows ++ [row]) where
  logged _ := ⟨row, rfl, hheld⟩
  unlogged hunlogged := absurd hlogged hunlogged
  cleared hclearing := by
    rw [hclearing] at hlogged
    exact hlogged.elim

/-- An operation that is no attempt leaves the log as it is, unless it clears it. -/
theorem State.history_perform_of_unlogged {operation : Operation}
    (hunlogged : ¬ operation.IsLogged state setup) (hclear : operation ≠ .clearHistory)
    (occasion : Occasion) : (state.perform setup occasion operation).2.history = state.history := by
  cases operation with
  | generate question id =>
      simp only [perform, State.generate]
      split
      · rfl
      · rename_i hquestion
        cases hconnection : state.connection setup id with
        | error failure => rfl
        | ok connection =>
            exact absurd ⟨by simpa using hquestion, connection, hconnection⟩ hunlogged
  | execute sql id =>
      simp only [perform, State.execute]
      cases hconnection : state.connection setup id with
      | error failure => rfl
      | ok connection => exact absurd ⟨connection, hconnection⟩ hunlogged
  | suggest id => exact state.history_suggest setup occasion id
  | schema id => exact state.history_schema setup occasion id
  | refreshSchema id => exact state.history_refreshSchema setup occasion id
  | clearHistory => exact absurd rfl hclear
  | updateConnection id draft => exact state.history_afterChange id _
  | deleteConnection id => exact state.history_afterChange id _
  | createConnection draft => rfl
  | validate | history | connections | connection | status => rfl

/-- One operation on a sound log. -/
theorem State.perform_logs (hvalidator : setup.validator = .ofStrictness isStrict)
    (hhistory : state.history = some store) (hlog : SoundLog setup.validator store)
    (occasion : Occasion) (operation : Operation) :
    ∃ next, (state.perform setup occasion operation).2.history = some next ∧
      SoundLog setup.validator next ∧
      LogStep state setup operation (state.perform setup occasion operation).1 store.rows
        next.rows := by
  by_cases hlogged : operation.IsLogged state setup
  · cases operation with
    | generate question id =>
        have hregistered := hlogged
        obtain ⟨hquestion, connection, hconnection⟩ := hregistered
        obtain ⟨attempt, hsound, hnext, hheld⟩ :=
          generate_logs hvalidator hhistory hlog occasion hquestion hconnection
        refine ⟨_, hnext, hlog.appended hsound, logStep_of_logged hlogged _ ?_⟩
        intro generated houtcome
        obtain ⟨answered, hanswered, heq⟩ := map_eq_ok_iff.mp houtcome
        obtain rfl := Outcome.generated.inj heq
        exact hheld _ hanswered
    | execute sql id =>
        have hregistered := hlogged
        obtain ⟨connection, hconnection⟩ := hregistered
        obtain ⟨attempt, hsound, hnext⟩ := execute_logs hhistory hlog occasion sql hconnection
        refine ⟨_, hnext, hlog.appended hsound, logStep_of_logged hlogged _ ?_⟩
        intro generated houtcome
        obtain ⟨result, -, heq⟩ := map_eq_ok_iff.mp houtcome
        cases heq
    | _ => exact hlogged.elim
  · by_cases hclear : operation = .clearHistory
    · subst hclear
      simp only [perform, clearHistory, hhistory, Store.clear]
      exact ⟨_, rfl, soundLog_of_rows_nil _ rfl, fun h => h.elim, fun _ h => absurd rfl h,
        fun _ => ⟨rfl, rfl⟩⟩
    · exact ⟨store, (history_perform_of_unlogged hlogged hclear occasion).trans hhistory, hlog,
        logStep_of_unlogged hlogged hclear _ _⟩

/-! ## Runs -/

/-- What the service has become once it has done one operation after another. -/
def State.run (state : State) (setup : Setup) (steps : List (Occasion × Operation)) : State :=
  steps.foldl (fun reached step => (reached.perform setup step.1 step.2).2) state

theorem State.run_soundLog (hvalidator : setup.validator = .ofStrictness isStrict)
    (hhistory : state.history = some store) (hlog : SoundLog setup.validator store)
    (steps : List (Occasion × Operation)) :
    ∃ reached, (state.run setup steps).history = some reached ∧
      SoundLog setup.validator reached := by
  induction steps generalizing state store with
  | nil => exact ⟨store, hhistory, hlog⟩
  | cons step steps ih =>
      obtain ⟨next, hnext, hsound, -⟩ :=
        perform_logs hvalidator hhistory hlog step.1 step.2
      exact ih hnext hsound

/-- Throughout every run from an empty log each entry is sound, and the next operation, whatever it
is, adds the one entry of an attempt, clears the log, or leaves it as it is. -/
theorem State.run_keepsLog (isStrict : Bool) (setup : Setup)
    (hvalidator : setup.validator = .ofStrictness isStrict) (start : State) (nextId : Int)
    (hempty : start.history = some ⟨[], nextId⟩) (steps : List (Occasion × Operation)) :
    let reached := start.run setup steps
    ∃ store, reached.history = some store ∧
      (∀ row ∈ store.rows, SoundRow setup.validator row) ∧
      ∀ occasion operation, ∃ next,
        (reached.perform setup occasion operation).2.history = some next ∧
        LogStep reached setup operation (reached.perform setup occasion operation).1 store.rows
          next.rows := by
  intro reached
  obtain ⟨store, hstore, hlog⟩ :=
    run_soundLog hvalidator hempty (soundLog_of_rows_nil _ rfl) steps
  refine ⟨store, hstore, hlog.rows, ?_⟩
  intro occasion operation
  obtain ⟨next, hnext, -, hstep⟩ := perform_logs hvalidator hstore hlog occasion operation
  exact ⟨next, hnext, hstep⟩

/-- Clearing the log after a blocked proposal tells how many entries there were. -/
theorem State.run_blocked_then_cleared :
    ∃ (setup : Setup) (steps : List (Occasion × Operation)) (occasion : Occasion)
      (store next : Store),
      steps.map Prod.snd =
        [.createConnection ⟨"shop", .duckDb, "/shop.duckdb"⟩, .generate "Who bought most?" 1] ∧
      setup.model = (fun _ _ => .ok "\x7b\"sqlQuery\": \"DROP TABLE sales\"\x7d") ∧
      ((State.initial 0).run setup steps).history = some store ∧
      (((State.initial 0).run setup steps).perform setup occasion .clearHistory).2.history =
        some next ∧
      next.rows = [] ∧
      (((State.initial 0).run setup steps).perform setup occasion .clearHistory).1 =
        .ok (.cleared store.rows.length) := by
  let setup : Setup := ⟨.ofSecret developmentKey, .strict,
    fun _ _ => .ok "\x7b\"sqlQuery\": \"DROP TABLE sales\"\x7d", "scripted", .ofSeconds 30⟩
  let occasion : Occasion := ⟨.ofNanos 0, ⟨0, 0⟩, 0, List.replicate nonceSize 0,
    ⟨fun _ _ => .ok ⟨[]⟩, fun _ _ _ _ => .error (.timeout (.ofSeconds 30))⟩⟩
  let steps : List (Occasion × Operation) :=
    [(occasion, .createConnection ⟨"shop", .duckDb, "/shop.duckdb"⟩),
      (occasion, .generate "Who bought most?" 1)]
  obtain ⟨store, hstore, -, hsteps⟩ := run_keepsLog true setup rfl (State.initial 0) 1 rfl steps
  obtain ⟨next, hnext, hstep⟩ := hsteps occasion .clearHistory
  exact ⟨setup, steps, occasion, store, next, rfl, rfl, hstore, hnext, hstep.cleared rfl⟩

end Steps

end QueryWarden.Service
