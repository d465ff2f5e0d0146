import QueryWarden.Proofs.Connections.Refinement
import QueryWarden.Proofs.Service.Effects
import QueryWarden.Proofs.Service.Log

/-!
# Schemas are those of the connections as they are

Throughout every run of the service that starts with an empty cache, a schema that is shown to a
client or to the model was introspected under the connection that the registry holds for its id
just then, and has held ever since. The invariant is on the entries of the cache: an entry belongs
to a registered id, and if the connection of that id can be read, the entry was introspected under
it. Every operation that changes what an id stands for drops the entries of the id, or leaves the
id unreadable.
-/

namespace QueryWarden.Service

open QueryWarden.Connections QueryWarden.Schema QueryWarden.Targets

/-! ## What is introspected -/

/-- One of the steps introspected the snapshot under a connection, and the registry has held this
connection from before that step until after the last. -/
def State.Introspected (start : State) (setup : Setup) (steps : List (Occasion × Operation))
    (connection : Connection) (snapshot : Snapshot) : Prop :=
  ∃ earlier occasion operation later, steps = earlier ++ (occasion, operation) :: later ∧
    (start.run setup earlier).Introspects setup occasion operation connection snapshot ∧
    ∀ done, earlier <+: done → done <+: steps →
      (start.run setup done).connection setup connection.id = .ok connection

/-! ## Entries of the cache -/

section Entries

variable {start : State} {setup : Setup} {steps : List (Occasion × Operation)}
  {occasion : Occasion} {operation : Operation} {connection : Connection} {snapshot : Snapshot}

theorem State.run_concat (start : State) (setup : Setup) (steps : List (Occasion × Operation))
    (occasion : Occasion) (operation : Operation) :
    start.run setup (steps ++ [(occasion, operation)]) =
      ((start.run setup steps).perform setup occasion operation).2 := by
  rw [run, run, List.foldl_append]
  rfl

/-- What was introspected under a connection stays so for as long as the registry holds the
connection. -/
theorem State.Introspected.concat (hintrospected : start.Introspected setup steps connection snapshot)
    {step : Occasion × Operation}
    (hheld : (start.run setup (steps ++ [step])).connection setup connection.id = .ok connection) :
    start.Introspected setup (steps ++ [step]) connection snapshot := by
  obtain ⟨earlier, occasion, operation, later, rfl, hintrospects, hsince⟩ := hintrospected
  refine ⟨earlier, occasion, operation, later ++ [step], by simp, hintrospects, ?_⟩
  intro done hearlier hdone
  rcases List.prefix_concat_iff.mp hdone with rfl | hdone
  · exact hheld
  · exact hsince done hearlier hdone

theorem State.Introspects.introspected
    (hintrospects : (start.run setup steps).Introspects setup occasion operation connection snapshot)
    (hheld : (start.run setup (steps ++ [(occasion, operation)])).connection setup connection.id =
      .ok connection) :
    start.Introspected setup (steps ++ [(occasion, operation)]) connection snapshot := by
  refine ⟨steps, occasion, operation, [], rfl, hintrospects, ?_⟩
  intro done hsteps hdone
  rcases List.prefix_concat_iff.mp hdone with rfl | hdone
  · exact hheld
  · obtain rfl := hsteps.eq_of_length_le hdone.length_le
    exact hintrospects.registered

/-- An entry of the cache after some steps is for a registered id, and of use only for a connection
under which it was introspected. -/
structure State.Keeps (start : State) (setup : Setup) (steps : List (Occasion × Operation))
    (id : Int) (entry : CacheEntry) : Prop where
  key : ∃ connectionString, entry.key = cacheKey id connectionString
  registered : (start.run setup steps).registry.find? id ≠ none
  introspected : ∀ connection, (start.run setup steps).connection setup id = .ok connection →
    start.Introspected setup steps connection entry.snapshot

/-- An entry is kept by a step that leaves the row of its id alone. -/
theorem State.Keeps.concat {id : Int} {entry : CacheEntry}
    (hkeeps : start.Keeps setup steps id entry) {step : Occasion × Operation}
    (hfind : (start.run setup (steps ++ [step])).registry.find? id =
      (start.run setup steps).registry.find? id) :
    start.Keeps setup (steps ++ [step]) id entry where
  key := hkeeps.key
  registered := by
    rw [hfind]
    exact hkeeps.registered
  introspected connection hconnection := by
    have hbefore := (connection_congr hfind).symm.trans hconnection
    obtain rfl := id_of_connection hbefore
    exact (hkeeps.introspected connection hbefore).concat hconnection

/-- A step keeps every entry that it leaves in the cache. -/
theorem State.keeps_concat
    (hkeeps : ∀ entry ∈ (start.run setup steps).cache.entries,
      ∃ id, start.Keeps setup steps id entry) (occasion : Occasion) (operation : Operation) :
    ∀ entry ∈ (start.run setup (steps ++ [(occasion, operation)])).cache.entries,
      ∃ id, start.Keeps setup (steps ++ [(occasion, operation)]) id entry := by
  intro entry hentry
  have htouches := (start.run setup steps).perform_touches setup occasion operation
  rw [← run_concat] at htouches
  cases htouches with
  | nothing hregistry hcache =>
      rw [hcache] at hentry
      obtain ⟨id, hkept⟩ := hkeeps entry hentry
      exact ⟨id, hkept.concat (by rw [hregistry])⟩
  | fetched connection hasked hconnection hregistry hcache =>
      rw [hcache] at hentry
      have hheld := (connection_congr (congrArg (·.find? connection.id) hregistry)).trans hconnection
      rcases of_mem_entries_fetch hasked hconnection hentry with hold | ⟨hkey, hintrospects⟩
      · obtain ⟨id, hkept⟩ := hkeeps entry hold
        exact ⟨id, hkept.concat (by rw [hregistry])⟩
      · refine ⟨connection.id, ⟨_, hkey⟩, find?_ne_none_of_connection hheld, ?_⟩
        intro current hcurrent
        obtain rfl := Except.ok.inj (hheld.symm.trans hcurrent)
        exact hintrospects.introspected hheld
  | created row hnew hregistry hcache =>
      rw [hcache] at hentry
      obtain ⟨id, hkept⟩ := hkeeps entry hentry
      -- An id that is handed out again has no entries left: entries are only kept for ids in use.
      have hid : row.id ≠ id := by
        rintro rfl
        exact hkept.registered hnew
      refine ⟨id, hkept.concat ?_⟩
      rw [hregistry, Registry.find?_insert hnew, if_neg hid]
  | changed id hothers hcache =>
      rw [hcache] at hentry
      obtain ⟨hold, hother⟩ := Cache.mem_entries_forget_iff.mp hentry
      obtain ⟨other, hkept⟩ := hkeeps entry hold
      obtain ⟨connectionString, hkey⟩ := hkept.key
      have hid : other ≠ id := by
        rintro rfl
        exact hother (hkey ▸ keyOpening_prefix_iff.mpr rfl)
      exact ⟨other, hkept.concat (hothers other hid)⟩
  | spoilt id hothers hfound hunreadable hcache =>
      rw [hcache] at hentry
      obtain ⟨other, hkept⟩ := hkeeps entry hentry
      refine ⟨other, ?_⟩
      by_cases hid : other = id
      · subst hid
        refine ⟨hkept.key, fun hnone => hkept.registered (hfound hnone), ?_⟩
        intro connection hconnection
        exact absurd hconnection (hunreadable connection)
      · exact hkept.concat (hothers other hid)

/-- So every entry is kept throughout a run that starts with an empty cache. -/
theorem State.run_keeps (hempty : start.cache.entries = []) (steps : List (Occasion × Operation)) :
    ∀ entry ∈ (start.run setup steps).cache.entries, ∃ id, start.Keeps setup steps id entry := by
  induction steps using List.reverseRecOn with
  | nil =>
      intro entry hentry
      rw [run, List.foldl_nil, hempty] at hentry
      cases hentry
  | append_singleton steps step ih => exact keeps_concat ih step.1 step.2

end Entries

/-! ## Runs -/

/-- Why an operation that uses the schema of an id could not have it: the connection cannot be got,
or its database could not be introspected just then. -/
def State.Lacks (state : State) (setup : Setup) (occasion : Occasion) (id : Int)
    (failure : Failure) : Prop :=
  state.connection setup id = .error failure ∨
    ∃ connection refusal, state.connection setup id = .ok connection ∧
      occasion.databases.introspect connection.dialect connection.connectionString =
        .error refusal ∧ failure = schemaFailure refusal

/-- Throughout every run from an empty cache, an operation that uses the schema of an id fails for
want of it without asking the model, or what it gives is made of a snapshot that was introspected
under the connection which the registry holds for the id, and has held ever since. -/
theorem State.run_servesCurrent (setup : Setup) (start : State)
    (hempty : start.cache.entries = []) (steps : List (Occasion × Operation)) (occasion : Occasion)
    (operation : Operation) (id : Int) (hasked : operation.schemaId? = some id) :
    let reached := start.run setup steps
    let done := reached.perform setup occasion operation
    (∃ failure, reached.Lacks setup occasion id failure ∧ done.1 = .error failure ∧
      done.2.promptsSent = reached.promptsSent) ∨
      ∃ connection snapshot, reached.connection setup id = .ok connection ∧
        start.Introspected setup (steps ++ [(occasion, operation)]) connection snapshot ∧
        reached.MadeFrom setup connection.dialect snapshot operation done.1 := by
  intro reached done
  cases hconnection : reached.connection setup id with
  | error failure =>
      refine .inl ⟨failure, .inl hconnection, ?_⟩
      simp [done, perform_of_connection_eq_error hasked hconnection]
  | ok connection =>
      have huses : Uses reached setup operation connection
          (reached.fetch occasion connection operation) done := perform_uses hasked hconnection
      obtain rfl := id_of_connection hconnection
      cases hfetch : (reached.fetch occasion connection operation).1 with
      | error failure =>
          obtain ⟨hfailure, hsent⟩ := huses.failed failure hfetch
          obtain ⟨refusal, hrefusal⟩ := of_fetch_eq_error hasked hfetch
          refine .inl ⟨failure, ?_, hfailure, hsent.trans (reached.promptsSent_fetch ..)⟩
          exact .inr ⟨connection, refusal, hconnection, hrefusal⟩
      | ok snapshot =>
          refine .inr ⟨connection, snapshot, rfl, ?_, huses.made snapshot hfetch⟩
          have hheld : (start.run setup (steps ++ [(occasion, operation)])).connection setup
              connection.id = .ok connection := by
            rw [run_concat, connection_congr, hconnection]
            rw [reached.registry_perform setup occasion hasked]
          rcases of_fetch_eq_ok hasked hconnection hfetch with ⟨entry, hentry, hkey, rfl⟩ | hnow
          · obtain ⟨other, hkept⟩ := run_keeps hempty steps entry hentry
            obtain ⟨connectionString, hother⟩ := hkept.key
            -- The keys of two ids differ, whatever the digests of the connection strings are.
            have hopening : keyOpening other <+: (Cache.keyOf connection).toList := by
              rw [← hkey, hother]
              exact keyOpening_prefix_iff.mpr rfl
            obtain rfl := keyOpening_prefix_iff.mp hopening
            exact (hkept.introspected connection hconnection).concat hheld
          · exact hnow.introspected hheld

section Changing

variable {setup : Setup} (hkey : setup.cipher.key.length = 32) (nonce : Nonce) (now : Moment)
  {occasion : Occasion} (hcircumstances : setup.circumstances occasion =
    ⟨setup.cipher, nonce.bytes, now.stamp⟩)

include hkey hcircumstances

/-- The first connection that is registered and then changed is the changed one, whatever its schema
was used for in between. -/
theorem State.connection_run_changed {old new : Draft} (hold : old.check = .ok ())
    (hnew : new.check = .ok ()) {start : State} (hempty : start.registry = .empty)
    {operation : Operation} {id : Int} (hasked : operation.schemaId? = some id) :
    (start.run setup [(occasion, .createConnection old), (occasion, operation),
      (occasion, .updateConnection 1 new)]).connection setup 1 =
        .ok ((new.entry now.stamp.toMicros).connection 1) := by
  have hcreated := (Registry.Represents.empty setup.cipher).create hkey nonce now old
  have hupdated := hcreated.represents.update hkey nonce now 1 new
  obtain ⟨first, -, hfirst, hgot⟩ := Entries.create_spec hold
    (fun id hid => absurd hid Finmap.notMem_empty) now.stamp
  obtain rfl : first = (old.entry now.stamp.toMicros).connection 1 := hfirst
  obtain ⟨changed, -, rfl, hheld⟩ := Entries.update_spec hnew (hgot 1)
  let created : State := (start.createConnection setup occasion old).2
  have hcreate : created.registry =
      (Registry.empty.create ⟨setup.cipher, nonce.bytes, now.stamp⟩ old).2 := by
    rw [← hempty, ← hcircumstances]
    rfl
  have hregistry : (start.run setup [(occasion, .createConnection old), (occasion, operation),
      (occasion, .updateConnection 1 new)]).registry =
        (created.registry.update (setup.circumstances occasion) 1 new).2 := by
    rw [← created.registry_perform setup occasion hasked]
    exact State.registry_updateConnection ..
  rw [State.connection_eq_ok_iff, hregistry, hcreate, hcircumstances]
  exact (hupdated.represents.get_eq 1).trans (hheld 1)

end Changing

/-- After a connection was changed its new database is shown, although the schema of the old one was
in the cache and its time had not run out. -/
theorem State.run_servesCurrent_changed :
    ∃ (setup : Setup) (start : State) (steps : List (Occasion × Operation)) (occasion : Occasion),
      start.cache.entries = [] ∧ (Operation.schema 1).schemaId? = some 1 ∧
      steps.map Prod.snd =
        [.createConnection ⟨"shop", .duckDb, "/old.duckdb"⟩, .schema 1,
          .updateConnection 1 ⟨"shop", .duckDb, "/new.duckdb"⟩] ∧
      ((start.run setup steps).perform setup occasion (.schema 1)).1 =
        .ok (.snapshot ⟨[.bare "" "/new.duckdb"]⟩) := by
  -- Every database has one table, named after its file.
  let databases : Databases :=
    ⟨fun _ path => .ok ⟨[.bare "" path]⟩, fun _ _ _ _ => .error (.timeout (.ofSeconds 30))⟩
  let setup : Setup := ⟨.ofSecret developmentKey, .strict, fun _ _ => .ok "", "scripted",
    .ofSeconds 30⟩
  let nonce : Nonce := ⟨List.replicate nonceSize 0, by decide⟩
  let now : Moment := ⟨.ofNanos 0, by constructor <;> decide⟩
  let occasion : Occasion := ⟨now.stamp, ⟨0, 0⟩, 0, nonce.bytes, databases⟩
  let old : Draft := ⟨"shop", .duckDb, "/old.duckdb"⟩
  let new : Draft := ⟨"shop", .duckDb, "/new.duckdb"⟩
  let start : State := .initial 3600000000000
  let steps : List (Occasion × Operation) :=
    [(occasion, .createConnection old), (occasion, .schema 1),
      (occasion, .updateConnection 1 new)]
  refine ⟨setup, start, steps, occasion, rfl, rfl, rfl, ?_⟩
  have hconnection : (start.run setup steps).connection setup 1 =
      .ok ((new.entry now.stamp.toMicros).connection 1) :=
    connection_run_changed (Cipher.length_key_ofSecret developmentKey) nonce now rfl
      (Entries.check_of_not_isBlankText (by decide +kernel) (by decide +kernel))
      (Entries.check_of_not_isBlankText (by decide +kernel) (by decide +kernel)) rfl rfl
  have hserved := run_servesCurrent setup start rfl steps occasion (.schema 1) 1 rfl
  dsimp only at hserved
  generalize start.run setup steps = reached at hconnection hserved ⊢
  generalize (reached.perform setup occasion (.schema 1)) = done at hserved ⊢
  rcases hserved with
    ⟨failure, hlacks | ⟨connection, refusal, -, hrefusal, -⟩, -⟩ |
      ⟨connection, snapshot, hregistered, hintrospected, hmade⟩
  · cases hconnection.symm.trans hlacks
  · cases hrefusal
  · obtain rfl := Except.ok.inj (hconnection.symm.trans hregistered)
    obtain ⟨earlier, moment, operation, later, hsteps, hintrospects, -⟩ := hintrospected
    have hmem : (moment, operation) ∈ steps ++ [(occasion, .schema 1)] := by
      rw [hsteps]
      exact List.mem_append_right _ List.mem_cons_self
    have hmoment : moment = occasion := by
      simp only [steps, List.cons_append, List.nil_append, List.mem_cons, Prod.mk.injEq,
        List.not_mem_nil, or_false] at hmem
      tauto
    rw [hmoment] at hintrospects
    obtain rfl := Except.ok.inj hintrospects.answered
    generalize done.1 = outcome at hmade ⊢
    cases hmade
    rfl

end QueryWarden.Service
