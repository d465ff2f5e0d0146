import QueryWarden.Proofs.Connections.Changes
import QueryWarden.Proofs.Connections.Refinement

/-!
# What failed commands leave behind

Whatever rows a table has, readable or not, a command to the registry that fails leaves it as it
was, with one exception. Changing a connection writes its row before it reads it back, and what it
does not write is the creation time: if that cannot be read the change is told as a failure although
it was made.
-/

namespace QueryWarden.Connections

open QueryWarden.Database QueryWarden.Sql

/-- The reply tells a failure. -/
def Reply.Fails (failure : Failure) : Reply → Prop
  | .one outcome => outcome = .error failure
  | .all outcome => outcome = .error failure
  | .done => False

/-- The row of a connection that is changed to a draft. -/
def Draft.rewrite (draft : Draft) (cipher : Cipher) (nonce : Nonce) (row : StoredConnection) :
    StoredConnection :=
  { row with
    name := draft.name, dialect := draft.dialect.tag,
    sealedString := cipher.sealText nonce.bytes draft.connectionString }

/-- What is told about a row whose creation time cannot be read. -/
def undated (id : Int) (fault : Time.TimestampFault) : Failure :=
  .invalidConfiguration
    ("bad timestamp for connection " ++ toString id ++ ": " ++ fault.message)

/-- The command changes a row that is there but whose creation time cannot be read. -/
inductive Command.ChangesUndated (registry : Registry) (fault : Time.TimestampFault) :
    Command → Prop
  | update (now : Moment) (nonce : Nonce) {id : Int} {draft : Draft} {row : StoredConnection}
      (hcheck : draft.check = .ok ()) (hfound : registry.find? id = some row)
      (hfault : Time.Timestamp.ofText? row.createdAt.toList = .error fault) :
      ChangesUndated registry fault (.update now nonce id draft)

/-! ## Reading back -/

section Rewriting

variable {cipher : Cipher} (draft : Draft) (nonce : Nonce) {row : StoredConnection}

/-- Of a row that was written over only the creation time can be unreadable. -/
theorem decode_rewrite (hkey : cipher.key.length = 32) :
    (draft.rewrite cipher nonce row).decode cipher =
      match Time.Timestamp.ofText? row.createdAt.toList with
      | .ok createdAt => .ok ((draft.entry createdAt).connection row.id)
      | .error fault => .error (undated row.id fault) := by
  have hopen := Cipher.openText_sealText hkey nonce.length_bytes draft.connectionString
  simp only [Draft.rewrite, StoredConnection.decode, Dialect.ofName?_tag, hopen, ok_bind]
  cases Time.Timestamp.ofText? row.createdAt.toList with
  | ok createdAt => rfl
  | error fault => rfl

theorem Registry.get_modify_rewrite {registry : Registry} {id : Int}
    (hfound : registry.find? id = some row) :
    (registry.modify id (draft.rewrite cipher nonce)).get cipher id =
      (draft.rewrite cipher nonce row).decode cipher := by
  have hid : ∀ row, (draft.rewrite cipher nonce row).id = row.id := fun _ => rfl
  rw [get, find?_modify hid, if_pos rfl, hfound]
  rfl

end Rewriting

/-! ## Commands that fail -/

/-- What a command to a registry leaves when it fails. -/
structure FailureLeaves (secret : String) (registry : Registry) (command : Command) : Prop where
  /-- A command that fails has changed nothing, unless it changes a row without a creation time. -/
  unchanged : ∀ failure,
    ((Session.opened secret registry).perform secret command).1.Fails failure →
    (∀ fault, ¬ command.ChangesUndated registry fault) →
      ((Session.opened secret registry).perform secret command).2 = .opened secret registry
  /-- Such a change is made, and told as a failure. -/
  changed : ∀ now nonce id draft fault, command = .update now nonce id draft →
    command.ChangesUndated registry fault →
      (Session.opened secret registry).perform secret command =
        (.one (.error (undated id fault)),
          .opened secret (registry.modify id (draft.rewrite (.ofSecret secret) nonce)))

section Failing

variable {secret : String} {registry : Registry}

/-- How a change ends that is not refused at once. -/
theorem Session.perform_update_of_found (now : Moment) (nonce : Nonce) {id : Int} {draft : Draft}
    {row : StoredConnection} (hcheck : draft.check = .ok ())
    (hfound : registry.find? id = some row) :
    (Session.opened secret registry).perform secret (.update now nonce id draft) =
      (.one ((draft.rewrite (.ofSecret secret) nonce row).decode (.ofSecret secret)),
        .opened secret (registry.modify id (draft.rewrite (.ofSecret secret) nonce))) := by
  rw [← Registry.get_modify_rewrite draft nonce hfound]
  simp only [Session.perform, Session.opened, Registry.update, hcheck, hfound]
  rfl

theorem Session.unchanged_of_update_fails {now : Moment} {nonce : Nonce} {id : Int} {draft : Draft}
    {failure : Failure}
    (hfails : ((Session.opened secret registry).perform secret
      (.update now nonce id draft)).1.Fails failure)
    (hdated : ∀ fault, ¬ (Command.update now nonce id draft).ChangesUndated registry fault) :
    ((Session.opened secret registry).perform secret (.update now nonce id draft)).2 =
      .opened secret registry := by
  cases hcheck : draft.check with
  | error refusal => simp [Session.perform, Session.opened, Registry.update, hcheck]
  | ok _ =>
      cases hfound : registry.find? id with
      | none => simp [Session.perform, Session.opened, Registry.update, hcheck, hfound]
      | some row =>
          -- The row is read back, so the failure is about its creation time.
          exfalso
          rw [Session.perform_update_of_found now nonce hcheck hfound, Reply.Fails,
            decode_rewrite draft nonce (Cipher.length_key_ofSecret secret)] at hfails
          cases hstamp : Time.Timestamp.ofText? row.createdAt.toList with
          | ok createdAt =>
              rw [hstamp] at hfails
              cases hfails
          | error fault => exact hdated fault (.update now nonce hcheck hfound hstamp)

end Failing

/-- A command to a registry that fails has changed nothing, whatever the table holds, but for a
change to a row whose creation time cannot be read: that is made and told as a failure. -/
theorem Session.perform_failureLeaves (secret : String) (registry : Registry) (command : Command) :
    FailureLeaves secret registry command where
  unchanged failure hfails hdated := by
    cases command with
    | create now nonce draft =>
        rcases registry.create_cases ⟨.ofSecret secret, nonce.bytes, now.stamp⟩ draft with
          ⟨refusal, hrefused⟩ | ⟨connection, row, -, hcreated⟩
        · exact congrArg (fun done => Session.mk (.ofSecret secret) done.2) hrefused
        · have hdone := (congrArg Prod.fst hcreated).symm.trans hfails
          cases hdone
    | update now nonce id draft => exact unchanged_of_update_fails hfails hdated
    | delete id =>
        rcases registry.delete_cases (.ofSecret secret) id with
          ⟨refusal, hrefused⟩ | ⟨connection, hdeleted⟩
        · exact congrArg (fun done => Session.mk (.ofSecret secret) done.2) hrefused
        · have hdone := (congrArg Prod.fst hdeleted).symm.trans hfails
          cases hdone
    | get id => rfl
    | list => rfl
    | seed now settings => exact hfails.elim
    | reopen => exact hfails.elim
  changed now nonce id draft fault hcommand hundated := by
    subst hcommand
    cases hundated with
    | update _ _ hcheck hfound hfault =>
        rename_i row
        rw [perform_update_of_found now nonce hcheck hfound,
          decode_rewrite draft nonce (Cipher.length_key_ofSecret secret), hfault]
        have hid : row.id = id := Registry.id_of_find? hfound
        simp only [hid]

/-- A change that is told as a failure has written the row: what is told about it is another failure
than before. -/
theorem Session.perform_writes_undated :
    let row : StoredConnection := ⟨1, "reporting", "oracle", "", "nope"⟩
    let now : Moment := ⟨.ofNanos 0, by constructor <;> decide⟩
    let nonce : Nonce := ⟨List.replicate nonceSize 0, by decide⟩
    let session := Session.opened "k" ⟨[row]⟩
    let done := session.perform "k" (.update now nonce 1 ⟨"sales", .duckDb, "sales.duckdb"⟩)
    done.1.Fails (undated 1 .tooShort) ∧ done.2.registry ≠ session.registry ∧
      (session.perform "k" (.get 1)).1.Fails
        (.invalidConfiguration "Unsupported dialect: oracle") ∧
      (done.2.perform "k" (.get 1)).1.Fails (undated 1 .tooShort) := by
  intro row now nonce session done
  let draft : Draft := ⟨"sales", .duckDb, "sales.duckdb"⟩
  have hcheck : draft.check = .ok () := by decide +kernel
  have hstamp : Time.Timestamp.ofText? row.createdAt.toList = .error .tooShort := by decide +kernel
  have hread : (draft.rewrite (.ofSecret "k") nonce row).decode (.ofSecret "k") =
      .error (undated 1 .tooShort) := by
    rw [decode_rewrite draft nonce (Cipher.length_key_ofSecret "k"), hstamp]
  have hdone : done = (.one (.error (undated 1 .tooShort)),
      .opened "k" ⟨[draft.rewrite (.ofSecret "k") nonce row]⟩) := by
    rw [← hread]
    exact perform_update_of_found now nonce hcheck rfl
  rw [hdone]
  refine ⟨rfl, ?_, ?_, hread⟩
  · intro hsame
    have hnames := congrArg (fun registry => registry.rows.map StoredConnection.name) hsame
    revert hnames
    decide
  · have hbefore : row.decode (.ofSecret "k") =
        .error (.invalidConfiguration "Unsupported dialect: oracle") := by decide +kernel
    exact hbefore

end QueryWarden.Connections
