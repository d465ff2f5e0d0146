import QueryWarden.Proofs.Connections.Changes
import QueryWarden.Proofs.Connections.Refinement
import QueryWarden.Proofs.Text.Trimming

/-!
# Blank connections

Creating and changing a connection refuse a draft with a blank name or a blank connection string;
taking over the settings of the configuration does not look. So the blank connections of a registry
are those that some settings brought in and nothing has changed since, and there are none if the
settings have no blanks.
-/

namespace QueryWarden.Connections

open QueryWarden.Database

/-- Of both texts something is left without the blanks at their ends. -/
def IsUsable (name connectionString : String) : Prop :=
  Text.trim name.toList ≠ [] ∧ Text.trim connectionString.toList ≠ []

/-- The name and the connection string of a connection are usable. -/
def Connection.IsUsable (connection : Connection) : Prop :=
  Connections.IsUsable connection.name connection.connectionString

/-- The name and the connection string of a setting are usable. -/
def Settings.IsUsable (setting : Settings) : Prop :=
  Connections.IsUsable setting.name setting.connectionString

/-- Drafts are checked for just that. -/
theorem Draft.check_eq_ok_iff {draft : Draft} :
    draft.check = .ok () ↔ IsUsable draft.name draft.connectionString := by
  rw [Draft.check, IsUsable, Ne, Ne, Text.trim_eq_nil_iff, Text.trim_eq_nil_iff]
  split
  next hname => simp [hname]
  next hname =>
    split
    next hstring => simp [hstring]
    next hstring => simp [hname, hstring]

theorem Draft.isUsable_entry {draft : Draft} (hcheck : draft.check = .ok ())
    (createdAt : Time.Timestamp) (id : Int) :
    ((draft.entry createdAt).connection id).IsUsable :=
  Draft.check_eq_ok_iff.mp hcheck

/-- The command takes over settings, and this is the last of them with the id. -/
def Command.Settles (command : Command) (id : Int) (setting : Settings) : Prop :=
  ∃ now settings, command = .seed now settings ∧
    ((settings.map Prod.snd).reverse.find? fun setting => setting.id == id) = some setting

/-! ## One command -/

section Steps

variable {entries : Entries} {id : Int} {connection : Connection}

theorem Entries.of_get_create {now : Time.Timestamp} {draft : Draft}
    (hget : (entries.create now draft).2.get id = .ok connection) :
    entries.get id = .ok connection ∨ connection.IsUsable := by
  unfold create at hget
  cases hcheck : draft.check with
  | error failure =>
      rw [hcheck] at hget
      exact .inl hget
  | ok _ =>
      rw [hcheck] at hget
      dsimp only at hget
      split at hget
      next => exact .inl hget
      next =>
        rw [get_insert] at hget
        split at hget
        next =>
          obtain rfl := Except.ok.inj hget
          exact .inr (Draft.isUsable_entry hcheck _ _)
        next => exact .inl hget

theorem Entries.of_get_update {other : Int} {draft : Draft}
    (hget : (entries.update other draft).2.get id = .ok connection) :
    entries.get id = .ok connection ∨ connection.IsUsable := by
  unfold update at hget
  cases hcheck : draft.check with
  | error failure =>
      rw [hcheck] at hget
      exact .inl hget
  | ok _ =>
      cases hlookup : entries.lookup other with
      | none =>
          rw [hcheck, hlookup] at hget
          exact .inl hget
      | some entry =>
          rw [hcheck, hlookup] at hget
          dsimp only at hget
          rw [get_insert] at hget
          split at hget
          next =>
            obtain rfl := Except.ok.inj hget
            exact .inr (Draft.isUsable_entry hcheck _ _)
          next => exact .inl hget

theorem Entries.of_get_delete {other : Int}
    (hget : (entries.delete other).2.get id = .ok connection) :
    entries.get id = .ok connection := by
  cases hlookup : entries.lookup other with
  | none =>
      rw [delete, hlookup] at hget
      exact hget
  | some entry =>
      have hdeleted := get_eq_ok_iff.mpr ⟨entry, hlookup, rfl⟩
      rw [(delete_spec hdeleted).2] at hget
      split at hget
      next => cases hget
      next => exact hget

/-- A setting that is taken over is stored as it is. -/
theorem Entries.get_seed_of_last (entries : Entries) {settings : List Settings}
    {setting : Settings}
    (hlast : (settings.reverse.find? fun setting => setting.id == id) = some setting)
    (now : Time.Timestamp) :
    ∃ createdAt, (entries.seed now settings).get id =
      .ok ((setting.entry createdAt).connection id) := by
  have hlookup := entries.lookup_seed now settings id
  rw [hlast] at hlookup
  exact ⟨_, get_eq_ok_iff.mpr ⟨_, hlookup, rfl⟩⟩

theorem Entries.get_seed_of_none {settings : List Settings}
    (hnone : (settings.reverse.find? fun setting => setting.id == id) = none)
    (now : Time.Timestamp) : (entries.seed now settings).get id = entries.get id := by
  have hlookup := entries.lookup_seed now settings id
  rw [hnone] at hlookup
  rw [get, get, hlookup]

/-- A connection is there from before, or its draft was checked, or it is one of the settings. -/
theorem Entries.origin_of_get_perform {command : Command}
    (hget : (entries.perform command).2.get id = .ok connection) :
    entries.get id = .ok connection ∨ connection.IsUsable ∨
      ∃ setting, command.Settles id setting := by
  cases command with
  | create now nonce draft => exact (of_get_create hget).imp_right .inl
  | update now nonce other draft => exact (of_get_update hget).imp_right .inl
  | delete other => exact .inl (of_get_delete hget)
  | get other => exact .inl hget
  | list => exact .inl hget
  | seed now settings =>
      cases hlast : (settings.map Prod.snd).reverse.find? fun setting => setting.id == id with
      | none => exact .inl ((get_seed_of_none hlast now.stamp).symm.trans hget)
      | some setting => exact .inr (.inr ⟨setting, now, settings, rfl, hlast⟩)
  | reopen => exact .inl hget

end Steps

/-! ## Runs -/

theorem runCommands_concat {State : Type} (perform : State → Command → Reply × State)
    (state : State) (commands : List Command) (command : Command) :
    (runCommands perform state (commands ++ [command])).2 =
      (perform (runCommands perform state commands).2 command).2 := by
  induction commands generalizing state with
  | nil => rfl
  | cons first commands ih => exact ih (perform state first).2

namespace Session

/-- A registry that was opened on an empty table, after some commands. -/
def after (secret : String) (commands : List Command) : Session :=
  (runCommands (Session.perform secret) (.opened secret .empty) commands).2

/-- The connection that is stored under an id. -/
def get (session : Session) (id : Int) : Except Failure Connection :=
  session.registry.get session.cipher id

/-- One of the commands brought the connection in as an unusable setting, and it has been there
since. -/
def BroughtIn (secret : String) (commands : List Command) (id : Int) (connection : Connection) :
    Prop :=
  ∃ earlier command later setting, commands = earlier ++ command :: later ∧
    command.Settles id setting ∧ ¬ setting.IsUsable ∧
    ∀ done, earlier ++ [command] <+: done → done <+: commands →
      (after secret done).get id = .ok connection

variable {secret : String} {commands : List Command} {command : Command} {id : Int}
  {connection : Connection}

theorem represents_after (secret : String) (commands : List Command) :
    (after secret commands).Represents secret (runCommands Entries.perform ∅ commands).2 :=
  (Represents.run ⟨rfl, .empty _⟩ commands).2

theorem get_after (secret : String) (commands : List Command) (id : Int) :
    (after secret commands).get id = (runCommands Entries.perform ∅ commands).2.get id := by
  have hrep := represents_after secret commands
  rw [get, hrep.cipher_eq, hrep.registry.get_eq]

theorem get_after_concat (secret : String) (commands : List Command) (command : Command)
    (id : Int) :
    (after secret (commands ++ [command])).get id =
      ((runCommands Entries.perform ∅ commands).2.perform command).2.get id := by
  rw [get_after, runCommands_concat]

/-- Every row is read. -/
theorem exists_get_of_mem_rows {row : StoredConnection}
    (hrow : row ∈ (after secret commands).registry.rows) :
    ∃ connection, (after secret commands).get row.id = .ok connection := by
  have hrep := represents_after secret commands
  have hfound := hrep.registry.sorted.find?_of_mem hrow
  obtain ⟨entry, -, hread⟩ := hrep.registry.exists_lookup hfound
  refine ⟨entry.connection row.id, Registry.get_eq_ok_iff.mpr ⟨row, hfound, ?_⟩⟩
  rw [hrep.cipher_eq]
  exact hread

theorem BroughtIn.concat (hbrought : BroughtIn secret commands id connection)
    (hget : (after secret (commands ++ [command])).get id = .ok connection) :
    BroughtIn secret (commands ++ [command]) id connection := by
  obtain ⟨earlier, seeding, later, setting, rfl, hsettles, hunusable, hsince⟩ := hbrought
  refine ⟨earlier, seeding, later ++ [command], setting, by simp, hsettles, hunusable, ?_⟩
  intro done hearlier hdone
  rcases List.prefix_concat_iff.mp hdone with rfl | hdone
  · exact hget
  · exact hsince done hearlier hdone

/-- The settings that brought a connection in, and they only, decide whether it is usable. -/
theorem unusable_iff_broughtIn (hget : (after secret commands).get id = .ok connection) :
    ¬ connection.IsUsable ↔ BroughtIn secret commands id connection := by
  constructor
  · intro hunusable
    induction commands using List.reverseRecOn with
    | nil =>
        rw [get_after] at hget
        cases hget
    | append_singleton commands command ih =>
        have horigin := Entries.origin_of_get_perform ((get_after_concat ..).symm.trans hget)
        rcases horigin with hbefore | husable | ⟨setting, hsettles⟩
        · exact (ih ((get_after ..).trans hbefore)).concat hget
        · exact absurd husable hunusable
        · obtain ⟨now, settings, rfl, hlast⟩ := hsettles
          obtain ⟨createdAt, hseeded⟩ :=
            (runCommands Entries.perform ∅ commands).2.get_seed_of_last hlast now.stamp
          have hsame := hseeded.symm.trans ((get_after_concat ..).symm.trans hget)
          obtain rfl := Except.ok.inj hsame
          refine ⟨commands, .seed now settings, [], setting, rfl, ⟨now, settings, rfl, hlast⟩,
            hunusable, ?_⟩
          intro done hcommands hdone
          obtain rfl := hcommands.eq_of_length_le hdone.length_le
          exact hget
  · rintro ⟨earlier, seeding, later, setting, rfl, ⟨now, settings, rfl, hlast⟩, hunusable, hsince⟩
    obtain ⟨createdAt, hseeded⟩ :=
      (runCommands Entries.perform ∅ earlier).2.get_seed_of_last hlast now.stamp
    have hthen := hsince (earlier ++ [.seed now settings]) (List.prefix_refl _)
      ((List.prefix_append_right_inj _).mpr (List.prefix_append [_] later))
    rw [get_after_concat] at hthen
    obtain rfl := Except.ok.inj (hseeded.symm.trans hthen)
    exact hunusable

/-- Which connections of a registry are usable, after a run from an empty table. -/
structure UsableUnlessBroughtIn (secret : String) (commands : List Command) : Prop where
  /-- Every row is a connection that can be got. -/
  readable : ∀ row ∈ (after secret commands).registry.rows,
    ∃ connection, (after secret commands).get row.id = .ok connection
  /-- A stored connection is unusable exactly when it is an unusable setting that was taken over
  and has not been changed since. -/
  unusable_iff : ∀ id connection, (after secret commands).get id = .ok connection →
    (¬ connection.IsUsable ↔ BroughtIn secret commands id connection)
  /-- If all settings are usable, so are all connections. -/
  usable : (∀ now settings, Command.seed now settings ∈ commands →
      ∀ setting ∈ settings.map Prod.snd, setting.IsUsable) →
    ∀ id connection, (after secret commands).get id = .ok connection → connection.IsUsable

/-- Only settings bring in connections with a blank name or a blank connection string. -/
theorem run_usableUnlessBroughtIn (secret : String) (commands : List Command) :
    UsableUnlessBroughtIn secret commands where
  readable _ hrow := exists_get_of_mem_rows hrow
  unusable_iff _ _ hget := unusable_iff_broughtIn hget
  usable hsettings id connection hget := by
    by_contra hunusable
    obtain ⟨earlier, seeding, later, setting, rfl, ⟨now, settings, rfl, hlast⟩, hblank, -⟩ :=
      (unusable_iff_broughtIn hget).mp hunusable
    apply hblank
    apply hsettings now settings (by simp)
    exact List.mem_reverse.mp (List.mem_of_find?_eq_some hlast)

/-- A setting with a blank name is stored, although a draft with the same texts is refused. -/
theorem run_stores_blank_name :
    let now : Moment := ⟨.ofNanos 0, by decide, by decide, by decide⟩
    let nonce : Nonce := ⟨List.replicate 12 0, by decide⟩
    let session := after "k" [.seed now [(nonce, ⟨1, " ", .duckDb, "shop.duckdb"⟩)],
      .create now nonce ⟨" ", .duckDb, "shop.duckdb"⟩]
    session.get 1 = .ok ⟨1, " ", .duckDb, "shop.duckdb", now.stamp⟩ ∧
      session.get 2 = .error (.notFound 2) ∧ ¬ IsUsable " " "shop.duckdb" := by
  intro now nonce session
  refine ⟨?_, ?_, ?_⟩
  · exact (get_after ..).trans (by decide +kernel)
  · exact (get_after ..).trans (by decide +kernel)
  · intro husable
    exact husable.1 (by decide)

end Session

end QueryWarden.Connections
