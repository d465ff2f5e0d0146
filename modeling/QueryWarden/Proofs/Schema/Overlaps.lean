import QueryWarden.Proofs.Schema.Cache
import Mathlib.Data.List.Basic
import Mathlib.Data.List.Induction
import Mathlib.Logic.Function.Basic

/-!
# Calls for a schema that overlap

Calls for the schema of one connection take their steps in any order: each step is one operation on
the cache or one introspection, and no lock is held from one step to the next. What is cached for
the connection was stored last by one of them. So what is found once a refresh has begun was
introspected since, or was held by a call that had introspected it before and stored it since. Such
a call undoes the refresh, and nothing else does.
-/

namespace QueryWarden.Schema

open QueryWarden.Connections QueryWarden.Targets

/-! ## Steps -/

/-- A call for the schema of a connection. -/
inductive LoadCall where
  | get
  | refresh
  deriving DecidableEq, Repr

/-- What a call does next. -/
inductive LoadStage where
  /-- It drops what is cached for the connection, which only a refresh does. -/
  | forgetting
  /-- It looks into the cache. -/
  | lookingUp
  /-- It introspects the database, since nothing was found. -/
  | introspecting
  /-- It stores what it has introspected. -/
  | storing (snapshot : Snapshot)
  /-- It is over. -/
  | returned (outcome : Except Database.Failure Snapshot)

/-- What a call does first. -/
def LoadCall.firstStage : LoadCall → LoadStage
  | .get => .lookingUp
  | .refresh => .forgetting

/-- A step of the call with a number, at a time by the clock of the cache and with the databases as
they are then. -/
structure LoadTurn where
  call : Nat
  now : Nat
  databases : Databases

/-- What the database of a connection has to say at a step. -/
def LoadTurn.introspect (turn : LoadTurn) (connection : Connection) :
    Except Database.Failure Snapshot :=
  turn.databases.introspect connection.dialect connection.connectionString

/-- The cache after a step, and what the call does next. -/
def LoadStage.advance (connection : Connection) (turn : LoadTurn) (cache : Cache) :
    LoadStage → Cache × LoadStage
  | .forgetting => (cache.forget connection.id, .lookingUp)
  | .lookingUp =>
      match cache.get? turn.now (Cache.keyOf connection) with
      | some snapshot => (cache, .returned (.ok snapshot))
      | none => (cache, .introspecting)
  | .introspecting =>
      match turn.introspect connection with
      | .error failure => (cache, .returned (.error failure))
      | .ok snapshot => (cache, .storing snapshot)
  | .storing snapshot =>
      (cache.set turn.now (Cache.keyOf connection) snapshot, .returned (.ok snapshot))
  | .returned outcome => (cache, .returned outcome)

/-- A cache and the calls that use it, each at some stage. -/
structure Loading where
  cache : Cache
  stage : Nat → LoadStage

namespace Loading

/-- Calls that are all still to begin. -/
def ofCalls (cache : Cache) (calls : Nat → LoadCall) : Loading :=
  ⟨cache, fun call => (calls call).firstStage⟩

/-- The call of a turn takes one step. -/
def advance (connection : Connection) (state : Loading) (turn : LoadTurn) : Loading :=
  let (cache, stage) := (state.stage turn.call).advance connection turn state.cache
  ⟨cache, Function.update state.stage turn.call stage⟩

/-- The calls take their steps in the order of the turns. -/
def run (connection : Connection) (state : Loading) (turns : List LoadTurn) : Loading :=
  turns.foldl (advance connection) state

variable {connection : Connection} {state : Loading}

theorem run_append (turns more : List LoadTurn) :
    state.run connection (turns ++ more) = (state.run connection turns).run connection more :=
  List.foldl_append

theorem run_concat (turns : List LoadTurn) (turn : LoadTurn) :
    state.run connection (turns ++ [turn]) = (state.run connection turns).advance connection turn :=
  List.foldl_append

theorem stage_advance (turn : LoadTurn) :
    (state.advance connection turn).stage turn.call =
      ((state.stage turn.call).advance connection turn state.cache).2 :=
  Function.update_self ..

theorem stage_advance_of_ne {turn : LoadTurn} {call : Nat} (hcall : call ≠ turn.call) :
    (state.advance connection turn).stage call = state.stage call :=
  Function.update_of_ne hcall _ _

theorem cache_advance (turn : LoadTurn) :
    (state.advance connection turn).cache =
      ((state.stage turn.call).advance connection turn state.cache).1 := rfl

/-- The turns of a call that nothing interrupts. -/
def turnsAlone (call : Nat) (times : Cache.LoadTimes) (databases : Databases) : List LoadTurn :=
  [⟨call, times.asked, databases⟩, ⟨call, times.answered, databases⟩,
    ⟨call, times.answered, databases⟩]

/-- A call that nothing interrupts asks for the schema. -/
theorem run_turnsAlone {call : Nat} (hcall : state.stage call = .lookingUp)
    (times : Cache.LoadTimes) (databases : Databases) :
    state.run connection (turnsAlone call times databases) =
      ⟨(state.cache.load times databases connection).2,
        Function.update state.stage call
          (.returned (state.cache.load times databases connection).1)⟩ := by
  cases hget : state.cache.get? times.asked (Cache.keyOf connection) with
  | some snapshot =>
      simp [run, turnsAlone, advance, hcall, LoadStage.advance, Cache.load, hget]
  | none =>
      cases hintrospect :
          databases.introspect connection.dialect connection.connectionString with
      | error failure =>
          simp [run, turnsAlone, advance, hcall, LoadStage.advance, Cache.load, hget,
            LoadTurn.introspect, hintrospect]
      | ok snapshot =>
          simp [run, turnsAlone, advance, hcall, LoadStage.advance, Cache.load, hget,
            LoadTurn.introspect, hintrospect]

/-- A refresh that nothing interrupts asks for the schema anew. -/
theorem run_forgetting_turnsAlone {call now : Nat} (hcall : state.stage call = .forgetting)
    (times : Cache.LoadTimes) (databases : Databases) :
    state.run connection (⟨call, now, databases⟩ :: turnsAlone call times databases) =
      ⟨(state.cache.refresh times databases connection).2,
        Function.update state.stage call
          (.returned (state.cache.refresh times databases connection).1)⟩ := by
  have hforgot : state.advance connection ⟨call, now, databases⟩ =
      ⟨state.cache.forget connection.id, Function.update state.stage call .lookingUp⟩ := by
    simp [advance, hcall, LoadStage.advance]
  change (state.advance connection _).run connection _ = _
  rw [hforgot, run_turnsAlone (Function.update_self ..), Function.update_idem]
  rfl

end Loading

/-! ## What is cached for a connection -/

namespace Cache

/-- The entry for a connection. -/
def cached? (cache : Cache) (connection : Connection) : Option CacheEntry :=
  cache.entries.find? fun entry => entry.key == keyOf connection

variable {cache : Cache} {connection : Connection}

theorem key_of_cached? {entry : CacheEntry} (hentry : cache.cached? connection = some entry) :
    entry.key = keyOf connection := by
  have hkey := List.find?_some hentry
  exact beq_iff_eq.mp hkey

theorem get?_keyOf_eq_some_iff {now : Nat} {snapshot : Snapshot} :
    cache.get? now (keyOf connection) = some snapshot ↔
      ∃ stored, cache.cached? connection = some ⟨keyOf connection, snapshot, stored⟩ ∧
        now - stored < cache.lifetime := by
  rw [get?, cached?]
  cases hfind : cache.entries.find? fun entry => entry.key == keyOf connection with
  | none => simp
  | some entry =>
      obtain ⟨key, found, stored⟩ := entry
      obtain rfl : key = keyOf connection := key_of_cached? hfind
      simp only [isFresh, decide_eq_true_eq, Option.ite_none_right_eq_some, Option.some.injEq,
        CacheEntry.mk.injEq, true_and]
      constructor
      · rintro ⟨halive, rfl⟩
        exact ⟨stored, ⟨rfl, rfl⟩, halive⟩
      · rintro ⟨_, ⟨rfl, rfl⟩, halive⟩
        exact ⟨halive, rfl⟩

theorem cached?_forget (cache : Cache) (connection : Connection) :
    (cache.forget connection.id).cached? connection = none := by
  rw [cached?, List.find?_eq_none]
  intro entry hentry hkey
  obtain ⟨-, hother⟩ := mem_entries_forget_iff.mp hentry
  rw [beq_iff_eq.mp hkey] at hother
  exact hother (keyOpening_prefix_iff.mpr rfl)

theorem cached?_set (cache : Cache) (now : Nat) (connection : Connection) (snapshot : Snapshot) :
    (cache.set now (keyOf connection) snapshot).cached? connection =
      some ⟨keyOf connection, snapshot, now⟩ := by
  rw [cached?, set, List.find?_append, List.find?_eq_none.mpr]
  · simp
  · intro entry hentry hkey
    obtain ⟨-, hother⟩ := List.mem_filter.mp hentry
    simp [beq_iff_eq.mp hkey] at hother

end Cache

/-! ## Who stored it -/

/-- The step drops or replaces what is cached. -/
inductive LoadStage.Writes : LoadStage → Prop
  | forgetting : Writes .forgetting
  | storing (snapshot : Snapshot) : Writes (.storing snapshot)

namespace Loading

variable {connection : Connection} {state : Loading}

/-- Of the steps taken since some state the last one that wrote to the cache was the call's, which
stored a snapshot then. -/
def StoredLast (connection : Connection) (state : Loading) (turns : List LoadTurn)
    (call stored : Nat) (snapshot : Snapshot) : Prop :=
  ∃ earlier turn later, turns = earlier ++ turn :: later ∧ turn.call = call ∧ turn.now = stored ∧
    (state.run connection earlier).stage call = .storing snapshot ∧
    ∀ done next, done ++ [next] <+: later →
      ¬ ((state.run connection (earlier ++ turn :: done)).stage next.call).Writes

/-- One of the steps taken since some state introspected the snapshot. -/
def Introspected (connection : Connection) (state : Loading) (turns : List LoadTurn)
    (snapshot : Snapshot) : Prop :=
  ∃ earlier turn later, turns = earlier ++ turn :: later ∧
    (state.run connection earlier).stage turn.call = .introspecting ∧
    turn.introspect connection = .ok snapshot

section Storing

variable {turns : List LoadTurn} {turn : LoadTurn} {call stored : Nat} {snapshot : Snapshot}

theorem storedLast_concat_iff :
    StoredLast connection state (turns ++ [turn]) call stored snapshot ↔
      (turn.call = call ∧ turn.now = stored ∧
        (state.run connection turns).stage call = .storing snapshot) ∨
      ¬ ((state.run connection turns).stage turn.call).Writes ∧
        StoredLast connection state turns call stored snapshot := by
  constructor
  · rintro ⟨earlier, storing, later, hturns, hcall, hstored, hstage, hlater⟩
    rcases later.eq_nil_or_concat' with rfl | ⟨front, last, rfl⟩
    · obtain ⟨rfl, hlast⟩ := List.append_inj' hturns rfl
      obtain rfl := List.singleton_inj.mp hlast
      exact .inl ⟨hcall, hstored, hstage⟩
    · rw [← List.cons_append, ← List.append_assoc] at hturns
      obtain ⟨rfl, hlast⟩ := List.append_inj' hturns rfl
      obtain rfl := List.singleton_inj.mp hlast
      refine .inr ⟨hlater front turn (List.prefix_refl _), ?_⟩
      refine ⟨earlier, storing, front, rfl, hcall, hstored, hstage, ?_⟩
      intro done next hdone
      exact hlater done next (hdone.trans (List.prefix_append _ _))
  · rintro (⟨hcall, hstored, hstage⟩ | ⟨hwrites, earlier, storing, later, rfl, hcall, hstored,
      hstage, hlater⟩)
    · refine ⟨turns, turn, [], rfl, hcall, hstored, hstage, ?_⟩
      intro done next hdone
      exact absurd (List.prefix_nil.mp hdone) (by simp)
    · refine ⟨earlier, storing, later ++ [turn], by simp, hcall, hstored, hstage, ?_⟩
      intro done next hdone
      rcases List.prefix_concat_iff.mp hdone with hall | hdone
      · obtain ⟨rfl, hlast⟩ := List.append_inj' hall rfl
        obtain rfl := List.singleton_inj.mp hlast
        exact hwrites
      · exact hlater done next hdone

/-- A step that does not write leaves the cache as it is. -/
theorem cache_advance_of_not_writes (hturn : ¬ (state.stage turn.call).Writes) :
    (state.advance connection turn).cache = state.cache := by
  rw [cache_advance]
  cases hstage : state.stage turn.call with
  | forgetting => exact absurd (hstage ▸ .forgetting) hturn
  | lookingUp => simp only [LoadStage.advance]; split <;> rfl
  | introspecting => simp only [LoadStage.advance]; split <;> rfl
  | storing found => exact absurd (hstage ▸ .storing found) hturn
  | returned outcome => rfl

theorem lifetime_run (turns : List LoadTurn) :
    (state.run connection turns).cache.lifetime = state.cache.lifetime := by
  induction turns using List.reverseRecOn with
  | nil => rfl
  | append_singleton turns turn ih =>
      rw [run_concat, ← ih]
      by_cases hturn : ((state.run connection turns).stage turn.call).Writes
      · rw [cache_advance]
        generalize (state.run connection turns).stage turn.call = stage at hturn ⊢
        cases hturn <;> rfl
      · rw [cache_advance_of_not_writes hturn]

/-- What is cached was stored last. -/
theorem cached?_run_eq_some_iff (hnone : state.cache.cached? connection = none) :
    (state.run connection turns).cache.cached? connection =
        some ⟨Cache.keyOf connection, snapshot, stored⟩ ↔
      ∃ call, StoredLast connection state turns call stored snapshot := by
  induction turns using List.reverseRecOn with
  | nil => simp [run, hnone, StoredLast]
  | append_singleton turns turn ih =>
      simp only [storedLast_concat_iff]
      rw [run_concat]
      by_cases hturn : ((state.run connection turns).stage turn.call).Writes
      · rw [cache_advance]
        generalize hstage : (state.run connection turns).stage turn.call = stage at hturn ⊢
        cases hturn with
        | forgetting =>
            simp only [LoadStage.advance, Cache.cached?_forget]
            constructor
            · nofun
            · rintro ⟨call, ⟨rfl, -, hstoring⟩ | ⟨hquiet, -⟩⟩
              · cases hstage.symm.trans hstoring
              · exact absurd .forgetting hquiet
        | storing found =>
            simp only [LoadStage.advance, Cache.cached?_set, Option.some.injEq,
              CacheEntry.mk.injEq, true_and]
            constructor
            · rintro ⟨rfl, rfl⟩
              exact ⟨turn.call, .inl ⟨rfl, rfl, hstage⟩⟩
            · rintro ⟨call, ⟨rfl, hnow, hstoring⟩ | ⟨hquiet, -⟩⟩
              · exact ⟨LoadStage.storing.inj (hstage.symm.trans hstoring), hnow⟩
              · exact absurd (.storing found) hquiet
      · rw [cache_advance_of_not_writes hturn, ih]
        refine exists_congr fun call => ⟨fun hlast => .inr ⟨hturn, hlast⟩, ?_⟩
        rintro (⟨rfl, -, hstoring⟩ | ⟨-, hlast⟩)
        · exact absurd (hstoring ▸ .storing snapshot) hturn
        · exact hlast

end Storing

/-! ## What a call brings -/

section Bringing

variable {turns : List LoadTurn} {turn : LoadTurn} {call : Nat} {snapshot : Snapshot}

theorem Introspected.append (hsnapshot : Introspected connection state turns snapshot)
    (more : List LoadTurn) : Introspected connection state (turns ++ more) snapshot := by
  obtain ⟨earlier, turn, later, rfl, hstage, hintrospect⟩ := hsnapshot
  exact ⟨earlier, turn, later ++ more, by simp, hstage, hintrospect⟩

theorem Introspected.of_run {turns more : List LoadTurn}
    (hsnapshot : Introspected connection (state.run connection turns) more snapshot) :
    Introspected connection state (turns ++ more) snapshot := by
  obtain ⟨earlier, turn, later, rfl, hstage, hintrospect⟩ := hsnapshot
  exact ⟨turns ++ earlier, turn, later, by simp, by rwa [run_append], hintrospect⟩

/-- A call that has a snapshot to store had it before or has introspected it. -/
theorem of_stage_run_eq_storing
    (hstoring : (state.run connection turns).stage call = .storing snapshot) :
    state.stage call = .storing snapshot ∨ Introspected connection state turns snapshot := by
  induction turns using List.reverseRecOn with
  | nil => exact .inl hstoring
  | append_singleton turns turn ih =>
      rw [run_concat] at hstoring
      by_cases hcall : call = turn.call
      · subst hcall
        rw [stage_advance] at hstoring
        right
        cases hstage : (state.run connection turns).stage turn.call with
        | introspecting =>
            rw [hstage, LoadStage.advance] at hstoring
            split at hstoring
            next => cases hstoring
            next found hfound =>
              obtain rfl := LoadStage.storing.inj hstoring
              exact ⟨turns, turn, [], rfl, hstage, hfound⟩
        | lookingUp =>
            rw [hstage, LoadStage.advance] at hstoring
            split at hstoring <;> cases hstoring
        | _ => rw [hstage] at hstoring; cases hstoring
      · rw [stage_advance_of_ne hcall] at hstoring
        exact (ih hstoring).imp_right fun hsnapshot => hsnapshot.append [turn]

end Bringing

end Loading

/-- The call has looked up in vain, and the snapshot that it has or returns is one of some. -/
inductive LoadStage.Brings (among : Snapshot → Prop) : LoadStage → Prop
  | introspecting : Brings among .introspecting
  | storing {snapshot : Snapshot} (hsnapshot : among snapshot) : Brings among (.storing snapshot)
  | returned {outcome : Except Database.Failure Snapshot}
      (houtcome : ∀ snapshot, outcome = .ok snapshot → among snapshot) :
      Brings among (.returned outcome)

namespace LoadStage.Brings

variable {among : Snapshot → Prop} {stage : LoadStage}

theorem mono {more : Snapshot → Prop} (hmore : ∀ snapshot, among snapshot → more snapshot)
    (hstage : stage.Brings among) : stage.Brings more := by
  cases hstage with
  | introspecting => exact .introspecting
  | storing hsnapshot => exact .storing (hmore _ hsnapshot)
  | returned houtcome => exact .returned fun _ hok => hmore _ (houtcome _ hok)

theorem advance {connection : Connection} {turn : LoadTurn} (cache : Cache)
    (hstage : stage.Brings among)
    (hfound : ∀ snapshot, stage = .introspecting → turn.introspect connection = .ok snapshot →
      among snapshot) :
    (stage.advance connection turn cache).2.Brings among := by
  cases hstage with
  | introspecting =>
      rw [LoadStage.advance]
      split
      next => exact .returned nofun
      next found hok => exact .storing (hfound found rfl hok)
  | storing hsnapshot =>
      refine .returned fun _ hok => ?_
      obtain rfl := Except.ok.inj hok
      exact hsnapshot
  | returned houtcome => exact .returned houtcome

end LoadStage.Brings

namespace Loading

section Returning

variable {connection : Connection} {state : Loading} {turns : List LoadTurn} {turn : LoadTurn}
  {call : Nat} {snapshot : Snapshot}

/-- A call that has looked up in vain goes on with what it has introspected since. -/
theorem brings_run (connection : Connection) (hcall : state.stage call = .introspecting)
    (turns : List LoadTurn) :
    ((state.run connection turns).stage call).Brings (Introspected connection state turns) := by
  induction turns using List.reverseRecOn with
  | nil =>
      rw [show (state.run connection []).stage call = .introspecting from hcall]
      exact .introspecting
  | append_singleton turns turn ih =>
      have hbrings := ih.mono fun _ hsnapshot => hsnapshot.append [turn]
      rw [run_concat]
      by_cases hturn : call = turn.call
      · subst hturn
        rw [stage_advance]
        exact hbrings.advance _ fun found hstage hfound => ⟨turns, turn, [], rfl, hstage, hfound⟩
      · rwa [stage_advance_of_ne hturn]

theorem stage_run_of_returned {outcome : Except Database.Failure Snapshot}
    (hcall : state.stage call = .returned outcome) (turns : List LoadTurn) :
    (state.run connection turns).stage call = .returned outcome := by
  induction turns using List.reverseRecOn with
  | nil => exact hcall
  | append_singleton turns turn ih =>
      rw [run_concat]
      by_cases hturn : call = turn.call
      · subst hturn
        rw [stage_advance, ih, LoadStage.advance]
      · rwa [stage_advance_of_ne hturn]

theorem stage_advance_of_found (hasked : state.stage turn.call = .lookingUp)
    (hfound : state.cache.get? turn.now (Cache.keyOf connection) = some snapshot) :
    (state.advance connection turn).stage turn.call = .returned (.ok snapshot) := by
  simp only [stage_advance, hasked, LoadStage.advance, hfound]

theorem stage_advance_of_missed (hasked : state.stage turn.call = .lookingUp)
    (hmissed : state.cache.get? turn.now (Cache.keyOf connection) = none) :
    (state.advance connection turn).stage turn.call = .introspecting := by
  simp only [stage_advance, hasked, LoadStage.advance, hmissed]

/-- A call returns what it finds in the cache, or else what it introspects. -/
theorem of_stage_run_eq_returned (hasked : state.stage turn.call = .lookingUp)
    (hreturned :
      (state.run connection (turn :: turns)).stage turn.call = .returned (.ok snapshot)) :
    state.cache.get? turn.now (Cache.keyOf connection) = some snapshot ∨
      Introspected connection state (turn :: turns) snapshot := by
  change ((state.advance connection turn).run connection turns).stage turn.call = _ at hreturned
  cases hget : state.cache.get? turn.now (Cache.keyOf connection) with
  | some found =>
      rw [stage_run_of_returned (stage_advance_of_found hasked hget)] at hreturned
      cases hreturned
      exact .inl rfl
  | none =>
      have hmissed := stage_advance_of_missed hasked hget
      have hbrings := brings_run connection hmissed turns
      rw [hreturned] at hbrings
      cases hbrings with
      | returned houtcome =>
          have hsince : Introspected connection (state.run connection [turn]) turns snapshot :=
            houtcome _ rfl
          exact .inr hsince.of_run

end Returning

/-! ## Refreshing -/

/-- What calls come upon after a refresh has dropped what was cached for the connection, if they
look into the cache later than that. Some turns were taken before it from a first state. -/
structure RefreshHolds (connection : Connection) (first : Loading) (before : List LoadTurn)
    (dropped : Loading) : Prop where
  /-- What a call still held while the refresh dropped what was cached is older than the refresh. -/
  older : ∀ call snapshot, dropped.stage call = .storing snapshot →
    Introspected connection first before snapshot
  /-- What a later call returns was introspected since, unless a call held it then, and has stored
  it last and not too long ago. -/
  returned : ∀ between asked rest snapshot,
    (dropped.run connection between).stage asked.call = .lookingUp →
    (dropped.run connection (between ++ asked :: rest)).stage asked.call =
      .returned (.ok snapshot) →
    Introspected connection dropped (between ++ asked :: rest) snapshot ∨
      ∃ call stored, dropped.stage call = .storing snapshot ∧
        StoredLast connection dropped between call stored snapshot ∧
        asked.now - stored < dropped.cache.lifetime
  /-- What was stored last and not too long ago is what a later call returns, however old it is. -/
  undone : ∀ between asked rest call stored snapshot,
    (dropped.run connection between).stage asked.call = .lookingUp →
    StoredLast connection dropped between call stored snapshot →
    asked.now - stored < dropped.cache.lifetime →
    (dropped.run connection (between ++ asked :: rest)).stage asked.call =
      .returned (.ok snapshot)
  /-- If no call held a snapshot then, what every later call returns was introspected since. -/
  renewed : (∀ call snapshot, dropped.stage call ≠ .storing snapshot) →
    ∀ between asked rest snapshot,
      (dropped.run connection between).stage asked.call = .lookingUp →
      (dropped.run connection (between ++ asked :: rest)).stage asked.call =
        .returned (.ok snapshot) →
      Introspected connection dropped (between ++ asked :: rest) snapshot
  /-- So it is the schema of the database, if that has not changed since. -/
  current : (∀ call snapshot, dropped.stage call ≠ .storing snapshot) →
    ∀ between asked rest snapshot schema,
      (∀ turn ∈ between ++ asked :: rest, turn.introspect connection = .ok schema) →
      (dropped.run connection between).stage asked.call = .lookingUp →
      (dropped.run connection (between ++ asked :: rest)).stage asked.call =
        .returned (.ok snapshot) →
      snapshot = schema

section Refreshing

variable {connection : Connection} {state dropped : Loading} {turns between rest : List LoadTurn}
  {asked : LoadTurn} {snapshot schema : Snapshot}

theorem Introspected.eq_of_unchanged (hsnapshot : Introspected connection state turns snapshot)
    (hschema : ∀ turn ∈ turns, turn.introspect connection = .ok schema) : snapshot = schema := by
  obtain ⟨earlier, turn, later, rfl, -, hintrospect⟩ := hsnapshot
  have hturn := hschema turn (List.mem_append_right _ List.mem_cons_self)
  exact Except.ok.inj (hintrospect.symm.trans hturn)

/-- What is stored last was held from the first or introspected since. -/
theorem StoredLast.of_held {call stored : Nat}
    (hlast : StoredLast connection state turns call stored snapshot) :
    state.stage call = .storing snapshot ∨ Introspected connection state turns snapshot := by
  obtain ⟨earlier, turn, later, rfl, -, -, hstoring, -⟩ := hlast
  exact (of_stage_run_eq_storing hstoring).imp_right fun hsnapshot => hsnapshot.append _

/-- A call that looks into the cache finds what was stored last, for as long as that lives. -/
theorem get?_run_eq_some_iff (hnone : state.cache.cached? connection = none) {now : Nat} :
    (state.run connection turns).cache.get? now (Cache.keyOf connection) = some snapshot ↔
      ∃ call stored, StoredLast connection state turns call stored snapshot ∧
        now - stored < state.cache.lifetime := by
  rw [Cache.get?_keyOf_eq_some_iff, lifetime_run]
  simp only [cached?_run_eq_some_iff hnone]
  constructor
  · rintro ⟨stored, ⟨call, hlast⟩, halive⟩
    exact ⟨call, stored, hlast, halive⟩
  · rintro ⟨call, stored, hlast, halive⟩
    exact ⟨stored, ⟨call, hlast⟩, halive⟩

theorem returned_of_cached?_eq_none (hnone : dropped.cache.cached? connection = none)
    (hasked : (dropped.run connection between).stage asked.call = .lookingUp)
    (hreturned : (dropped.run connection (between ++ asked :: rest)).stage asked.call =
      .returned (.ok snapshot)) :
    Introspected connection dropped (between ++ asked :: rest) snapshot ∨
      ∃ call stored, dropped.stage call = .storing snapshot ∧
        StoredLast connection dropped between call stored snapshot ∧
        asked.now - stored < dropped.cache.lifetime := by
  rw [run_append] at hreturned
  obtain hfound | hsnapshot := of_stage_run_eq_returned hasked hreturned
  · obtain ⟨call, stored, hlast, halive⟩ := (get?_run_eq_some_iff hnone).mp hfound
    obtain hheld | hsnapshot := hlast.of_held
    · exact .inr ⟨call, stored, hheld, hlast, halive⟩
    · exact .inl (hsnapshot.append _)
  · exact .inl hsnapshot.of_run

/-- With nothing cached and nothing held, every call returns what is introspected from then on. -/
theorem introspected_of_none_held (hnone : dropped.cache.cached? connection = none)
    (hheld : ∀ call snapshot, dropped.stage call ≠ .storing snapshot)
    (hasked : (dropped.run connection between).stage asked.call = .lookingUp)
    (hreturned : (dropped.run connection (between ++ asked :: rest)).stage asked.call =
      .returned (.ok snapshot)) :
    Introspected connection dropped (between ++ asked :: rest) snapshot := by
  obtain hsnapshot | ⟨call, -, hstoring, -⟩ := returned_of_cached?_eq_none hnone hasked hreturned
  · exact hsnapshot
  · exact absurd hstoring (hheld call snapshot)

end Refreshing

/-- A refresh holds against every call but those that have a snapshot to store when it begins. -/
theorem run_refreshHolds (connection : Connection) (cache : Cache) (calls : Nat → LoadCall)
    (before : List LoadTurn) (refresh : LoadTurn)
    (hrefresh : ((ofCalls cache calls).run connection before).stage refresh.call = .forgetting) :
    RefreshHolds connection (ofCalls cache calls) before
      ((ofCalls cache calls).run connection (before ++ [refresh])) := by
  have hnone :
      ((ofCalls cache calls).run connection (before ++ [refresh])).cache.cached? connection =
        none := by
    rw [run_concat, cache_advance, hrefresh, LoadStage.advance, Cache.cached?_forget]
  refine
    { older := ?_
      returned := fun _ _ _ _ => returned_of_cached?_eq_none hnone
      undone := ?_
      renewed := fun hheld _ _ _ _ => introspected_of_none_held hnone hheld
      current := ?_ }
  · intro call snapshot hstoring
    rw [run_concat] at hstoring
    by_cases hcall : call = refresh.call
    · rw [hcall, stage_advance, hrefresh] at hstoring
      cases hstoring
    · rw [stage_advance_of_ne hcall] at hstoring
      obtain hfirst | hsnapshot := of_stage_run_eq_storing hstoring
      · cases hcalls : calls call <;> simp [ofCalls, hcalls, LoadCall.firstStage] at hfirst
      · exact hsnapshot
  · intro between asked rest call stored snapshot hasked hlast halive
    have hfound := (get?_run_eq_some_iff hnone).mpr ⟨call, stored, hlast, halive⟩
    rw [run_append]
    exact stage_run_of_returned (stage_advance_of_found hasked hfound) rest
  · intro hheld between asked rest snapshot schema hschema hasked hreturned
    have hsnapshot := introspected_of_none_held hnone hheld hasked hreturned
    exact hsnapshot.eq_of_unchanged hschema

/-- A refresh begins while another call holds what it has introspected. -/
theorem run_refreshHolds_overtaking :
    ∃ (connection : Connection) (cache : Cache) (calls : Nat → LoadCall) (before : List LoadTurn)
      (refresh : LoadTurn) (held : Snapshot),
      ((ofCalls cache calls).run connection before).stage refresh.call = .forgetting ∧
      ((ofCalls cache calls).run connection (before ++ [refresh])).stage 0 = .storing held ∧
      RefreshHolds connection (ofCalls cache calls) before
        ((ofCalls cache calls).run connection (before ++ [refresh])) := by
  let connection : Connection := ⟨1, "shop", .duckDb, "/shop.duckdb", ⟨0, ⟨0, 0⟩⟩⟩
  let held : Snapshot := ⟨[.bare "main" "orders"]⟩
  let databases : Databases :=
    ⟨fun _ _ => .ok held, fun _ _ _ _ => .error (.timeout (.ofSeconds 30))⟩
  let calls : Nat → LoadCall := fun call => if call = 1 then .refresh else .get
  exact ⟨connection, .empty 3600000000000, calls, [⟨0, 0, databases⟩, ⟨0, 0, databases⟩],
    ⟨1, 0, databases⟩, held, rfl, rfl, run_refreshHolds connection _ calls _ _ rfl⟩

/-- A call has introspected a database that is changed then and refreshed by another call. When the
refresh has returned the new schema, the first call stores the old one, and a third call is shown
that although nothing has changed since. -/
theorem run_undoes_refresh :
    ∃ (connection : Connection) (cache : Cache) (calls : Nat → LoadCall)
      (before between : List LoadTurn) (refresh asked : LoadTurn) (old new : Snapshot),
      ((ofCalls cache calls).run connection before).stage refresh.call = .forgetting ∧
      Introspected connection (ofCalls cache calls) before old ∧
      (∀ turn ∈ refresh :: between ++ [asked], turn.introspect connection = .ok new) ∧
      ((ofCalls cache calls).run connection (before ++ refresh :: between)).stage refresh.call =
        .returned (.ok new) ∧
      ((ofCalls cache calls).run connection (before ++ refresh :: between)).stage asked.call =
        .lookingUp ∧
      ((ofCalls cache calls).run connection (before ++ refresh :: between ++ [asked])).stage
        asked.call = .returned (.ok old) ∧
      old ≠ new := by
  let connection : Connection := ⟨1, "shop", .duckDb, "/shop.duckdb", ⟨0, ⟨0, 0⟩⟩⟩
  let old : Snapshot := ⟨[.bare "main" "orders"]⟩
  let new : Snapshot := ⟨[.bare "main" "invoices"]⟩
  let holding (snapshot : Snapshot) : Databases :=
    ⟨fun _ _ => .ok snapshot, fun _ _ _ _ => .error (.timeout (.ofSeconds 30))⟩
  let cache : Cache := .empty 3600000000000
  let calls : Nat → LoadCall := fun call => if call = 1 then .refresh else .get
  let before : List LoadTurn := [⟨0, 0, holding old⟩, ⟨0, 0, holding old⟩]
  let refresh : LoadTurn := ⟨1, 0, holding new⟩
  let asked : LoadTurn := ⟨2, 0, holding new⟩
  refine ⟨connection, cache, calls, before,
    [⟨1, 0, holding new⟩, ⟨1, 0, holding new⟩, ⟨1, 0, holding new⟩, ⟨0, 0, holding new⟩],
    refresh, asked, old, new, rfl, ?_, ?_, rfl, rfl, ?_, by decide⟩
  · exact ⟨[⟨0, 0, holding old⟩], ⟨0, 0, holding old⟩, [], rfl, rfl, rfl⟩
  · simp [LoadTurn.introspect, refresh, asked, holding]
  · rw [run_concat]
    refine stage_advance_of_found rfl ?_
    rw [Cache.get?_keyOf_eq_some_iff]
    exact ⟨0, Cache.cached?_set _ 0 connection old, by decide⟩

end Loading

end QueryWarden.Schema
