import QueryWarden.Proofs.Connections.Failures
import Mathlib.Data.List.Induction
import Mathlib.Logic.Function.Basic
import Mathlib.Logic.Relation

/-!
# Calls to the registry that overlap

Calls that create, change and remove connections take their steps in any order, a step being one
statement on the table. A lock is held from the choice of a new id to the insertion, so that no row
is inserted under an id that is taken. Removing holds no lock between reading a row and deleting
what is there under its id. So a new connection stays until it is deleted, and the call that deletes
it has read it, unless that call had read an older connection of the same id before the new one was
inserted.
-/

namespace QueryWarden.Connections

open QueryWarden.Database QueryWarden.Sql

/-! ## Steps -/

/-- A call that writes to the registry. -/
inductive WriteCall where
  | create (now : Moment) (nonce : Nonce) (draft : Draft)
  | update (nonce : Nonce) (id : Int) (draft : Draft)
  | delete (id : Int)

/-- What a call does next. -/
inductive WriteStage where
  /-- It asks for the next id, once it has the lock. -/
  | creating (now : Moment) (nonce : Nonce) (draft : Draft)
  /-- It inserts its row and gives the lock back. -/
  | inserting (id : Int) (now : Moment) (nonce : Nonce) (draft : Draft)
  /-- It writes over the row of an id. -/
  | updating (nonce : Nonce) (id : Int) (draft : Draft)
  /-- It reads back what it has written. -/
  | readingBack (id : Int)
  /-- It reads the row that is to be removed. -/
  | reading (id : Int)
  /-- It deletes what is there under the id, having read a connection there. -/
  | removing (id : Int) (connection : Connection)
  /-- It is over. -/
  | returned (outcome : Except Failure Connection)

/-- What a call does first. -/
def WriteCall.firstStage : WriteCall → WriteStage
  | .create now nonce draft => .creating now nonce draft
  | .update nonce id draft => .updating nonce id draft
  | .delete id => .reading id

/-- The row of a draft under a new id. -/
def Draft.row (draft : Draft) (cipher : Cipher) (nonce : Nonce) (now : Moment) (id : Int) :
    StoredConnection :=
  ⟨id, draft.name, draft.dialect.tag, cipher.sealText nonce.bytes draft.connectionString,
    now.stamp.toMicros.storedText⟩

theorem Draft.id_rewrite (draft : Draft) (cipher : Cipher) (nonce : Nonce)
    (row : StoredConnection) : (draft.rewrite cipher nonce row).id = row.id := rfl

/-- The table, the call that holds the lock, and the calls, each at some stage. -/
structure Writing where
  registry : Registry
  lock : Option Nat
  stage : Nat → WriteStage

namespace Writing

/-- Calls that are all still to begin. -/
def ofCalls (registry : Registry) (calls : Nat → WriteCall) : Writing :=
  ⟨registry, none, fun call => (calls call).firstStage⟩

/-- A call goes on to a stage. -/
def goOn (state : Writing) (call : Nat) (stage : WriteStage) : Writing :=
  { state with stage := Function.update state.stage call stage }

/-- A call ends. -/
def finish (state : Writing) (call : Nat) (outcome : Except Failure Connection) : Writing :=
  state.goOn call (.returned outcome)

/-- A call takes its next step, unless it has to wait for the lock. -/
def advance (cipher : Cipher) (state : Writing) (call : Nat) : Writing :=
  match state.stage call with
  | .creating now nonce draft =>
      match draft.check, state.lock with
      | .error failure, _ => state.finish call (.error failure)
      | .ok (), some _ => state
      | .ok (), none =>
          if maxId < state.registry.nextId then
            state.finish call (.error (.engine "no id is left"))
          else
            { state.goOn call (.inserting state.registry.nextId now nonce draft) with
              lock := some call }
  | .inserting id now nonce draft =>
      match state.registry.find? id with
      | some _ => { state.finish call (.error (.engine "the id is taken")) with lock := none }
      | none =>
          { state.finish call (.ok ((draft.entry now.stamp.toMicros).connection id)) with
            registry := state.registry.insert (draft.row cipher nonce now id), lock := none }
  | .updating nonce id draft =>
      match draft.check, state.registry.find? id with
      | .error failure, _ => state.finish call (.error failure)
      | .ok (), none => state.finish call (.error (.notFound id))
      | .ok (), some _ =>
          { state.goOn call (.readingBack id) with
            registry := state.registry.modify id (draft.rewrite cipher nonce) }
  | .readingBack id => state.finish call (state.registry.get cipher id)
  | .reading id =>
      match state.registry.get cipher id with
      | .error failure => state.finish call (.error failure)
      | .ok connection => state.goOn call (.removing id connection)
  | .removing id connection =>
      { state.finish call (.ok connection) with
        registry := ⟨state.registry.rows.filter fun row => row.id != id⟩ }
  | .returned _ => state

/-- The calls take their steps in the order of the turns. -/
def run (cipher : Cipher) (state : Writing) (turns : List Nat) : Writing :=
  turns.foldl (advance cipher) state

variable {cipher : Cipher} {state : Writing} {call : Nat}

theorem run_append (turns more : List Nat) :
    state.run cipher (turns ++ more) = (state.run cipher turns).run cipher more :=
  List.foldl_append

theorem run_concat (turns : List Nat) (call : Nat) :
    state.run cipher (turns ++ [call]) = (state.run cipher turns).advance cipher call :=
  List.foldl_append

@[simp]
theorem stage_goOn (stage : WriteStage) : (state.goOn call stage).stage call = stage :=
  Function.update_self ..

@[simp]
theorem stage_finish (outcome : Except Failure Connection) :
    (state.finish call outcome).stage call = .returned outcome :=
  Function.update_self ..

theorem stage_goOn_of_ne {other : Nat} (hother : other ≠ call) (stage : WriteStage) :
    (state.goOn call stage).stage other = state.stage other :=
  Function.update_of_ne hother _ _

/-- A step is seen by its own call only. -/
theorem stage_advance_of_ne {other : Nat} (hother : other ≠ call) :
    (state.advance cipher call).stage other = state.stage other := by
  rw [advance]
  repeat' split
  all_goals first | rfl | exact stage_goOn_of_ne hother _

/-- A call without a turn stays where it is. -/
theorem stage_run_of_not_mem {turns : List Nat} (hcall : call ∉ turns) :
    (state.run cipher turns).stage call = state.stage call := by
  induction turns using List.reverseRecOn with
  | nil => rfl
  | append_singleton turns turn ih =>
      rw [List.mem_append, List.mem_singleton, not_or] at hcall
      rw [run_concat, stage_advance_of_ne hcall.2, ih hcall.1]

end Writing

/-! ## Calls that nothing interrupts -/

section Alone

variable {registry : Registry} {cipher : Cipher} (nonce : Nonce) {draft : Draft}

theorem Registry.create_of_check (now : Moment) (hcheck : draft.check = .ok ())
    (hid : ¬ maxId < registry.nextId) :
    registry.create ⟨cipher, nonce.bytes, now.stamp⟩ draft =
      (.ok ((draft.entry now.stamp.toMicros).connection registry.nextId),
        registry.insert (draft.row cipher nonce now registry.nextId)) := by
  simp only [create, hcheck, if_neg hid]
  rfl

theorem Registry.update_of_found (now : Time.Timestamp) {id : Int} {row : StoredConnection}
    (hcheck : draft.check = .ok ()) (hfound : registry.find? id = some row) :
    registry.update ⟨cipher, nonce.bytes, now⟩ id draft =
      ((registry.modify id (draft.rewrite cipher nonce)).get cipher id,
        registry.modify id (draft.rewrite cipher nonce)) := by
  simp only [update, hcheck, hfound]
  rfl

end Alone

namespace Writing

variable {cipher : Cipher} {state : Writing} {call : Nat}

/-- A call that creates and that nothing interrupts. -/
theorem run_creating {now : Moment} {nonce : Nonce} {draft : Draft} (hlock : state.lock = none)
    (hcall : state.stage call = .creating now nonce draft) :
    let done := state.registry.create ⟨cipher, nonce.bytes, now.stamp⟩ draft
    state.run cipher [call, call] =
      ⟨done.2, none, Function.update state.stage call (.returned done.1)⟩ := by
  obtain ⟨registry, lock, stage⟩ := state
  obtain rfl : lock = none := hlock
  dsimp only at hcall
  cases hcheck : draft.check with
  | error failure =>
      simp [run, advance, hcall, hcheck, finish, goOn, Registry.create]
  | ok _ =>
      by_cases hid : maxId < registry.nextId
      · simp [run, advance, hcall, hcheck, hid, finish, goOn, Registry.create]
      · rw [Registry.create_of_check nonce now hcheck hid]
        simp [run, advance, hcall, hcheck, hid, finish, goOn, Registry.find?_nextId]

/-- A call that changes and that nothing interrupts. -/
theorem run_updating {nonce : Nonce} {id : Int} {draft : Draft} (now : Time.Timestamp)
    (hcall : state.stage call = .updating nonce id draft) :
    let done := state.registry.update ⟨cipher, nonce.bytes, now⟩ id draft
    state.run cipher [call, call] =
      ⟨done.2, state.lock, Function.update state.stage call (.returned done.1)⟩ := by
  obtain ⟨registry, lock, stage⟩ := state
  dsimp only at hcall
  cases hcheck : draft.check with
  | error failure =>
      simp [run, advance, hcall, hcheck, finish, goOn, Registry.update]
  | ok _ =>
      cases hfound : registry.find? id with
      | none => simp [run, advance, hcall, hcheck, hfound, finish, goOn, Registry.update]
      | some row =>
          rw [Registry.update_of_found nonce now hcheck hfound]
          simp [run, advance, hcall, hcheck, hfound, finish, goOn]

/-- A call that removes and that nothing interrupts. -/
theorem run_reading {id : Int} (hcall : state.stage call = .reading id) :
    let done := state.registry.delete cipher id
    state.run cipher [call, call] =
      ⟨done.2, state.lock, Function.update state.stage call (.returned done.1)⟩ := by
  obtain ⟨registry, lock, stage⟩ := state
  dsimp only at hcall
  cases hget : registry.get cipher id with
  | error failure =>
      simp [run, advance, hcall, hget, finish, goOn, Registry.delete]
  | ok connection =>
      simp [run, advance, hcall, hget, finish, goOn, Registry.delete]

end Writing

/-! ## What a step writes -/

/-- The table after the next step of a call at some stage. -/
inductive WriteStage.Writes (cipher : Cipher) (registry : Registry) : WriteStage → Registry → Prop
  | nothing (stage : WriteStage) : Writes cipher registry stage registry
  | inserted {id : Int} (now : Moment) (nonce : Nonce) (draft : Draft)
      (hnew : registry.find? id = none) :
      Writes cipher registry (.inserting id now nonce draft)
        (registry.insert (draft.row cipher nonce now id))
  | changed (nonce : Nonce) (id : Int) (draft : Draft) :
      Writes cipher registry (.updating nonce id draft)
        (registry.modify id (draft.rewrite cipher nonce))
  | removed (id : Int) (connection : Connection) :
      Writes cipher registry (.removing id connection)
        ⟨registry.rows.filter fun row => row.id != id⟩

namespace Writing

variable {cipher : Cipher} {state : Writing} {call : Nat}

theorem writes_advance (cipher : Cipher) (state : Writing) (call : Nat) :
    (state.stage call).Writes cipher state.registry (state.advance cipher call).registry := by
  cases hstage : state.stage call with
  | creating now nonce draft =>
      simp only [advance, hstage]
      repeat' split
      all_goals exact .nothing _
  | inserting id now nonce draft =>
      simp only [advance, hstage]
      split
      next => exact .nothing _
      next hnew => exact .inserted now nonce draft hnew
  | updating nonce id draft =>
      simp only [advance, hstage]
      split
      next => exact .nothing _
      next => exact .nothing _
      next => exact .changed nonce id draft
  | readingBack id =>
      simp only [advance, hstage]
      exact .nothing _
  | reading id =>
      simp only [advance, hstage]
      split <;> exact .nothing _
  | removing id connection =>
      simp only [advance, hstage]
      exact .removed id connection
  | returned outcome =>
      simp only [advance, hstage]
      exact .nothing _

/-- A step adds no row but that of a call that inserts it. -/
theorem find?_advance_eq_none {id : Int} (hnone : state.registry.find? id = none)
    (hstage : ∀ now nonce draft, state.stage call ≠ .inserting id now nonce draft) :
    (state.advance cipher call).registry.find? id = none := by
  have hwrites := writes_advance cipher state call
  generalize state.stage call = stage, (state.advance cipher call).registry = registry
    at hstage hwrites
  cases hwrites with
  | nothing => exact hnone
  | @inserted other now nonce draft hnew =>
      have hid : other ≠ id := fun hid => hstage now nonce draft (hid ▸ rfl)
      rw [Registry.find?_insert hnew]
      exact (if_neg hid).trans hnone
  | changed nonce other draft =>
      rw [Registry.find?_modify (draft.id_rewrite cipher nonce)]
      split
      next hid => rw [← hid, hnone, Option.map_none]
      next => exact hnone
  | removed other connection =>
      rw [Registry.find?_remove]
      split
      next => rfl
      next => exact hnone

/-! ## New ids -/

/-- A call that is about to insert a row holds the lock, and no row has its id. -/
structure Locked (state : Writing) : Prop where
  held : ∀ call id now nonce draft, state.stage call = .inserting id now nonce draft →
    state.lock = some call ∧ state.registry.find? id = none

theorem locked_ofCalls (registry : Registry) (calls : Nat → WriteCall) :
    (ofCalls registry calls).Locked where
  held call id now nonce draft hstage := by
    cases hcall : calls call <;> simp [ofCalls, hcall, WriteCall.firstStage] at hstage

/-- A call that is now to insert has just got the lock and the next id. -/
theorem of_stage_advance_eq_inserting {id : Int} {now : Moment} {nonce : Nonce} {draft : Draft}
    (hstage : (state.advance cipher call).stage call = .inserting id now nonce draft) :
    (state.advance cipher call).lock = some call ∧
      (state.advance cipher call).registry.find? id = none := by
  cases hbefore : state.stage call with
  | creating now nonce draft =>
      simp only [advance, hbefore] at hstage ⊢
      cases hcheck : draft.check with
      | error failure => simp [hcheck] at hstage
      | ok _ =>
          cases hlock : state.lock with
          | some holder => simp [hcheck, hlock, hbefore] at hstage
          | none =>
              by_cases hid : maxId < state.registry.nextId
              · simp [hcheck, hlock, hid] at hstage
              · simp only [hcheck, hlock, hid, if_false, stage_goOn] at hstage ⊢
                obtain ⟨rfl, -⟩ := WriteStage.inserting.inj hstage
                exact ⟨trivial, state.registry.find?_nextId⟩
  | inserting other now nonce draft =>
      simp only [advance, hbefore] at hstage
      split at hstage <;> simp at hstage
  | updating nonce other draft =>
      simp only [advance, hbefore] at hstage
      split at hstage <;> simp at hstage
  | readingBack other => simp [advance, hbefore] at hstage
  | reading other =>
      simp only [advance, hbefore] at hstage
      split at hstage <;> simp at hstage
  | removing other connection => simp [advance, hbefore] at hstage
  | returned outcome => simp [advance, hbefore] at hstage

/-- The lock stays with a call until that has inserted its row. -/
theorem lock_advance_of_ne (hlocked : state.Locked) {other : Nat} (hother : other ≠ call)
    (hlock : state.lock = some other) : (state.advance cipher call).lock = some other := by
  cases hstage : state.stage call with
  | creating now nonce draft =>
      simp only [advance, hstage, hlock]
      split
      · exact hlock
      · exact hlock
      · contradiction
  | inserting id now nonce draft =>
      obtain ⟨hheld, -⟩ := hlocked.held call id now nonce draft hstage
      exact absurd (Option.some.inj (hlock.symm.trans hheld)) hother
  | updating nonce id draft =>
      simp only [advance, hstage]
      split <;> exact hlock
  | readingBack id =>
      simp only [advance, hstage]
      exact hlock
  | reading id =>
      simp only [advance, hstage]
      split <;> exact hlock
  | removing id connection =>
      simp only [advance, hstage]
      exact hlock
  | returned outcome =>
      simp only [advance, hstage]
      exact hlock

theorem Locked.advance (hlocked : state.Locked) (cipher : Cipher) (call : Nat) :
    (state.advance cipher call).Locked := by
  constructor
  intro other id now nonce draft hstage
  by_cases hother : other = call
  · subst hother
    exact of_stage_advance_eq_inserting hstage
  · rw [stage_advance_of_ne hother] at hstage
    obtain ⟨hlock, hnew⟩ := hlocked.held other id now nonce draft hstage
    refine ⟨lock_advance_of_ne hlocked hother hlock, find?_advance_eq_none hnew ?_⟩
    -- Whoever inserted a row now would hold the lock that the other call holds.
    intro now nonce draft hcall
    obtain ⟨hheld, -⟩ := hlocked.held call id now nonce draft hcall
    exact hother (Option.some.inj (hlock.symm.trans hheld))

theorem locked_run (registry : Registry) (calls : Nat → WriteCall) (cipher : Cipher)
    (turns : List Nat) : ((ofCalls registry calls).run cipher turns).Locked := by
  induction turns using List.reverseRecOn with
  | nil => exact locked_ofCalls registry calls
  | append_singleton turns turn ih =>
      rw [run_concat]
      exact ih.advance cipher turn

end Writing

/-! ## A row and who reads it -/

/-- One of the calls writes over the row. -/
def Rewritten (cipher : Cipher) (calls : Nat → WriteCall) (row changed : StoredConnection) : Prop :=
  ∃ call nonce draft, calls call = .update nonce row.id draft ∧
    changed = draft.rewrite cipher nonce row

/-- Some of the calls write over the row, one after the other. -/
abbrev Updated (cipher : Cipher) (calls : Nat → WriteCall) :
    StoredConnection → StoredConnection → Prop :=
  Relation.ReflTransGen (Rewritten cipher calls)

/-- The table still has the row, changed by calls at most. -/
def Registry.Holds (registry : Registry) (cipher : Cipher) (calls : Nat → WriteCall)
    (row : StoredConnection) : Prop :=
  ∃ kept, registry.find? row.id = some kept ∧ Updated cipher calls row kept

/-- The connection is what the row is read as, maybe after some calls have changed it. -/
def StoredConnection.IsReadAs (row : StoredConnection) (cipher : Cipher) (calls : Nat → WriteCall)
    (connection : Connection) : Prop :=
  ∃ held, Updated cipher calls row held ∧ held.decode cipher = .ok connection

namespace Writing

/-- The row is still there, and whoever is about to remove what has its id has read it or was about
to do so from the first. -/
structure Keeps (cipher : Cipher) (calls : Nat → WriteCall) (first : Writing)
    (row : StoredConnection) (state : Writing) : Prop where
  present : state.registry.Holds cipher calls row
  read : ∀ call gone, state.stage call = .removing row.id gone →
    row.IsReadAs cipher calls gone ∨ first.stage call = .removing row.id gone

section Keeping

variable {cipher : Cipher} {calls : Nat → WriteCall} {registry : Registry} {first state : Writing}
  {row : StoredConnection} {call : Nat}

theorem Updated.id_eq {kept : StoredConnection} (hkept : Updated cipher calls row kept) :
    kept.id = row.id := by
  induction hkept with
  | refl => rfl
  | tail _ hchanged ih =>
      obtain ⟨call, nonce, draft, -, rfl⟩ := hchanged
      exact ih

/-- Changing a row is what a call begins with. -/
theorem stage_advance_ne_updating {nonce : Nonce} {id : Int} {draft : Draft} :
    (state.advance cipher call).stage call ≠ .updating nonce id draft := by
  cases hbefore : state.stage call with
  | creating now nonce draft =>
      simp only [advance, hbefore]
      repeat' split
      all_goals simp [hbefore]
  | inserting id now nonce draft =>
      simp only [advance, hbefore]
      split <;> simp
  | updating nonce id draft =>
      simp only [advance, hbefore]
      split <;> simp
  | readingBack id => simp [advance, hbefore]
  | reading id =>
      simp only [advance, hbefore]
      split <;> simp
  | removing id connection => simp [advance, hbefore]
  | returned outcome => simp [advance, hbefore]

theorem of_stage_run_eq_updating {turns : List Nat} {nonce : Nonce} {id : Int} {draft : Draft}
    (hstage : ((ofCalls registry calls).run cipher turns).stage call = .updating nonce id draft) :
    calls call = .update nonce id draft := by
  induction turns using List.reverseRecOn with
  | nil =>
      cases hcall : calls call <;>
        simp_all [run, ofCalls, WriteCall.firstStage]
  | append_singleton turns turn ih =>
      rw [run_concat] at hstage
      by_cases hturn : call = turn
      · subst hturn
        exact absurd hstage stage_advance_ne_updating
      · rw [stage_advance_of_ne hturn] at hstage
        exact ih hstage

/-- A call that is now about to remove a row has just read it. -/
theorem of_stage_advance_eq_removing {id : Int} {gone : Connection}
    (hstage : (state.advance cipher call).stage call = .removing id gone) :
    state.registry.get cipher id = .ok gone := by
  cases hbefore : state.stage call with
  | creating now nonce draft =>
      simp only [advance, hbefore] at hstage
      repeat' split at hstage
      all_goals simp [hbefore] at hstage
  | inserting other now nonce draft =>
      simp only [advance, hbefore] at hstage
      split at hstage <;> simp at hstage
  | updating nonce other draft =>
      simp only [advance, hbefore] at hstage
      split at hstage <;> simp at hstage
  | readingBack other => simp [advance, hbefore] at hstage
  | reading other =>
      simp only [advance, hbefore] at hstage
      split at hstage
      next => simp at hstage
      next connection hget =>
        rw [stage_goOn] at hstage
        obtain ⟨rfl, rfl⟩ := WriteStage.removing.inj hstage
        exact hget
  | removing other connection => simp [advance, hbefore] at hstage
  | returned outcome => simp [advance, hbefore] at hstage

/-- Only a call that removes what has its id takes a row away. -/
theorem Keeps.present_advance (hkeeps : Keeps cipher calls first row state)
    (hupdating : ∀ nonce draft, state.stage call = .updating nonce row.id draft →
      calls call = .update nonce row.id draft)
    (hremoving : ∀ gone, state.stage call ≠ .removing row.id gone) :
    (state.advance cipher call).registry.Holds cipher calls row := by
  obtain ⟨kept, hfound, hkept⟩ := hkeeps.present
  rw [Registry.Holds]
  have hwrites := writes_advance cipher state call
  generalize state.stage call = stage, (state.advance cipher call).registry = after
    at hupdating hremoving hwrites
  cases hwrites with
  | nothing => exact ⟨kept, hfound, hkept⟩
  | @inserted id now nonce draft hnew =>
      have hid : id ≠ row.id := by
        rintro rfl
        cases hfound.symm.trans hnew
      rw [Registry.find?_insert hnew]
      exact ⟨kept, (if_neg hid).trans hfound, hkept⟩
  | changed nonce id draft =>
      rw [Registry.find?_modify (draft.id_rewrite cipher nonce)]
      split
      next hid =>
        subst hid
        refine ⟨draft.rewrite cipher nonce kept, ?_, hkept.tail ?_⟩
        · rw [hfound, Option.map_some]
        · refine ⟨call, nonce, draft, ?_, rfl⟩
          rw [Updated.id_eq hkept]
          exact hupdating nonce draft rfl
      next => exact ⟨kept, hfound, hkept⟩
  | removed id gone =>
      have hid : row.id ≠ id := by
        rintro rfl
        exact hremoving gone rfl
      rw [Registry.find?_remove]
      exact ⟨kept, (if_neg hid).trans hfound, hkept⟩

theorem Keeps.advance (hkeeps : Keeps cipher calls first row state)
    (hupdating : ∀ nonce draft, state.stage call = .updating nonce row.id draft →
      calls call = .update nonce row.id draft)
    (hremoving : ∀ gone, state.stage call ≠ .removing row.id gone) :
    Keeps cipher calls first row (state.advance cipher call) where
  present := hkeeps.present_advance hupdating hremoving
  read other gone hstage := by
    by_cases hother : other = call
    · subst hother
      have hget := of_stage_advance_eq_removing hstage
      obtain ⟨kept, hfound, hkept⟩ := hkeeps.present
      obtain ⟨held, hheld, hdecode⟩ := Registry.get_eq_ok_iff.mp hget
      obtain rfl := Option.some.inj (hfound.symm.trans hheld)
      exact .inl ⟨kept, hkept, hdecode⟩
    · rw [stage_advance_of_ne hother] at hstage
      exact hkeeps.read other gone hstage

end Keeping

/-! ## New connections -/

/-- In the course of some turns a call removes the row, which is there until then, and returns a
connection. -/
def Removes (cipher : Cipher) (calls : Nat → WriteCall) (state : Writing) (turns : List Nat)
    (row : StoredConnection) (remover : Nat) (gone : Connection) : Prop :=
  ∃ front back, turns = front ++ remover :: back ∧
    (state.run cipher front).registry.Holds cipher calls row ∧
    (state.run cipher (front ++ [remover])).registry.find? row.id = none ∧
    (state.run cipher (front ++ [remover])).stage remover = .returned (.ok gone)

/-- What becomes of a row that is inserted by a step from one state to the next. -/
structure KeepsInserted (cipher : Cipher) (calls : Nat → WriteCall) (before inserted : Writing)
    (row : StoredConnection) : Prop where
  /-- No row had its id. -/
  new : before.registry.find? row.id = none
  /-- Now it has. -/
  present : inserted.registry.find? row.id = some row
  /-- The row stays until a call removes it that has read it, or had read another with its id and
  was about to remove that. -/
  stays : ∀ later, (inserted.run cipher later).registry.Holds cipher calls row ∨
    ∃ remover gone, Removes cipher calls inserted later row remover gone ∧
      (row.IsReadAs cipher calls gone ∨ before.stage remover = .removing row.id gone)
  /-- If no call was about to do that, the row stays until a call removes it that returns it. -/
  safe : (∀ other gone, before.stage other ≠ .removing row.id gone) →
    ∀ later, (inserted.run cipher later).registry.Holds cipher calls row ∨
      ∃ remover gone, Removes cipher calls inserted later row remover gone ∧
        row.IsReadAs cipher calls gone
  /-- If a call was, the row is gone after its turn, and it returns what it had read. -/
  lost : ∀ remover gone front, before.stage remover = .removing row.id gone → remover ∉ front →
    (inserted.run cipher (front ++ [remover])).registry.find? row.id = none ∧
      (inserted.run cipher (front ++ [remover])).stage remover = .returned (.ok gone)

section Inserting

variable {cipher : Cipher} {calls : Nat → WriteCall} {registry : Registry} {first state : Writing}
  {row : StoredConnection} {call : Nat}

theorem advance_removing {id : Int} {gone : Connection}
    (hstage : state.stage call = .removing id gone) :
    (state.advance cipher call).registry.find? id = none ∧
      (state.advance cipher call).stage call = .returned (.ok gone) := by
  simp only [advance, hstage, stage_finish, and_true]
  rw [Registry.find?_remove, if_pos rfl]

/-- A row stays until a call removes what has its id. -/
theorem keeps_or_removes (hkeeps : Keeps cipher calls first row state)
    (hupdating : ∀ turns call nonce id draft,
      (state.run cipher turns).stage call = .updating nonce id draft →
        calls call = .update nonce id draft)
    (later : List Nat) :
    Keeps cipher calls first row (state.run cipher later) ∨
      ∃ remover gone, Removes cipher calls state later row remover gone ∧
        (row.IsReadAs cipher calls gone ∨ first.stage remover = .removing row.id gone) := by
  induction later using List.reverseRecOn with
  | nil => exact .inl hkeeps
  | append_singleton later turn ih =>
      obtain hlater | ⟨remover, gone, ⟨front, back, rfl, hremoves⟩, hread⟩ := ih
      · by_cases hturn : ∃ gone, (state.run cipher later).stage turn = .removing row.id gone
        · obtain ⟨gone, hgone⟩ := hturn
          have hread := hlater.read turn gone hgone
          refine .inr ⟨turn, gone, ⟨later, [], rfl, hlater.present, ?_⟩, hread⟩
          rw [run_concat]
          exact advance_removing hgone
        · rw [not_exists] at hturn
          rw [run_concat]
          have hnone := fun nonce draft => hupdating later turn nonce row.id draft
          exact .inl (hlater.advance hnone hturn)
      · refine .inr ⟨remover, gone, ⟨front, back ++ [turn], ?_, hremoves⟩, hread⟩
        rw [List.append_assoc, List.cons_append]

/-- A connection that is created gets an id that no other has and stays until it is removed. The
call that removes it returns it, unless that call had read an older connection of the same id and
was about to remove it when the new one was inserted. -/
theorem run_keepsInserted (registry : Registry) (calls : Nat → WriteCall) (cipher : Cipher)
    (before : List Nat) {call : Nat} {id : Int} {now : Moment} {nonce : Nonce} {draft : Draft}
    (hstage : ((ofCalls registry calls).run cipher before).stage call =
      .inserting id now nonce draft) :
    KeepsInserted cipher calls ((ofCalls registry calls).run cipher before)
      ((ofCalls registry calls).run cipher (before ++ [call])) (draft.row cipher nonce now id) := by
  obtain ⟨-, hnew⟩ := (locked_run registry calls cipher before).held call id now nonce draft hstage
  have hupdating : ∀ turns other nonce id draft,
      (((ofCalls registry calls).run cipher (before ++ [call])).run cipher turns).stage other =
        .updating nonce id draft → calls other = .update nonce id draft := by
    intro turns other nonce id draft hupdating
    rw [← run_append] at hupdating
    exact of_stage_run_eq_updating hupdating
  rw [run_concat] at hupdating ⊢
  generalize (ofCalls registry calls).run cipher before = state at hstage hnew hupdating ⊢
  have hpresent : (state.advance cipher call).registry.find? id =
      some (draft.row cipher nonce now id) := by
    simp only [advance, hstage, hnew]
    rw [Registry.find?_insert hnew]
    exact if_pos rfl
  have hreturned : (state.advance cipher call).stage call =
      .returned (.ok ((draft.entry now.stamp.toMicros).connection id)) := by
    simp only [advance, hstage, hnew, stage_finish]
  have hkeeps : Keeps cipher calls state (draft.row cipher nonce now id)
      (state.advance cipher call) := by
    refine ⟨⟨_, hpresent, .refl⟩, fun other gone hremoving => .inr ?_⟩
    by_cases hother : other = call
    · subst hother
      cases hreturned.symm.trans hremoving
    · rwa [stage_advance_of_ne hother] at hremoving
  refine
    { new := hnew
      present := hpresent
      stays := fun later =>
        (keeps_or_removes hkeeps hupdating later).imp_left Keeps.present
      safe := ?_
      lost := ?_ }
  · intro hnone later
    refine (keeps_or_removes hkeeps hupdating later).imp Keeps.present ?_
    rintro ⟨remover, gone, hremoves, hread | hremoving⟩
    · exact ⟨remover, gone, hremoves, hread⟩
    · exact absurd hremoving (hnone remover gone)
  · intro remover gone front hremoving hfront
    have hremover : remover ≠ call := by
      rintro rfl
      cases hstage.symm.trans hremoving
    rw [run_concat]
    apply advance_removing
    rwa [stage_run_of_not_mem hfront, stage_advance_of_ne hremover]

end Inserting

/-! ## A lost connection -/

section Losing

/-- Two connections are to be created and the one with the first id to be removed twice. -/
def twoRemovals (now : Moment) (nonce : Nonce) (old new : Draft) : Nat → WriteCall
  | 0 => .create now nonce old
  | 1 => .create now nonce new
  | _ => .delete 1

variable {cipher : Cipher} (hkey : cipher.key.length = 32) (now : Moment) (nonce : Nonce)
  {old new : Draft} (hold : old.check = .ok ()) (hnew : new.check = .ok ())

include hkey hold hnew

/-- The first connection is created and read by both calls that are to remove it. One of them
removes it, so that the second connection gets the same id. -/
theorem run_twoRemovals :
    let old' := (old.entry now.stamp.toMicros).connection 1
    let reached := (ofCalls .empty (twoRemovals now nonce old new)).run cipher [0, 0, 2, 3, 3, 1]
    reached.registry = .empty ∧ reached.stage 1 = .inserting 1 now nonce new ∧
      reached.stage 2 = .removing 1 old' ∧ reached.stage 3 = .returned (.ok old') := by
  intro old' reached
  have hget : Registry.get ⟨[old.row cipher nonce now 1]⟩ cipher 1 = .ok old' := by
    refine Registry.get_eq_ok_iff.mpr ⟨_, rfl, ?_⟩
    have hread := decode_written hkey nonce.length_bytes now.isStorable.toMicros 1 old.name
      old.dialect old.connectionString
    rwa [Time.Timestamp.toMicros_toMicros] at hread
  -- An empty table has no row to find and gives out the first id.
  have hid : ¬ maxId < 1 := by decide
  have hnone : Registry.empty.find? 1 = none := rfl
  have hnext : Registry.empty.nextId = 1 := rfl
  have hinsert : Registry.empty.insert (old.row cipher nonce now 1) =
      ⟨[old.row cipher nonce now 1]⟩ := rfl
  have hremove : Registry.mk ([old.row cipher nonce now 1].filter fun row => row.id != 1) =
      .empty := rfl
  simp [reached, run, advance, ofCalls, twoRemovals, WriteCall.firstStage, goOn, finish, hold, hnew,
    hget, hid, hnone, hnext, hinsert, hremove, old']

/-- The second connection is created and the call that waits removes it. -/
theorem run_twoRemovals_lost :
    let done := (ofCalls .empty (twoRemovals now nonce old new)).run cipher [0, 0, 2, 3, 3, 1, 1, 2]
    done.registry = .empty ∧
      done.stage 1 = .returned (.ok ((new.entry now.stamp.toMicros).connection 1)) ∧
      done.stage 2 = .returned (.ok ((old.entry now.stamp.toMicros).connection 1)) ∧
      done.stage 3 = .returned (.ok ((old.entry now.stamp.toMicros).connection 1)) := by
  intro done
  obtain ⟨hregistry, hcreates, hremoves, hremoved⟩ := run_twoRemovals hkey now nonce hold hnew
  have hdone : done = ((ofCalls .empty (twoRemovals now nonce old new)).run cipher
      [0, 0, 2, 3, 3, 1]).run cipher [1, 2] := rfl
  generalize (ofCalls .empty (twoRemovals now nonce old new)).run cipher
    [0, 0, 2, 3, 3, 1] = reached at hregistry hcreates hremoves hremoved hdone
  have hnone : Registry.empty.find? 1 = none := rfl
  have hinsert : Registry.empty.insert (new.row cipher nonce now 1) =
      ⟨[new.row cipher nonce now 1]⟩ := rfl
  have hremove : Registry.mk ([new.row cipher nonce now 1].filter fun row => row.id != 1) =
      .empty := rfl
  simp [hdone, run, advance, hregistry, hcreates, hremoves, hremoved, finish, goOn, hnone, hinsert,
    hremove]

end Losing

/-- A connection is created while a call waits to remove an older one of the same id. -/
theorem run_keepsInserted_awaited :
    ∃ (cipher : Cipher) (calls : Nat → WriteCall) (before : List Nat) (call : Nat) (id : Int)
      (now : Moment) (nonce : Nonce) (draft : Draft) (gone : Connection),
      ((ofCalls .empty calls).run cipher before).stage call = .inserting id now nonce draft ∧
      ((ofCalls .empty calls).run cipher before).stage 2 = .removing id gone ∧
      KeepsInserted cipher calls ((ofCalls .empty calls).run cipher before)
        ((ofCalls .empty calls).run cipher (before ++ [call])) (draft.row cipher nonce now id) := by
  let now : Moment := ⟨.ofNanos 0, by constructor <;> decide⟩
  let nonce : Nonce := ⟨List.replicate nonceSize 0, by decide⟩
  let old : Draft := ⟨"sales", .duckDb, "sales.duckdb"⟩
  let new : Draft := ⟨"hr", .duckDb, "hr.duckdb"⟩
  have hold : old.check = .ok () := by decide +kernel
  have hnew : new.check = .ok () := by decide +kernel
  obtain ⟨-, hcreates, hremoves, -⟩ :=
    run_twoRemovals (Cipher.length_key_ofSecret "k") now nonce hold hnew
  exact ⟨_, _, _, 1, _, _, _, _, _, hcreates, hremoves, run_keepsInserted _ _ _ _ hcreates⟩

/-- A connection is created and lost, although no call that removes one has returned it. -/
theorem run_loses_created :
    ∃ (cipher : Cipher) (calls : Nat → WriteCall) (turns : List Nat) (now : Moment) (nonce : Nonce)
      (draft : Draft) (created : Connection), calls 1 = .create now nonce draft ∧
      ((ofCalls .empty calls).run cipher turns).stage 1 = .returned (.ok created) ∧
      ((ofCalls .empty calls).run cipher turns).registry = .empty ∧
      ∀ call id, calls call = .delete id →
        ((ofCalls .empty calls).run cipher turns).stage call ≠ .returned (.ok created) := by
  let now : Moment := ⟨.ofNanos 0, by constructor <;> decide⟩
  let nonce : Nonce := ⟨List.replicate nonceSize 0, by decide⟩
  let old : Draft := ⟨"sales", .duckDb, "sales.duckdb"⟩
  let new : Draft := ⟨"hr", .duckDb, "hr.duckdb"⟩
  have hold : old.check = .ok () := by decide +kernel
  have hnew : new.check = .ok () := by decide +kernel
  obtain ⟨hregistry, hcreated, hsecond, hthird⟩ :=
    run_twoRemovals_lost (Cipher.length_key_ofSecret "k") now nonce hold hnew
  refine ⟨_, _, _, now, nonce, new, _, rfl, hcreated, hregistry, ?_⟩
  have hother : (old.entry now.stamp.toMicros).connection 1 ≠
      (new.entry now.stamp.toMicros).connection 1 := by
    intro hsame
    have hname := congrArg Connection.name hsame
    revert hname
    decide
  intro call id hdelete hreturned
  by_cases hturn : call ∈ [0, 0, 2, 3, 3, 1, 1, 2]
  · simp only [List.mem_cons, List.not_mem_nil, or_false] at hturn
    have hcall : call = 0 ∨ call = 1 ∨ call = 2 ∨ call = 3 := by omega
    rcases hcall with rfl | rfl | rfl | rfl
    · cases hdelete
    · cases hdelete
    · exact hother (Except.ok.inj (WriteStage.returned.inj (hsecond.symm.trans hreturned)))
    · exact hother (Except.ok.inj (WriteStage.returned.inj (hthird.symm.trans hreturned)))
  · rw [stage_run_of_not_mem hturn] at hreturned
    change (twoRemovals now nonce old new call).firstStage = _ at hreturned
    rw [hdelete] at hreturned
    cases hreturned

end Writing

end QueryWarden.Connections
