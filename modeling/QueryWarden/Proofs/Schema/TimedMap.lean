import QueryWarden.Schema.Cache
import Mathlib.Data.List.Basic
import Mathlib.Data.List.Induction
import Mathlib.Logic.Function.Basic

/-!
# The snapshot cache refines a timed map

A timed map remembers for each key the last snapshot that was stored and when, and lets nothing go
because of its age; only what is asked of it looks at the age. While the clock does not step back
the cache answers as such a map: an entry that it drops on the way has expired, and what has expired
stays so. The last snapshot of a key is in turn found by looking back over the run.
-/

namespace QueryWarden.Schema

/-- What is asked of a cache. -/
inductive CacheCommand where
  | set (key : String) (snapshot : Snapshot)
  | get (key : String)
  | invalidate (opening : String)

/-- The command writes or drops what is stored under a key. -/
def CacheCommand.Touches (key : String) : CacheCommand → Prop
  | .set other _ => other = key
  | .get _ => False
  | .invalidate opening => opening.toList <+: key.toList

instance (key : String) : DecidablePred (CacheCommand.Touches key)
  | .set other _ => inferInstanceAs (Decidable (other = key))
  | .get _ => inferInstanceAs (Decidable False)
  | .invalidate opening => inferInstanceAs (Decidable (opening.toList <+: key.toList))

/-- A command and the time at which it is carried out. -/
abbrev CacheStep := Nat × CacheCommand

/-- The step writes or drops what is stored under a key. -/
abbrev CacheStep.Touches (key : String) (step : CacheStep) : Prop :=
  step.2.Touches key

/-- A step of a cache; only `get` has an answer. -/
def Cache.perform (cache : Cache) : CacheStep → Option Snapshot × Cache
  | (now, .set key snapshot) => (none, cache.set now key snapshot)
  | (now, .get key) => (cache.get? now key, cache)
  | (_, .invalidate opening) => (none, cache.invalidate opening)

/-- The cache after some steps. -/
def Cache.run (cache : Cache) (steps : List CacheStep) : Cache :=
  steps.foldl (fun cache step => (cache.perform step).2) cache

theorem Cache.lifetime_run (cache : Cache) (steps : List CacheStep) :
    (cache.run steps).lifetime = cache.lifetime := by
  induction steps generalizing cache with
  | nil => rfl
  | cons step steps ih =>
      apply (ih _).trans
      obtain ⟨now, command⟩ := step
      cases command <;> rfl

/-! ## The timed map -/

/-- For each key the last snapshot and the time it was stored. -/
abbrev TimedMap := String → Option (Nat × Snapshot)

namespace TimedMap

/-- The snapshot under a key, if it was stored less than a lifetime ago. -/
def get? (map : TimedMap) (lifetime now : Nat) (key : String) : Option Snapshot :=
  (map key).bind fun (stored, snapshot) =>
    if now - stored < lifetime then some snapshot else none

/-- A step of a timed map. -/
def perform (map : TimedMap) : CacheStep → TimedMap
  | (now, .set key snapshot) => Function.update map key (some (now, snapshot))
  | (_, .get _) => map
  | (_, .invalidate opening) => fun key =>
      if opening.toList <+: key.toList then none else map key

/-- The timed map after some steps from an empty one. -/
def run (steps : List CacheStep) : TimedMap :=
  steps.foldl perform fun _ => none

theorem run_concat (steps : List CacheStep) (step : CacheStep) :
    run (steps ++ [step]) = (run steps).perform step :=
  List.foldl_append

theorem get?_eq_some_iff {map : TimedMap} {lifetime now : Nat} {key : String}
    {snapshot : Snapshot} :
    map.get? lifetime now key = some snapshot ↔
      ∃ stored, map key = some (stored, snapshot) ∧ now - stored < lifetime := by
  rw [get?, Option.bind_eq_some_iff]
  constructor
  · rintro ⟨⟨stored, found⟩, hfound, hget⟩
    obtain ⟨halive, hsnapshot⟩ := Option.ite_none_right_eq_some.mp hget
    obtain rfl := Option.some.inj hsnapshot
    exact ⟨stored, hfound, halive⟩
  · rintro ⟨stored, hfound, halive⟩
    exact ⟨(stored, snapshot), hfound, if_pos halive⟩

theorem perform_set_self (map : TimedMap) (now : Nat) (key : String) (snapshot : Snapshot) :
    map.perform (now, .set key snapshot) key = some (now, snapshot) :=
  Function.update_self ..

theorem perform_set_of_ne {key other : String} (hother : other ≠ key) (map : TimedMap)
    (now : Nat) (snapshot : Snapshot) :
    map.perform (now, .set key snapshot) other = map other :=
  Function.update_of_ne hother _ _

/-- A key is left alone by the steps that do not touch it. -/
theorem perform_of_not_touches {map : TimedMap} {key : String} {step : CacheStep}
    (hstep : ¬ step.Touches key) : map.perform step key = map key := by
  obtain ⟨now, command⟩ := step
  cases command with
  | set other snapshot => exact perform_set_of_ne (Ne.symm hstep) map now snapshot
  | get other => rfl
  | invalidate opening => exact if_neg hstep

/-- A step that touches a key leaves there what does not depend on what was there before. -/
theorem perform_of_touches {key : String} {step : CacheStep} (hstep : step.Touches key)
    (map other : TimedMap) : map.perform step key = other.perform step key := by
  obtain ⟨now, command⟩ := step
  cases command with
  | set written snapshot =>
      obtain rfl : written = key := hstep
      rw [perform_set_self, perform_set_self]
  | get asked => exact hstep.elim
  | invalidate opening => exact (if_pos hstep).trans (if_pos hstep).symm

theorem run_filter_touches (key : String) (steps : List CacheStep) :
    run (steps.filter fun step => step.Touches key) key = run steps key := by
  induction steps using List.reverseRecOn with
  | nil => rfl
  | append_singleton steps step ih =>
      rw [List.filter_append, run_concat]
      by_cases hstep : step.Touches key
      · have hkept : [step].filter (fun step => step.Touches key) = [step] := by simp [hstep]
        rw [hkept, run_concat, perform_of_touches hstep]
      · have hdropped : [step].filter (fun step => step.Touches key) = [] := by simp [hstep]
        rw [hdropped, List.append_nil, ih, perform_of_not_touches hstep]

end TimedMap

/-! ## Looking back -/

/-- The last step that touched the key stored this snapshot under it at this time. -/
def LastStored (steps : List CacheStep) (key : String) (stored : Nat) (snapshot : Snapshot) :
    Prop :=
  ∃ earlier later : List CacheStep, steps = earlier ++ (stored, .set key snapshot) :: later ∧
    ∀ step ∈ later, ¬ step.Touches key

section LookingBack

variable {steps : List CacheStep} {step : CacheStep} {key : String} {stored : Nat}
  {snapshot : Snapshot}

theorem lastStored_concat_iff :
    LastStored (steps ++ [step]) key stored snapshot ↔
      step = (stored, .set key snapshot) ∨
        ¬ step.Touches key ∧ LastStored steps key stored snapshot := by
  constructor
  · rintro ⟨earlier, later, hsteps, hlater⟩
    rcases later.eq_nil_or_concat' with rfl | ⟨front, last, rfl⟩
    · exact .inl (List.singleton_inj.mp (List.append_inj' hsteps rfl).2)
    · rw [← List.cons_append, ← List.append_assoc] at hsteps
      obtain ⟨hfront, hlast⟩ := List.append_inj' hsteps rfl
      obtain rfl := List.singleton_inj.mp hlast
      refine .inr ⟨hlater _ (by simp), earlier, front, hfront, ?_⟩
      intro other hother
      exact hlater other (List.mem_append_left _ hother)
  · rintro (rfl | ⟨hstep, earlier, later, rfl, hlater⟩)
    · exact ⟨steps, [], rfl, by simp⟩
    · refine ⟨earlier, later ++ [step], by simp, ?_⟩
      intro other hother
      rcases List.mem_append.mp hother with hold | hnew
      · exact hlater other hold
      · rwa [List.mem_singleton.mp hnew]

/-- What the map holds for a key is what was stored there last. -/
theorem TimedMap.run_eq_some_iff :
    TimedMap.run steps key = some (stored, snapshot) ↔ LastStored steps key stored snapshot := by
  induction steps using List.reverseRecOn with
  | nil => simp [TimedMap.run, LastStored]
  | append_singleton steps step ih =>
      rw [TimedMap.run_concat, lastStored_concat_iff]
      by_cases hstep : step.Touches key
      · obtain ⟨now, command⟩ := step
        cases command with
        | set other found =>
            have hkey : other = key := hstep
            subst hkey
            rw [TimedMap.perform_set_self]
            simp [hstep]
        | get other => exact hstep.elim
        | invalidate opening =>
            have hdropped : (TimedMap.run steps).perform (now, .invalidate opening) key = none :=
              if_pos hstep
            simp [hdropped, hstep]
      · have hother : step ≠ (stored, .set key snapshot) := by
          rintro rfl
          exact hstep rfl
        rw [TimedMap.perform_of_not_touches hstep, ih]
        simp [hstep, hother]

end LookingBack

/-! ## The cache and the map -/

/-- Up to a time the cache has kept what the map holds, except for what has expired. -/
structure Cache.Represents (cache : Cache) (map : TimedMap) (now : Nat) : Prop where
  held : ∀ entry ∈ cache.entries, map entry.key = some (entry.storedAt, entry.snapshot)
  kept : ∀ key stored snapshot, map key = some (stored, snapshot) →
    now - stored < cache.lifetime → ⟨key, snapshot, stored⟩ ∈ cache.entries

namespace Cache.Represents

variable {cache : Cache} {map : TimedMap} {now later : Nat}

theorem empty (lifetime : Nat) : (Cache.empty lifetime).Represents (fun _ => none) 0 where
  held _ hentry := absurd hentry List.not_mem_nil
  kept _ _ _ hfound := nomatch hfound

/-- What has expired stays so. -/
theorem mono (hrep : cache.Represents map now) (hlater : now ≤ later) :
    cache.Represents map later where
  held := hrep.held
  kept key stored snapshot hfound halive := by
    apply hrep.kept key stored snapshot hfound
    omega

theorem get?_eq (hrep : cache.Represents map now) (hlater : now ≤ later) (key : String) :
    cache.get? later key = map.get? cache.lifetime later key := by
  rw [Cache.get?, TimedMap.get?]
  cases hfind : cache.entries.find? fun entry => entry.key == key with
  | some entry =>
      have hkey := List.find?_some hfind
      obtain rfl := beq_iff_eq.mp hkey
      rw [hrep.held entry (List.mem_of_find?_eq_some hfind)]
      simp [Cache.isFresh]
  | none =>
      cases hmap : map key with
      | none => rfl
      | some found =>
          -- The map still holds it, so it is its age that has driven it out of the cache.
          have hexpired : ¬ later - found.1 < cache.lifetime := by
            intro halive
            have hentry := (hrep.mono hlater).kept key found.1 found.2 hmap halive
            have hother := List.find?_eq_none.mp hfind _ hentry
            simp at hother
          exact (if_neg hexpired).symm

theorem set (hrep : cache.Represents map now) (hlater : now ≤ later) (key : String)
    (snapshot : Snapshot) :
    (cache.set later key snapshot).Represents (map.perform (later, .set key snapshot)) later where
  held entry hentry := by
    rcases List.mem_append.mp hentry with hold | hnew
    · obtain ⟨hold, hkept⟩ := List.mem_filter.mp hold
      have hother : entry.key ≠ key := by
        intro hkey
        simp [hkey] at hkept
      rw [TimedMap.perform_set_of_ne hother]
      exact hrep.held entry hold
    · obtain rfl := List.mem_singleton.mp hnew
      exact TimedMap.perform_set_self ..
  kept other stored found hfound halive := by
    by_cases hkey : other = key
    · subst hkey
      rw [TimedMap.perform_set_self] at hfound
      obtain ⟨rfl, rfl⟩ := Prod.mk.inj (Option.some.inj hfound)
      exact List.mem_append_right _ (List.mem_singleton_self _)
    · rw [TimedMap.perform_set_of_ne hkey] at hfound
      apply List.mem_append_left
      apply List.mem_filter.mpr
      refine ⟨(hrep.mono hlater).kept other stored found hfound halive, ?_⟩
      have hfresh : later - stored < cache.lifetime := halive
      simp [Cache.isFresh, hfresh, hkey]

theorem invalidate (hrep : cache.Represents map now) (later : Nat) (opening : String) :
    (cache.invalidate opening).Represents (map.perform (later, .invalidate opening)) now where
  held entry hentry := by
    obtain ⟨hold, hkept⟩ := List.mem_filter.mp hentry
    have hother : ¬ opening.toList <+: entry.key.toList := by
      simpa [← List.isPrefixOf_iff_prefix] using hkept
    exact (if_neg hother).trans (hrep.held entry hold)
  kept key stored snapshot hfound halive := by
    obtain ⟨hother, hfound⟩ := Option.ite_none_left_eq_some.mp hfound
    apply List.mem_filter.mpr
    refine ⟨hrep.kept key stored snapshot hfound halive, ?_⟩
    simpa [← List.isPrefixOf_iff_prefix] using hother

/-- A step keeps the two together. -/
theorem perform (hrep : cache.Represents map now) {step : CacheStep} (hlater : now ≤ step.1) :
    (cache.perform step).2.Represents (map.perform step) step.1 := by
  obtain ⟨later, command⟩ := step
  cases command with
  | set key snapshot => exact hrep.set hlater key snapshot
  | get key => exact hrep.mono hlater
  | invalidate opening => exact (hrep.invalidate later opening).mono hlater

end Cache.Represents

/-- So does a run, up to any time that no step is after. -/
theorem Cache.run_represents {lifetime now : Nat} {steps : List CacheStep}
    (htimes : (steps.map Prod.fst ++ [now]).Pairwise (· ≤ ·)) :
    ((Cache.empty lifetime).run steps).Represents (TimedMap.run steps) now := by
  induction steps using List.reverseRecOn generalizing now with
  | nil => exact (Represents.empty lifetime).mono (Nat.zero_le now)
  | append_singleton steps step ih =>
      rw [List.map_append, List.pairwise_append] at htimes
      obtain ⟨hsteps, -, hlast⟩ := htimes
      rw [Cache.run, List.foldl_append, TimedMap.run_concat]
      refine ((ih hsteps).perform (Nat.le_refl _)).mono ?_
      exact hlast step.1 (by simp) now (by simp)

/-- What a cache answers at a time, by the steps that led there. -/
structure AnswersLatest (lifetime : Nat) (steps : List CacheStep) (now : Nat) (key : String) :
    Prop where
  /-- A snapshot is found when it was stored last under the key, and less than a lifetime ago. -/
  found_iff : ∀ snapshot,
    (((Cache.empty lifetime).run steps).perform (now, .get key)).1 = some snapshot ↔
      ∃ stored, LastStored steps key stored snapshot ∧ now - stored < lifetime
  /-- That expired entries are dropped on the way does not show. -/
  unpurged : (((Cache.empty lifetime).run steps).perform (now, .get key)).1 =
    (TimedMap.run steps).get? lifetime now key
  /-- Nor do the steps that are about other keys. -/
  others : (((Cache.empty lifetime).run steps).perform (now, .get key)).1 =
    (((Cache.empty lifetime).run (steps.filter fun step => step.Touches key)).perform
      (now, .get key)).1

/-- While the clock does not step back, a cache answers as a timed map does. -/
theorem Cache.run_answersLatest {lifetime now : Nat} {steps : List CacheStep}
    (htimes : (steps.map Prod.fst ++ [now]).Pairwise (· ≤ ·)) (key : String) :
    AnswersLatest lifetime steps now key := by
  have hanswer : ∀ {steps : List CacheStep}, (steps.map Prod.fst ++ [now]).Pairwise (· ≤ ·) →
      (((Cache.empty lifetime).run steps).perform (now, .get key)).1 =
        (TimedMap.run steps).get? lifetime now key := by
    intro steps htimes
    have hrep : ((Cache.empty lifetime).run steps).Represents (TimedMap.run steps) now :=
      run_represents htimes
    have hget := hrep.get?_eq (Nat.le_refl now) key
    rwa [lifetime_run] at hget
  have hothers : ((steps.filter fun step => step.Touches key).map Prod.fst ++ [now]).Pairwise
      (· ≤ ·) :=
    htimes.sublist ((List.filter_sublist.map Prod.fst).append_right [now])
  refine ⟨fun snapshot => ?_, hanswer htimes, ?_⟩
  · rw [hanswer htimes, TimedMap.get?_eq_some_iff]
    simp only [TimedMap.run_eq_some_iff]
  · rw [hanswer htimes, hanswer hothers, TimedMap.get?, TimedMap.get?,
      TimedMap.run_filter_touches]

/-- Of two keys that one text starts only the one stored again is found, and only until its time
is up. -/
theorem run_answersLatest_again :
    let orders : Snapshot := ⟨[.bare "shop" "orders"]⟩
    let steps : List CacheStep := [(0, .set "schema_1_a" ⟨[]⟩), (2, .set "schema_1_b" ⟨[]⟩),
      (5, .invalidate "schema_1_"), (5, .set "schema_1_a" orders), (8, .set "schema_2_a" ⟨[]⟩)]
    (steps.map Prod.fst ++ [14]).Pairwise (· ≤ ·) ∧
      (((Cache.empty 10).run steps).perform (14, .get "schema_1_a")).1 = some orders ∧
      (((Cache.empty 10).run steps).perform (14, .get "schema_1_b")).1 = none ∧
      (((Cache.empty 9).run steps).perform (14, .get "schema_1_a")).1 = none := by
  intro orders steps
  have htimes : (steps.map Prod.fst ++ [14]).Pairwise (· ≤ ·) := by decide
  refine ⟨htimes, ?_, ?_, ?_⟩
  · apply ((Cache.run_answersLatest htimes "schema_1_a").found_iff orders).mpr
    exact ⟨5, ⟨steps.take 3, steps.drop 4, rfl, by decide⟩, by decide⟩
  · exact (Cache.run_answersLatest htimes "schema_1_b").unpurged.trans rfl
  · exact (Cache.run_answersLatest htimes "schema_1_a").unpurged.trans rfl

end QueryWarden.Schema
