/-!
# Outcomes of steps in a row

Steps that may fail, one after the other: the whole succeeds exactly when each step does.
-/

namespace QueryWarden

variable {ε α β : Type}

theorem bind_eq_ok_iff {outcome : Except ε α} {next : α → Except ε β} {result : β} :
    outcome >>= next = .ok result ↔ ∃ value, outcome = .ok value ∧ next value = .ok result := by
  cases outcome with
  | error failure => simp [bind, Except.bind]
  | ok value => simp [bind, Except.bind]

theorem map_eq_ok_iff {f : α → β} {outcome : Except ε α} {result : β} :
    outcome.map f = .ok result ↔ ∃ value, outcome = .ok value ∧ f value = result := by
  cases outcome with
  | error failure => simp [Except.map]
  | ok value => simp [Except.map]

theorem bind_eq_error_iff {outcome : Except ε α} {next : α → Except ε β} {failure : ε} :
    outcome >>= next = .error failure ↔
      outcome = .error failure ∨ ∃ value, outcome = .ok value ∧ next value = .error failure := by
  cases outcome with
  | error other => simp [bind, Except.bind]
  | ok value => simp [bind, Except.bind]

theorem map_eq_error_iff {f : α → β} {outcome : Except ε α} {failure : ε} :
    outcome.map f = .error failure ↔ outcome = .error failure := by
  cases outcome with
  | error other => simp [Except.map]
  | ok value => simp [Except.map]

theorem toOption_eq_some_iff {outcome : Except ε α} {value : α} :
    outcome.toOption = some value ↔ outcome = .ok value := by
  cases outcome with
  | error failure => simp [Except.toOption]
  | ok value => simp [Except.toOption]

theorem ok_bind (value : α) (next : α → Except ε β) : .ok value >>= next = next value := rfl

/-- A step that succeeds for each member of a list succeeds for all of them. -/
theorem mapM_map_ok {γ : Type} {write : γ → α} {step : α → Except ε β} {g : γ → β}
    {members : List γ} (hstep : ∀ member ∈ members, step (write member) = .ok (g member)) :
    (members.map write).mapM step = .ok (members.map g) := by
  induction members with
  | nil => rfl
  | cons member members ih =>
      obtain ⟨hmember, hmembers⟩ := List.forall_mem_cons.mp hstep
      rw [List.map_cons, List.mapM_cons, hmember, ok_bind, ih hmembers]
      rfl

/-- What each step needs and gives, all of them need and give. -/
theorem mapM_eq_ok_iff {step : α → Except ε β} {needs : α → Prop} {g : α → β}
    (hstep : ∀ member result, step member = .ok result ↔ needs member ∧ result = g member)
    {members : List α} {results : List β} :
    members.mapM step = .ok results ↔
      (∀ member ∈ members, needs member) ∧ results = members.map g := by
  induction members generalizing results with
  | nil => exact ⟨fun hresults => ⟨nofun, (Except.ok.inj hresults).symm⟩, by rintro ⟨-, rfl⟩; rfl⟩
  | cons member members ih =>
      rw [List.mapM_cons, bind_eq_ok_iff, List.forall_mem_cons, List.map_cons]
      constructor
      · rintro ⟨result, hmember, hrest⟩
        obtain ⟨rest, hmembers, hresults⟩ := bind_eq_ok_iff.mp hrest
        obtain ⟨hneeds, rfl⟩ := (hstep _ _).mp hmember
        obtain ⟨hall, rfl⟩ := ih.mp hmembers
        exact ⟨⟨hneeds, hall⟩, (Except.ok.inj hresults).symm⟩
      · rintro ⟨⟨hneeds, hall⟩, rfl⟩
        refine ⟨g member, (hstep _ _).mpr ⟨hneeds, rfl⟩, ?_⟩
        rw [ih.mpr ⟨hall, rfl⟩]
        rfl

/-- Two passes have the results of one pass that takes both steps for each member. -/
theorem mapM_mapM_eq_ok_iff {γ : Type} {first : α → Except ε β} {second : β → Except ε γ}
    {members : List α} {results : List γ} :
    (∃ between, members.mapM first = .ok between ∧ between.mapM second = .ok results) ↔
      members.mapM (fun member => first member >>= second) = .ok results := by
  induction members generalizing results with
  | nil =>
      constructor
      · rintro ⟨between, hfirst, hsecond⟩
        obtain rfl := Except.ok.inj hfirst
        exact hsecond
      · exact fun hresults => ⟨[], rfl, hresults⟩
  | cons member members ih =>
      simp only [List.mapM_cons, bind_eq_ok_iff]
      constructor
      · rintro ⟨_, ⟨middle, hmember, middles, hmembers, hbetween⟩, hsecond⟩
        obtain rfl := Except.ok.inj hbetween
        rw [List.mapM_cons, bind_eq_ok_iff] at hsecond
        obtain ⟨result, hresult, hrest⟩ := hsecond
        obtain ⟨rest, hrest, hresults⟩ := bind_eq_ok_iff.mp hrest
        exact ⟨result, ⟨middle, hmember, hresult⟩, rest, ih.mp ⟨middles, hmembers, hrest⟩, hresults⟩
      · rintro ⟨result, ⟨middle, hmember, hresult⟩, rest, hrest, hresults⟩
        obtain ⟨middles, hmembers, hrest⟩ := ih.mpr hrest
        refine ⟨middle :: middles, ⟨middle, hmember, middles, hmembers, rfl⟩, ?_⟩
        rw [List.mapM_cons, hresult, ok_bind, hrest, ok_bind]
        exact hresults

/-- What each result has of its member, all results have of theirs. -/
theorem map_eq_of_mapM_eq_ok {γ : Type} {step : α → Except ε β} {f : α → γ} {g : β → γ}
    (hstep : ∀ member result, step member = .ok result → g result = f member)
    {members : List α} {results : List β} (hresults : members.mapM step = .ok results) :
    results.map g = members.map f := by
  induction members generalizing results with
  | nil =>
      obtain rfl := Except.ok.inj hresults
      rfl
  | cons member members ih =>
      rw [List.mapM_cons, bind_eq_ok_iff] at hresults
      obtain ⟨result, hmember, hrest⟩ := hresults
      obtain ⟨rest, hmembers, hwhole⟩ := bind_eq_ok_iff.mp hrest
      obtain rfl := Except.ok.inj hwhole
      rw [List.map_cons, List.map_cons, hstep member result hmember, ih hmembers]

/-- The failure of a whole list is that of a member. -/
theorem exists_of_mapM_eq_error {step : α → Except ε β} {members : List α} {failure : ε}
    (hfailure : members.mapM step = .error failure) :
    ∃ member ∈ members, step member = .error failure := by
  induction members with
  | nil => cases hfailure
  | cons member members ih =>
      rw [List.mapM_cons] at hfailure
      rcases bind_eq_error_iff.mp hfailure with hmember | ⟨result, -, hrest⟩
      · exact ⟨member, List.mem_cons_self, hmember⟩
      · rcases bind_eq_error_iff.mp hrest with hmembers | ⟨results, -, hresults⟩
        · obtain ⟨failed, hmem, hfailed⟩ := ih hmembers
          exact ⟨failed, List.mem_cons_of_mem _ hmem, hfailed⟩
        · cases hresults

end QueryWarden
