import QueryWarden.Proofs.Configuration.Reading
import Mathlib.Data.List.Induction

/-!
# Variables for settings

What the environment puts over a tree. A variable for a setting is named after its section and its
key and holds a text. So under each key stands what the last variable for it holds, or what stood
there before, and a section with such a variable is a table, whatever it was.
-/

namespace QueryWarden.Configuration

open QueryWarden.Text

/-- What a variable holds. -/
def variableTree (value : String) : Tree := .scalar (some "the environment") (.text value)

namespace Setting

variable (setting : Setting)

/-- The name of the variable for a setting, in lower case. -/
def variableName : List Char :=
  variablePrefix ++ setting.place.sectionName.toList ++ "__".toList ++ setting.place.key.toList

/-- A variable of this name, in any case, is for the setting. -/
def IsNamedBy (name : String) : Prop := lowercase name.toList = setting.variableName

instance (name : String) : Decidable (setting.IsNamedBy name) :=
  inferInstanceAs (Decidable (_ = _))

-- The lower case of the kelvin sign is an ASCII letter.
example : maxTokens.IsNamedBy "NL2SQL__LLM__Max_To\u212aens" := by decide

/-- What the variables say. -/
def assigned? (assigned : Variables) : Option Tree :=
  (assigned.reverse.find? fun entry => setting.IsNamedBy entry.1).map fun entry =>
    variableTree entry.2

end Setting

/-- Some variable is for a setting of the section. -/
def NamesSection (assigned : Variables) (sectionName : String) : Prop :=
  ∃ entry ∈ assigned, ∃ setting ∈ Setting.all,
    setting.place.sectionName = sectionName ∧ setting.IsNamedBy entry.1

instance (assigned : Variables) (sectionName : String) :
    Decidable (NamesSection assigned sectionName) :=
  inferInstanceAs (Decidable (∃ entry ∈ assigned, _))

/-- All variables of the service are for settings. -/
def NameSettings (assigned : Variables) : Prop :=
  ∀ entry ∈ assigned, variablePrefix.isPrefixOf (lowercase entry.1.toList) = true →
    ∃ setting : Setting, setting.IsNamedBy entry.1

/-! ## Names -/

section VariableLayers

variable {assigned : Variables} {entry : String × String} {tree : Tree} {setting other : Setting}

theorem variableName_injective (hname : setting.variableName = other.variableName) :
    setting = other := by
  have hall : ∀ setting ∈ Setting.all, ∀ other ∈ Setting.all,
      setting.variableName = other.variableName → setting = other := by
    decide +kernel
  exact hall setting setting.mem_all other other.mem_all hname

theorem names_injective (hsection : setting.place.sectionName = other.place.sectionName)
    (hkey : setting.place.key = other.place.key) : setting = other := by
  apply variableName_injective
  rw [Setting.variableName, Setting.variableName, hsection, hkey]

theorem pathOfName_variableName (setting : Setting) :
    pathOfName (String.ofList
        (pointedName (setting.variableName.drop variablePrefix.length))) =
      [.key setting.place.sectionName, .key setting.place.key] := by
  have hall : ∀ setting ∈ Setting.all, pathOfName (String.ofList
        (pointedName (setting.variableName.drop variablePrefix.length))) =
      [.key setting.place.sectionName, .key setting.place.key] := by
    decide +kernel
  exact hall setting setting.mem_all

theorem putLayer_append (lower upper : Layer) :
    tree.putLayer (lower ++ upper) = (tree.putLayer lower).putLayer upper :=
  List.foldl_append

theorem putLayer_variables_concat :
    tree.putLayer (variableLayer (assigned ++ [entry])) =
      (tree.putLayer (variableLayer assigned)).putLayer (variableLayer [entry]) := by
  rw [variableLayer, List.filterMap_append, putLayer_append]
  rfl

/-- The prefix is part of the name of every variable for a setting. -/
theorem prefix_of_isNamedBy {name : String} (hname : setting.IsNamedBy name) :
    variablePrefix.isPrefixOf (lowercase name.toList) = true := by
  rw [hname, Setting.variableName, List.append_assoc, List.append_assoc]
  exact List.isPrefixOf_iff_prefix.mpr (List.prefix_append _ _)

theorem not_isNamedBy_of_unprefixed {name : String}
    (hother : variablePrefix.isPrefixOf (lowercase name.toList) = false) (setting : Setting) :
    ¬ setting.IsNamedBy name := by
  intro hname
  rw [prefix_of_isNamedBy hname] at hother
  cases hother

theorem variableLayer_singleton (entry : String × String) :
    variableLayer [entry] =
      if variablePrefix.isPrefixOf (lowercase entry.1.toList) then
        [(String.ofList (pointedName ((lowercase entry.1.toList).drop variablePrefix.length)),
          variableTree entry.2)]
      else [] := by
  rw [variableLayer, List.filterMap_cons]
  dsimp only
  cases variablePrefix.isPrefixOf (lowercase entry.1.toList) <;> rfl

/-- One variable for a setting puts its value in the place of the setting. -/
theorem putLayer_variable (hname : setting.IsNamedBy entry.1) :
    tree.putLayer (variableLayer [entry]) =
      tree.changeAt (fun _ => variableTree entry.2)
        [.key setting.place.sectionName, .key setting.place.key] := by
  have hover : (variableTree entry.2).over = fun _ => variableTree entry.2 := by
    funext below
    rw [variableTree, Tree.over]
    nofun
  rw [variableLayer_singleton, if_pos (prefix_of_isNamedBy hname), Tree.putLayer, List.foldl_cons,
    List.foldl_nil, hname, pathOfName_variableName, hover]

/-- A variable of something else changes nothing. -/
theorem putLayer_other_variable
    (hother : variablePrefix.isPrefixOf (lowercase entry.1.toList) = false) :
    tree.putLayer (variableLayer [entry]) = tree := by
  rw [variableLayer_singleton, hother]
  rfl

/-- A variable is for one setting at most. -/
theorem isNamedBy_unique {name : String} (hname : setting.IsNamedBy name)
    (hother : other.IsNamedBy name) : setting = other :=
  variableName_injective (hname.symm.trans hother)

theorem assigned?_concat (setting : Setting) :
    setting.assigned? (assigned ++ [entry]) =
      if setting.IsNamedBy entry.1 then some (variableTree entry.2)
      else setting.assigned? assigned := by
  rw [Setting.assigned?, List.reverse_concat, List.find?_cons]
  split
  next hname => simp [of_decide_eq_true hname]
  next hname => simp [of_decide_eq_false hname, Setting.assigned?]

theorem namesSection_concat_iff {sectionName : String} :
    NamesSection (assigned ++ [entry]) sectionName ↔ NamesSection assigned sectionName ∨
      ∃ setting : Setting, setting.place.sectionName = sectionName ∧
        setting.IsNamedBy entry.1 := by
  simp only [NamesSection, Setting.mem_all, true_and, List.mem_append, List.mem_singleton,
    or_and_right, exists_or, exists_eq_left]

theorem NameSettings.concat (hnames : NameSettings (assigned ++ [entry])) :
    NameSettings assigned ∧ NameSettings [entry] :=
  ⟨fun _ hmem => hnames _ (List.mem_append_left _ hmem),
    fun _ hmem => hnames _ (List.mem_append_right _ hmem)⟩

/-- A variable is of something else or for a setting. -/
theorem NameSettings.cases (hnames : NameSettings [entry]) :
    variablePrefix.isPrefixOf (lowercase entry.1.toList) = false ∨
      ∃ setting : Setting, setting.IsNamedBy entry.1 := by
  cases hprefix : variablePrefix.isPrefixOf (lowercase entry.1.toList) with
  | false => exact .inl rfl
  | true => exact .inr (hnames entry (by simp) hprefix)

/-! ## Variables over a tree -/

/-- What stands under the key of a setting once the variables are put over a tree. -/
theorem named?_putVariables (hnames : NameSettings assigned) (setting : Setting) :
    (tree.putLayer (variableLayer assigned)).named? setting.place.sectionName setting.place.key =
      (setting.assigned? assigned).or
        (tree.named? setting.place.sectionName setting.place.key) := by
  induction assigned using List.reverseRecOn with
  | nil => rfl
  | append_singleton assigned entry ih =>
      obtain ⟨hassigned, hentry⟩ := hnames.concat
      rw [putLayer_variables_concat, assigned?_concat]
      rcases hentry.cases with hother | ⟨named, hnamed⟩
      · rw [putLayer_other_variable hother, if_neg (not_isNamedBy_of_unprefixed hother setting),
          ih hassigned]
      · rw [putLayer_variable hnamed, named?_changeAt]
        by_cases hsame : setting = named
        · subst hsame
          simp [hnamed]
        · have hnot : ¬ setting.IsNamedBy entry.1 := fun hname =>
            hsame (isNamedBy_unique hname hnamed)
          rw [if_neg fun hplace => hsame (names_injective hplace.1 hplace.2), if_neg hnot,
            ih hassigned]

theorem member?_putVariables_of_not_namesSection (hnames : NameSettings assigned)
    {sectionName : String} (hsection : ¬ NamesSection assigned sectionName) :
    (tree.putLayer (variableLayer assigned)).member? sectionName = tree.member? sectionName := by
  induction assigned using List.reverseRecOn with
  | nil => rfl
  | append_singleton assigned entry ih =>
      obtain ⟨hassigned, hentry⟩ := hnames.concat
      rw [namesSection_concat_iff, not_or] at hsection
      rw [putLayer_variables_concat, ← ih hassigned hsection.1]
      rcases hentry.cases with hother | ⟨named, hnamed⟩
      · rw [putLayer_other_variable hother]
      · rw [putLayer_variable hnamed, Tree.changeAt, member?_changeKey, if_neg]
        exact fun hsame => hsection.2 ⟨named, hsame.symm, hnamed⟩

theorem isTable_member?_putVariables (hnames : NameSettings assigned) {sectionName : String}
    (hsection : NamesSection assigned sectionName) :
    ∃ part, (tree.putLayer (variableLayer assigned)).member? sectionName = some part ∧
      part.IsTable := by
  induction assigned using List.reverseRecOn with
  | nil =>
      obtain ⟨entry, hmem, -⟩ := hsection
      cases hmem
  | append_singleton assigned entry ih =>
      obtain ⟨hassigned, hentry⟩ := hnames.concat
      rw [putLayer_variables_concat]
      rcases hentry.cases with hother | ⟨named, hnamed⟩
      · rw [putLayer_other_variable hother]
        refine ih hassigned ((namesSection_concat_iff.mp hsection).resolve_right ?_)
        exact fun ⟨setting, _, hname⟩ => not_isNamedBy_of_unprefixed hother setting hname
      · rw [putLayer_variable hnamed, Tree.changeAt, member?_changeKey]
        split
        next => exact ⟨_, rfl, isTable_changeKey⟩
        next hne =>
          refine ih hassigned ((namesSection_concat_iff.mp hsection).resolve_right ?_)
          rintro ⟨setting, hsame, hname⟩
          rw [isNamedBy_unique hname hnamed] at hsame
          exact hne hsame.symm

theorem assigned?_eq_none_of_not_namesSection
    (hsection : ¬ NamesSection assigned setting.place.sectionName) :
    setting.assigned? assigned = none := by
  rw [Setting.assigned?, Option.map_eq_none_iff, List.find?_eq_none]
  intro entry hmem hname
  exact hsection ⟨entry, List.mem_reverse.mp hmem, setting, setting.mem_all, rfl,
    of_decide_eq_true hname⟩

end VariableLayers

end QueryWarden.Configuration
