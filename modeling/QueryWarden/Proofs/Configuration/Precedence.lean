import QueryWarden.Proofs.Configuration.Variables

/-!
# Settings key by key

Which layer a setting comes from. Layers are merged, so each key is settled by itself: the highest
layer that says something of it decides, whatever the layers say of the keys beside it. Lists are
the exception. A file may give a section as a list, whose items stand for the keys in their order,
but a variable for a key of that section makes a table of it, in which nothing of the list is left.
-/

namespace QueryWarden.Configuration

open QueryWarden.Text

/-! ## What the layers say -/

/-- A value without parts. -/
def Tree.isScalar : Tree → Bool
  | .scalar _ _ => true
  | .list _ _ | .table _ _ => false

/-- The file gives the section as a list. -/
def ListsSection (file : Layer) (sectionName : String) : Prop :=
  ∃ origin items, (Tree.ofLayers [file]).member? sectionName = some (.list origin items)

namespace Setting

variable (setting : Setting)

/-- What a tree holds for the setting below the variables: what stands under its key, or at its
position if the section is a list that no variable does away with. -/
def below? (tree : Tree) (assigned : Variables) : Option Tree :=
  if NamesSection assigned setting.place.sectionName then
    tree.named? setting.place.sectionName setting.place.key
  else tree.at? setting.place

/-- What a file says. Tables say nothing where a single value is due. -/
def fileValue? (file : Layer) (assigned : Variables) : Option Tree :=
  (setting.below? (Tree.ofLayers [file]) assigned).filter Tree.isScalar

/-- The scalar that stands in a file under the key of the setting in its section, or at its position
there. -/
def written? (file : Layer) (assigned : Variables) : Option Tree :=
  ((file.lookup setting.place.sectionName).bind fun part =>
    if NamesSection assigned setting.place.sectionName then part.member? setting.place.key
    else part.part? setting.place.key setting.place.position).filter Tree.isScalar

/-- The value of a setting: what the command line says, else the variables, else the file, and what
is built in if none of them says anything. -/
def resolve (line : CommandLine) (file : Layer) (assigned : Variables) :
    Except Fault setting.Value :=
  match setting.given? line with
  | some value => .ok value
  | none =>
      match (setting.assigned? assigned).or (setting.fileValue? file assigned) with
      | some tree => setting.read tree
      | none => .ok setting.builtIn

end Setting

/-! ## Plain files -/

section Plain

variable {setting : Setting} {file : Layer} {assigned : Variables}

theorem over_nothing_of_not_table {tree : Tree} (htree : ¬ tree.IsTable) :
    tree.over .nothing = tree := by
  cases tree with
  | table origin members => exact absurd ⟨origin, members, rfl⟩ htree
  | scalar | list =>
      rw [Tree.over]
      simp

theorem filter_isScalar_map_over_nothing (found : Option Tree) :
    (found.map (·.over .nothing)).filter Tree.isScalar = found.filter Tree.isScalar := by
  cases found with
  | none => rfl
  | some tree =>
      by_cases htree : tree.IsTable
      · obtain ⟨origin, members, rfl⟩ := htree
        obtain ⟨_, _, hover⟩ := isTable_table_over_nothing origin members
        rw [Option.map_some, hover]
        rfl
      · rw [Option.map_some, over_nothing_of_not_table htree]

/-- In a plain file, what is said of a setting stands as it is. -/
theorem fileValue?_of_isPlain (hplain : file.IsPlain) :
    setting.fileValue? file assigned = setting.written? file assigned := by
  rw [Setting.fileValue?, Setting.written?, Setting.below?, Tree.named?, Tree.at?,
    hplain.member?_ofLayers]
  cases hlookup : file.lookup setting.place.sectionName with
  | none => simp
  | some part =>
      rw [Option.map_some, Option.bind_some, Option.bind_some, Option.bind_some]
      by_cases hpart : part.IsTable
      · obtain ⟨origin, members, rfl⟩ := hpart
        obtain ⟨front, back, hfile, -⟩ := List.lookup_eq_some_iff.mp hlookup
        have hmem : (setting.place.sectionName, Tree.table origin members) ∈ file := by
          simp [hfile]
        have hnodup := hplain.nodup_members _ origin members hmem
        rw [Tree.part?_of_isTable (isTable_table_over_nothing origin members),
          Tree.part?_of_isTable ⟨origin, members, rfl⟩, ite_self, ite_self,
          member?_table_over_nothing hnodup, filter_isScalar_map_over_nothing]
        rfl
      · rw [over_nothing_of_not_table hpart]

end Plain

/-! ## What is built in -/

/-- The tree of what is built in. -/
def builtTree : Tree := Tree.ofLayers [Settings.initial.layer]

theorem isListless_of_forall_mem {origin : Origin} {members : List (String × Tree)}
    (hmembers : ∀ entry ∈ members, entry.2.IsListless) :
    (Tree.table origin members).IsListless := by
  refine .table origin members fun name member hmember => ?_
  obtain ⟨front, back, rfl, -⟩ := List.lookup_eq_some_iff.mp hmember
  exact hmembers (name, member) (by simp)

theorem builtTree_eq : builtTree = .table none Settings.initial.layer := by
  rfl

theorem isListless_builtTree : builtTree.IsListless := by
  rw [builtTree_eq]
  apply isListless_of_forall_mem
  simp only [Settings.layer, List.forall_mem_cons]
  refine ⟨?_, ?_, ?_, ?_, ?_, ?_, by simp⟩ <;>
    · apply isListless_of_forall_mem
      simp [Tree.IsListless.scalar, builtText, builtNatural, builtOptional, Settings.initial,
        Tree.nothing]

/-- What is built in for a setting is a scalar, and is read as it should be. -/
theorem named?_builtTree (setting : Setting) : ∃ origin value,
    builtTree.named? setting.place.sectionName setting.place.key = some (.scalar origin value) ∧
      setting.read (.scalar origin value) = .ok setting.builtIn := by
  rw [builtTree_eq]
  cases setting <;> exact ⟨_, _, rfl, rfl⟩

/-! ## The layers together -/

section Layers

variable {file : Layer} {assigned : Variables} {tree : Tree}

/-- Where a section is no list, keys alone count. -/
theorem at?_eq_named? {place : Place}
    (hsection : ∀ origin items, tree.member? place.sectionName ≠ some (.list origin items)) :
    tree.at? place = tree.named? place.sectionName place.key := by
  rw [Tree.at?, Tree.named?]
  cases hmember : tree.member? place.sectionName with
  | none => rfl
  | some part =>
      cases part with
      | scalar | table => rfl
      | list origin items => exact absurd hmember (hsection origin items)

/-- Variables go before whatever the tree below them holds. -/
theorem at?_putVariables (hnames : NameSettings assigned) (setting : Setting) :
    (tree.putLayer (variableLayer assigned)).at? setting.place =
      (setting.assigned? assigned).or (setting.below? tree assigned) := by
  rw [Setting.below?]
  by_cases hsection : NamesSection assigned setting.place.sectionName
  · obtain ⟨part, hpart, _, _, rfl⟩ := isTable_member?_putVariables hnames hsection
    rw [if_pos hsection, ← named?_putVariables hnames, at?_eq_named?]
    intro origin items hlist
    rw [hpart] at hlist
    cases hlist
  · rw [if_neg hsection, assigned?_eq_none_of_not_namesSection hsection, Option.none_or, Tree.at?,
      Tree.at?, member?_putVariables_of_not_namesSection hnames hsection]

/-- The sections of a file over those that are built in. -/
theorem rests_section (file : Layer) (sectionName : String) :
    Rests (builtTree.member? sectionName) ((Tree.ofLayers [file]).member? sectionName)
      ((builtTree.putLayer file).member? sectionName) :=
  (rests_putLayer (isTable_ofLayers _) isListless_builtTree file).member? sectionName

/-- Nothing built in is a list, so a section is one exactly when the file says so. -/
theorem member?_eq_list_iff {sectionName : String} {origin : Origin} {items : List Tree} :
    (builtTree.putLayer file).member? sectionName = some (.list origin items) ↔
      (Tree.ofLayers [file]).member? sectionName = some (.list origin items) := by
  apply (rests_section file sectionName).list_iff
  intro origin items hmember
  cases isListless_builtTree.member? sectionName _ hmember

/-- Under the key of a setting a scalar is built in. The file puts in its place what it holds there
on its own, or leaves it and says nothing. -/
theorem named?_putLayer (setting : Setting) (file : Layer) :
    (builtTree.putLayer file).named? setting.place.sectionName setting.place.key =
        (Tree.ofLayers [file]).named? setting.place.sectionName setting.place.key ∨
      (builtTree.putLayer file).named? setting.place.sectionName setting.place.key =
          builtTree.named? setting.place.sectionName setting.place.key ∧
        ((Tree.ofLayers [file]).named? setting.place.sectionName
          setting.place.key).filter Tree.isScalar = none := by
  have hkey : Rests (builtTree.named? setting.place.sectionName setting.place.key)
      ((Tree.ofLayers [file]).named? setting.place.sectionName setting.place.key)
      ((builtTree.putLayer file).named? setting.place.sectionName setting.place.key) :=
    (rests_section file setting.place.sectionName).member? setting.place.key
  obtain ⟨origin, value, hbuilt, -⟩ := named?_builtTree setting
  rw [hbuilt] at hkey ⊢
  refine hkey.of_scalar.imp_right fun hleft => ⟨hleft.1, ?_⟩
  rcases hleft.2 with hnone | hempty
  · rw [hnone]
    rfl
  · rw [hempty]
    rfl

/-- Over what is built in, a file holds for a setting what it holds on its own, or nothing. -/
theorem below?_putLayer (setting : Setting) (file : Layer) (assigned : Variables) :
    setting.below? (builtTree.putLayer file) assigned =
        setting.below? (Tree.ofLayers [file]) assigned ∨
      setting.below? (builtTree.putLayer file) assigned =
          builtTree.named? setting.place.sectionName setting.place.key ∧
        setting.fileValue? file assigned = none := by
  rw [Setting.fileValue?, Setting.below?, Setting.below?]
  split
  next => exact named?_putLayer setting file
  next =>
    by_cases hlist : ListsSection file setting.place.sectionName
    · obtain ⟨origin, items, hown⟩ := hlist
      left
      rw [Tree.at?, Tree.at?, hown, member?_eq_list_iff.mpr hown]
    · have hown : ∀ origin items, (Tree.ofLayers [file]).member? setting.place.sectionName ≠
          some (.list origin items) := fun origin items hmember => hlist ⟨origin, items, hmember⟩
      rw [at?_eq_named? hown, at?_eq_named? fun origin items hmember =>
        hown origin items (member?_eq_list_iff.mp hmember)]
      exact named?_putLayer setting file

/-- Nothing but a scalar is read as a single value. -/
theorem isScalar_of_read_eq_ok {setting : Setting} {part : Tree} {value : setting.Value}
    (hread : setting.read part = .ok value) : part.isScalar = true := by
  cases part with
  | scalar => rfl
  | list | table => cases setting <;> cases hread

/-- The tree of all layers. -/
def wholeTree (file : Layer) (assigned : Variables) : Tree :=
  (builtTree.putLayer file).putLayer (variableLayer assigned)

theorem wholeTree_eq (file : Layer) (assigned : Variables) :
    Tree.ofLayers [Settings.initial.layer, file, variableLayer assigned] =
      wholeTree file assigned := rfl

theorem isTable_wholeTree (file : Layer) (assigned : Variables) :
    (wholeTree file assigned).IsTable :=
  isTable_ofLayers [Settings.initial.layer, file, variableLayer assigned]

/-- What is read for a setting without a command line is what the highest layer says. -/
theorem resolve_of_given?_eq_none {settings : Settings} {line : CommandLine} {setting : Setting}
    (hnames : NameSettings assigned) (hread : (wholeTree file assigned).toSettings = .ok settings)
    (hgiven : setting.given? line = none) :
    setting.resolve line file assigned = .ok (setting.of settings) := by
  have hplace := map_at?_setting (isTable_wholeTree file assigned) hread setting
  rw [wholeTree, at?_putVariables hnames] at hplace
  rw [Setting.resolve, hgiven]
  cases hassigned : setting.assigned? assigned with
  | some part =>
      rw [hassigned] at hplace
      exact hplace
  | none =>
      rw [hassigned, Option.none_or] at hplace
      rw [Option.none_or]
      rcases below?_putLayer setting file assigned with hsame | ⟨hbuilt, hnone⟩
      · rw [hsame] at hplace
        rw [Setting.fileValue?]
        cases hbelow : setting.below? (Tree.ofLayers [file]) assigned with
        | none =>
            rw [hbelow] at hplace
            exact hplace
        | some part =>
            rw [hbelow] at hplace
            have hvalue : setting.read part = .ok (setting.of settings) := hplace
            rw [Option.filter_some, isScalar_of_read_eq_ok hvalue]
            exact hvalue
      · obtain ⟨origin, value, hscalar, hvalue⟩ := named?_builtTree setting
        rw [hbuilt, hscalar, Option.map_some, hvalue] at hplace
        rw [hnone]
        exact hplace

end Layers

/-! ## Loading -/

section Loading

variable {line : CommandLine} {files : TextFiles} {file : Layer} {assigned : Variables}
  {settings : Settings}

theorem load_eq_ok_iff : load line files assigned = .ok settings ↔
    ∃ file, chosenLayer line.config files = .ok file ∧
      ∃ under, (wholeTree file assigned).toSettings = .ok under ∧ line.over under = settings := by
  simp only [load, bind_eq_ok_iff, wholeTree_eq, Except.ok.injEq]

/-- The command line goes before everything, and says nothing of other settings. -/
theorem of_over (line : CommandLine) (settings : Settings) (setting : Setting) :
    setting.of (line.over settings) = (setting.given? line).getD (setting.of settings) := by
  cases setting <;> rfl

/-- The connections of a file, all of them or none. -/
def connectionsOf (file : Layer) : Except Fault (List Connections.Settings) :=
  (((Tree.ofLayers [file]).member? "connections").map Tree.toConnections).getD (.ok [])

theorem member?_connections (hnames : NameSettings assigned) (file : Layer) :
    (wholeTree file assigned).member? "connections" =
      (Tree.ofLayers [file]).member? "connections" := by
  have hsection : ¬ NamesSection assigned "connections" := by
    rintro ⟨entry, -, setting, -, hsection, -⟩
    revert hsection
    cases setting <;> decide
  rw [wholeTree, member?_putVariables_of_not_namesSection hnames hsection]
  have hmember := rests_section file "connections"
  rw [builtTree_eq] at hmember
  exact hmember.eq_of_none

/-- What loading settings from a file and variables promises for each key. -/
structure ResolvesByKey (line : CommandLine) (files : TextFiles) (assigned : Variables)
    (file : Layer) (settings : Settings) : Prop where
  /-- The value of every setting is what the highest layer says of it. -/
  resolve : ∀ setting : Setting, setting.resolve line file assigned = .ok (setting.of settings)
  /-- What a file without names that spell paths says of a setting is what is written in it. -/
  written : file.IsPlain → ∀ setting : Setting,
    setting.fileValue? file assigned = setting.written? file assigned
  /-- The connections are those of the file. -/
  connections : connectionsOf file = .ok settings.connections
  /-- With one more variable only its own setting may differ, unless a list gives way to it. -/
  another_variable : ∀ (named : Setting) (name value : String) (others : Settings),
    named.IsNamedBy name → load line files (assigned ++ [(name, value)]) = .ok others →
      others.connections = settings.connections ∧
        ∀ setting ≠ named, (setting.place.sectionName = named.place.sectionName →
          ¬ ListsSection file setting.place.sectionName) →
            setting.of others = setting.of settings
  /-- With another file the settings stay of which it says the same. -/
  another_file : ∀ (otherFiles : TextFiles) (otherFile : Layer) (others : Settings),
    chosenLayer line.config otherFiles = .ok otherFile →
      load line otherFiles assigned = .ok others → ∀ setting : Setting,
        setting.fileValue? otherFile assigned = setting.fileValue? file assigned →
          setting.of others = setting.of settings
  /-- Another command line for the same file loads too, and the settings stay of which it says the
  same. -/
  another_line : ∀ otherLine : CommandLine, otherLine.config = line.config →
    ∃ others, load otherLine files assigned = .ok others ∧
      others.connections = settings.connections ∧
        ∀ setting : Setting, setting.given? otherLine = setting.given? line →
          setting.of others = setting.of settings

theorem resolve_of_load (hnames : NameSettings assigned)
    (hfile : chosenLayer line.config files = .ok file)
    (hload : load line files assigned = .ok settings) (setting : Setting) :
    setting.resolve line file assigned = .ok (setting.of settings) := by
  obtain ⟨_, hchosen, under, hunder, rfl⟩ := load_eq_ok_iff.mp hload
  obtain rfl := Except.ok.inj (hchosen.symm.trans hfile)
  rw [of_over]
  cases hgiven : setting.given? line with
  | some value => rw [Setting.resolve, hgiven, Option.getD_some]
  | none => exact resolve_of_given?_eq_none hnames hunder hgiven

theorem connections_of_load (hnames : NameSettings assigned)
    (hfile : chosenLayer line.config files = .ok file)
    (hload : load line files assigned = .ok settings) :
    connectionsOf file = .ok settings.connections := by
  obtain ⟨_, hchosen, under, hunder, rfl⟩ := load_eq_ok_iff.mp hload
  obtain rfl := Except.ok.inj (hchosen.symm.trans hfile)
  have hconnections := (toSettings_eq_ok (isTable_wholeTree _ _) hunder).connections
  rw [member?_connections hnames] at hconnections
  exact hconnections

theorem NameSettings.append_variable {named : Setting} {name value : String}
    (hnames : NameSettings assigned) (hname : named.IsNamedBy name) :
    NameSettings (assigned ++ [(name, value)]) := by
  intro entry hmem hprefix
  rcases List.mem_append.mp hmem with hmem | hmem
  · exact hnames entry hmem hprefix
  · rw [List.mem_singleton.mp hmem]
    exact ⟨named, hname⟩

/-- A variable for one setting leaves what the layers say of another one. -/
theorem resolve_append_variable {named setting : Setting} {name value : String}
    (hname : named.IsNamedBy name) (hne : setting ≠ named)
    (hlist : setting.place.sectionName = named.place.sectionName →
      ¬ ListsSection file setting.place.sectionName) :
    setting.resolve line file (assigned ++ [(name, value)]) =
      setting.resolve line file assigned := by
  have hassigned : setting.assigned? (assigned ++ [(name, value)]) =
      setting.assigned? assigned := by
    rw [assigned?_concat, if_neg fun hsame => hne (isNamedBy_unique hsame hname)]
  have hfile : setting.fileValue? file (assigned ++ [(name, value)]) =
      setting.fileValue? file assigned := by
    rw [Setting.fileValue?, Setting.fileValue?]
    by_cases hsection : setting.place.sectionName = named.place.sectionName
    · -- The section is no list, so it does not matter which of them have variables.
      have hown : (Tree.ofLayers [file]).at? setting.place =
          (Tree.ofLayers [file]).named? setting.place.sectionName setting.place.key :=
        at?_eq_named? fun origin items hmember => hlist hsection ⟨origin, items, hmember⟩
      rw [Setting.below?, Setting.below?, hown, ite_self, ite_self]
    · have hnamed : NamesSection (assigned ++ [(name, value)]) setting.place.sectionName ↔
          NamesSection assigned setting.place.sectionName := by
        rw [namesSection_concat_iff]
        refine or_iff_left ?_
        rintro ⟨other, hother, hsame⟩
        rw [isNamedBy_unique hsame hname] at hother
        exact hsection hother.symm
      simp only [Setting.below?, hnamed]
  rw [Setting.resolve, Setting.resolve, hassigned, hfile]

/-- Settings are resolved key by key: each comes from the highest layer that sets that very key, and
a layer that sets a key leaves the others. -/
theorem load_resolvesByKey (hnames : NameSettings assigned)
    (hload : load line files assigned = .ok settings) :
    ∃ file, chosenLayer line.config files = .ok file ∧
      ResolvesByKey line files assigned file settings := by
  obtain ⟨file, hfile, under, hunder, hover⟩ := load_eq_ok_iff.mp hload
  have hresolve := resolve_of_load hnames hfile hload
  have hconnections := connections_of_load hnames hfile hload
  refine ⟨file, hfile, ⟨hresolve, fun hplain _ => fileValue?_of_isPlain hplain, hconnections,
    ?_, ?_, ?_⟩⟩
  · intro named name value others hname hothers
    have hmore : NameSettings (assigned ++ [(name, value)]) := hnames.append_variable hname
    refine ⟨Except.ok.inj ((connections_of_load hmore hfile hothers).symm.trans hconnections), ?_⟩
    intro setting hne hlist
    have hsame := resolve_of_load hmore hfile hothers setting
    rw [resolve_append_variable hname hne hlist, hresolve] at hsame
    exact (Except.ok.inj hsame).symm
  · intro otherFiles otherFile others hchosen hothers setting hvalue
    have hsame := resolve_of_load hnames hchosen hothers setting
    rw [Setting.resolve, hvalue, ← Setting.resolve, hresolve] at hsame
    exact (Except.ok.inj hsame).symm
  · intro otherLine hconfig
    refine ⟨otherLine.over under,
      load_eq_ok_iff.mpr ⟨file, hconfig ▸ hfile, under, hunder, rfl⟩, ?_, ?_⟩
    · rw [← hover]
      rfl
    · intro setting hgiven
      rw [← hover, of_over, of_over, hgiven]

/-- A host from the file, a port from the environment, a model from the command line, and the rest
built in. -/
theorem load_resolvesByKey_four_layers :
    let line := { CommandLine.empty with model := some "local" }
    let files : TextFiles := [("config.toml", "[web]\nhost = \"0.0.0.0\"\n")]
    let assigned : Variables := [("PATH", "/bin"), ("NL2SQL__WEB__PORT", "8080")]
    ∃ settings file, load line files assigned = .ok settings ∧ NameSettings assigned ∧
      ResolvesByKey line files assigned file settings ∧ settings.web = ⟨"0.0.0.0", 8080⟩ ∧
      settings.model.model = "local" ∧ settings.database = Settings.initial.database := by
  intro line files assigned
  have hnames : NameSettings assigned := by
    intro entry hmem hprefix
    rcases List.mem_cons.mp hmem with rfl | hmem
    · exact absurd hprefix (by decide)
    · rw [List.mem_singleton.mp hmem]
      exact ⟨.port, by decide⟩
  have hcheck : (load line files assigned).toOption.any (fun settings =>
      settings.web = ⟨"0.0.0.0", 8080⟩ ∧ settings.model.model = "local" ∧
        settings.database = Settings.initial.database) = true := by
    decide +kernel
  obtain ⟨settings, hsettings, hvalues⟩ := Option.any_eq_true _ _ |>.mp hcheck
  have hload := toOption_eq_some_iff.mp hsettings
  obtain ⟨file, -, hresolves⟩ := load_resolvesByKey hnames hload
  exact ⟨settings, file, hload, hnames, hresolves, of_decide_eq_true hvalues⟩

/-- Not every key is left alone: variables for other keys take away what a list gives. -/
theorem listed_key_lost :
    let files : TextFiles :=
      [("config.toml", "llm = [\"ollama\", \"m\", \"key\", \"url\", 10, 0.5, 3]\n")]
    let assigned : Variables :=
      [("NL2SQL__LLM__BACKEND", "openai"), ("NL2SQL__LLM__MODEL", "n"),
        ("NL2SQL__LLM__MAX_TOKENS", "20"), ("NL2SQL__LLM__TEMPERATURE", "1"),
        ("NL2SQL__LLM__TIMEOUT_SECS", "4")]
    ∃ settings others, load .empty files [] = .ok settings ∧
      load .empty files assigned = .ok others ∧ NameSettings assigned ∧
      Setting.apiKey.assigned? assigned = none ∧ settings.model.apiKey = some "key" ∧
      others.model.apiKey = none := by
  intro files assigned
  have hlisted : (load .empty files []).toOption.any (fun settings =>
      settings.model.apiKey = some "key") = true := by
    decide +kernel
  have hlost : (load .empty files assigned).toOption.any (fun settings =>
      settings.model.apiKey = none) = true := by
    decide +kernel
  obtain ⟨settings, hsettings, hkey⟩ := Option.any_eq_true _ _ |>.mp hlisted
  obtain ⟨others, hothers, hnone⟩ := Option.any_eq_true _ _ |>.mp hlost
  have hnames : NameSettings assigned := by
    have hall : ∀ entry ∈ assigned, ∃ setting ∈ Setting.all, setting.IsNamedBy entry.1 := by
      decide
    intro entry hmem _
    obtain ⟨setting, -, hname⟩ := hall entry hmem
    exact ⟨setting, hname⟩
  exact ⟨settings, others, toOption_eq_some_iff.mp hsettings, toOption_eq_some_iff.mp hothers,
    hnames, rfl, of_decide_eq_true hkey, of_decide_eq_true hnone⟩

end Loading

end QueryWarden.Configuration
