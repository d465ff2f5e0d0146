import QueryWarden.Proofs.Text.Readers
import QueryWarden.Proofs.Text.Splitting
import QueryWarden.Proofs.Text.Trimming
import QueryWarden.Schema.Relevance

/-!
# What a question keeps of a schema

Narrowing a schema keeps the first of the relevant tables, or the first of all tables if none is
relevant. Doing so twice is the same as doing it once, the case of letters plays no role, and a
question with more words keeps what it kept before as long as nothing is cut off.
-/

namespace QueryWarden.Schema

open QueryWarden.Text

/-! ## Relevance -/

/-- In upper case, the name contains a keyword of the question or is contained in one. -/
def SharesWord (question name : String) : Prop :=
  ∃ word ∈ keywords question,
    word.toList <:+: uppercase name.toList ∨ uppercase name.toList <:+: word.toList

/-- The name of the table or of one of its columns shares a word with the question. -/
def Table.IsRelevantTo (table : Table) (question : String) : Prop :=
  SharesWord question table.name ∨ ∃ column ∈ table.columns, SharesWord question column.name

theorem overlaps_iff (question name : String) :
    overlaps (keywordTexts question.toList) name = true ↔ SharesWord question name := by
  simp only [overlaps, SharesWord, keywords, List.any_eq_true, List.mem_map,
    exists_exists_and_eq_and, String.toList_ofList, Bool.or_eq_true, hasInfix_iff]

theorem Table.isRelevant_iff (table : Table) (question : String) :
    table.isRelevant (keywordTexts question.toList) = true ↔ table.IsRelevantTo question := by
  simp only [isRelevant, IsRelevantTo, Bool.or_eq_true, List.any_eq_true, overlaps_iff]

instance (table : Table) (question : String) : Decidable (table.IsRelevantTo question) :=
  decidable_of_iff _ (table.isRelevant_iff question)

/-- The relevant tables in their order. -/
def Snapshot.relevantTables (snapshot : Snapshot) (question : String) : List Table :=
  snapshot.tables.filter fun table => table.IsRelevantTo question

namespace Snapshot

variable (snapshot : Snapshot) (question : String)

theorem filter_isRelevant :
    snapshot.tables.filter (Table.isRelevant (keywordTexts question.toList)) =
      snapshot.relevantTables question := by
  refine List.filter_congr fun table _ => ?_
  rw [Bool.eq_iff_iff, table.isRelevant_iff, decide_eq_true_iff]

theorem relevantTables_eq_nil_iff : snapshot.relevantTables question = [] ↔
    ∀ table ∈ snapshot.tables, ¬ table.IsRelevantTo question := by
  simp [relevantTables]

/-- Narrowing as a choice between the first of the relevant tables and the first of all. -/
theorem tables_relevantTo : (snapshot.relevantTo question).tables =
    if snapshot.relevantTables question = [] then snapshot.tables.take 20
    else (snapshot.relevantTables question).take 40 := by
  rw [relevantTo, filter_isRelevant]
  cases snapshot.relevantTables question <;> rfl

theorem tables_relevantTo_of_none (hnone : snapshot.relevantTables question = []) :
    (snapshot.relevantTo question).tables = snapshot.tables.take 20 := by
  rw [tables_relevantTo, if_pos hnone]

theorem tables_relevantTo_of_some (hsome : snapshot.relevantTables question ≠ []) :
    (snapshot.relevantTo question).tables = (snapshot.relevantTables question).take 40 := by
  rw [tables_relevantTo, if_neg hsome]

theorem relevantTo_sublist :
    (snapshot.relevantTo question).tables.Sublist snapshot.tables := by
  rw [tables_relevantTo]
  split
  next => exact List.take_sublist 20 snapshot.tables
  next => exact (List.take_sublist 40 _).trans List.filter_sublist

theorem length_relevantTo_le : (snapshot.relevantTo question).tables.length ≤ 40 := by
  rw [tables_relevantTo]
  split
  next => exact (List.length_take_le 20 _).trans (by decide)
  next => exact List.length_take_le 40 _

theorem relevantTo_eq_nil_iff :
    (snapshot.relevantTo question).tables = [] ↔ snapshot.tables = [] := by
  constructor
  · intro hnil
    by_cases hnone : snapshot.relevantTables question = []
    · rw [tables_relevantTo_of_none _ _ hnone, List.take_eq_nil_iff] at hnil
      exact hnil.resolve_left (by decide)
    · rw [tables_relevantTo_of_some _ _ hnone, List.take_eq_nil_iff] at hnil
      exact absurd (hnil.resolve_left (by decide)) hnone
  · intro hnil
    exact List.sublist_nil.mp (hnil ▸ snapshot.relevantTo_sublist question)

/-- The tables kept for their relevance are relevant again, and those kept without any are not. -/
theorem tables_relevantTo_again : ((snapshot.relevantTo question).relevantTo question).tables =
    (snapshot.relevantTo question).tables := by
  by_cases hnone : snapshot.relevantTables question = []
  · have hkept := snapshot.tables_relevantTo_of_none question hnone
    have hagain : (snapshot.relevantTo question).relevantTables question = [] := by
      rw [relevantTables_eq_nil_iff] at hnone ⊢
      intro table htable
      exact hnone table ((snapshot.relevantTo_sublist question).subset htable)
    rw [tables_relevantTo_of_none _ _ hagain, hkept, List.take_take, Nat.min_self]
  · have hkept := snapshot.tables_relevantTo_of_some question hnone
    have hagain : (snapshot.relevantTo question).relevantTables question =
        (snapshot.relevantTo question).tables := by
      rw [relevantTables, List.filter_eq_self, hkept]
      exact fun table htable => (List.mem_filter.mp (List.mem_of_mem_take htable)).2
    have hsome : (snapshot.relevantTo question).relevantTables question ≠ [] := by
      rw [hagain, hkept, Ne, List.take_eq_nil_iff, not_or]
      exact ⟨by decide, hnone⟩
    rw [tables_relevantTo_of_some _ _ hsome, hagain, hkept, List.take_take, Nat.min_self]

end Snapshot

/-! ## The case of letters -/

theorem uppercaseChar_toLower (c : Char) : uppercaseChar c.toLower = uppercaseChar c := by
  cases hupper : c.isUpper with
  | false => rw [toLower_of_not_isUpper hupper]
  | true =>
      have hbounds := (isUpper_iff c).mp hupper
      have hlower := toNat_toLower hupper
      rw [uppercaseChar, uppercaseChar, if_pos (by omega), if_pos (by omega),
        Char.toUpper_toLower_eq_toUpper]

theorem uppercase_asciiLower (text : List Char) : uppercase (asciiLower text) = uppercase text := by
  rw [uppercase, uppercase, asciiLower, List.flatMap_map]
  simp only [uppercaseChar_toLower]

/-- No delimiter is a letter. -/
theorem isDelimiter_toLower (c : Char) : isDelimiter c.toLower = isDelimiter c := by
  have hmem : ∀ marks : List Char, marks.all (fun d => !d.isAlpha) = true →
      marks.contains c.toLower = marks.contains c := by
    intro marks hall
    have hmark : ∀ d ∈ marks, d.isAlpha = false := fun d hd => by
      simpa using List.all_eq_true.mp hall d hd
    rw [Bool.eq_iff_iff, List.contains_iff_mem, List.contains_iff_mem]
    constructor
    · intro hlower
      rwa [(toLower_eq_iff (hmark _ hlower)).mp rfl]
    · intro hc
      rwa [(toLower_eq_iff (hmark _ hc)).mpr rfl]
  rw [isDelimiter, isDelimiter, isBlank_toLower, hmem _ (by decide)]

theorem keywordTexts_asciiLower (question : List Char) :
    keywordTexts (asciiLower question) = keywordTexts question := by
  have hword : uppercase ∘ List.map Char.toLower = uppercase := funext uppercase_asciiLower
  have hlength : (fun word : List Char => decide (2 < word.length)) ∘ List.map Char.toLower =
      fun word => decide (2 < word.length) := by
    funext word
    simp
  rw [keywordTexts, keywordTexts, asciiLower, splitWhere_map isDelimiter_toLower, List.filter_map,
    List.map_map, hword, hlength]

/-- The texts differ in the case of ASCII letters at most. -/
def SameLetters (text other : String) : Prop :=
  asciiLower text.toList = asciiLower other.toList

/-- The names of the tables, and in order those of their columns, differ in the case of ASCII
letters at most. -/
structure Table.SameNames (table other : Table) : Prop where
  name : SameLetters table.name other.name
  columns : List.Forall₂ (fun column another : Column => SameLetters column.name another.name)
    table.columns other.columns

section SameLetters

variable {question another : String}

theorem SameLetters.keywords_eq (hquestion : SameLetters question another) :
    keywords question = keywords another := by
  rw [keywords, keywords, ← keywordTexts_asciiLower question.toList, hquestion,
    keywordTexts_asciiLower]

theorem SameLetters.uppercase_eq {name other : String} (hname : SameLetters name other) :
    uppercase name.toList = uppercase other.toList := by
  rw [← uppercase_asciiLower, hname, uppercase_asciiLower]

theorem sharesWord_congr (hquestion : SameLetters question another) {name other : String}
    (hname : SameLetters name other) : SharesWord question name ↔ SharesWord another other := by
  rw [SharesWord, SharesWord, hquestion.keywords_eq, hname.uppercase_eq]

theorem Table.SameNames.isRelevantTo_iff {table other : Table} (hsame : table.SameNames other)
    (hquestion : SameLetters question another) :
    table.IsRelevantTo question ↔ other.IsRelevantTo another := by
  have hcolumns : ∀ {columns others : List Column},
      List.Forall₂ (fun column another : Column => SameLetters column.name another.name) columns
        others → ((∃ column ∈ columns, SharesWord question column.name) ↔
          ∃ column ∈ others, SharesWord another column.name) := by
    intro columns others hnames
    induction hnames with
    | nil => simp
    | cons hname _ ih => simp only [List.exists_mem_cons_iff, ih, sharesWord_congr hquestion hname]
  rw [IsRelevantTo, IsRelevantTo, hcolumns hsame.columns, sharesWord_congr hquestion hsame.name]

end SameLetters

/-! ### Positions -/

theorem map_findIdxs {α : Type} (keep : α → Bool) (before items : List α) :
    (items.findIdxs keep before.length).map (fun index => (before ++ items)[index]?) =
      (items.filter keep).map some := by
  induction items generalizing before with
  | nil => rfl
  | cons item items ih =>
      have hrest := ih (before ++ [item])
      simp only [List.append_assoc, List.singleton_append, List.length_append,
        List.length_singleton] at hrest
      rw [List.findIdxs_cons, List.filter_cons]
      split <;> simp [hrest]

theorem findIdxs_congr {α : Type} {keep : α → Bool} {items others : List α} {keepOther : α → Bool}
    (hsame : List.Forall₂ (fun item other => keep item = keepOther other) items others)
    (start : Nat) : items.findIdxs keep start = others.findIdxs keepOther start := by
  induction hsame generalizing start with
  | nil => rfl
  | cons hitem _ ih => rw [List.findIdxs_cons, List.findIdxs_cons, hitem, ih]

/-- The positions of the tables that are kept. -/
def Snapshot.keptPositions (snapshot : Snapshot) (question : String) : List Nat :=
  let relevant := snapshot.tables.findIdxs fun table => table.IsRelevantTo question
  if relevant = [] then (List.range snapshot.tables.length).take 20 else relevant.take 40

namespace Snapshot

theorem map_keptPositions (snapshot : Snapshot) (question : String) :
    (snapshot.keptPositions question).map (fun index => snapshot.tables[index]?) =
      (snapshot.relevantTo question).tables.map some := by
  have hrelevant := map_findIdxs (fun table => decide (table.IsRelevantTo question)) []
    snapshot.tables
  have hall : (List.range snapshot.tables.length).map (fun index => snapshot.tables[index]?) =
      snapshot.tables.map some := by
    refine List.ext_getElem (by simp) fun index _ _ => ?_
    simp
  have hnone : (snapshot.tables.findIdxs fun table => table.IsRelevantTo question) = [] ↔
      snapshot.relevantTables question = [] := by
    simp [relevantTables_eq_nil_iff, List.findIdxs_eq_nil_iff]
  simp only [keptPositions, tables_relevantTo, hnone]
  split
  next => rw [List.map_take, List.map_take, hall]
  next => rw [List.map_take, List.map_take, relevantTables, ← hrelevant]; rfl

theorem pairwise_keptPositions (snapshot : Snapshot) (question : String) :
    (snapshot.keptPositions question).Pairwise (· < ·) := by
  simp only [keptPositions]
  split
  next => exact List.pairwise_lt_range.sublist (List.take_sublist 20 _)
  next => exact List.pairwise_findIdxs.sublist (List.take_sublist 40 _)

/-- The tables at the same positions are kept when the case of letters is changed. -/
theorem keptPositions_congr {snapshot other : Snapshot} {question another : String}
    (htables : List.Forall₂ Table.SameNames snapshot.tables other.tables)
    (hquestion : SameLetters question another) :
    snapshot.keptPositions question = other.keptPositions another := by
  have hrelevant : (snapshot.tables.findIdxs fun table => table.IsRelevantTo question) =
      other.tables.findIdxs fun table => table.IsRelevantTo another := by
    refine findIdxs_congr (htables.imp fun table renamed hsame => ?_) 0
    exact decide_eq_decide.mpr (hsame.isRelevantTo_iff hquestion)
  rw [keptPositions, keptPositions, hrelevant, htables.length_eq]

end Snapshot

/-! ## Narrowing -/

/-- What narrowing a schema to a question promises. -/
structure Snapshot.Narrows (snapshot : Snapshot) (question : String) : Prop where
  relevant : (∃ table ∈ snapshot.tables, table.IsRelevantTo question) →
    (snapshot.relevantTo question).tables =
      (snapshot.tables.filter fun table => table.IsRelevantTo question).take 40
  fallback : (¬ ∃ table ∈ snapshot.tables, table.IsRelevantTo question) →
    (snapshot.relevantTo question).tables = snapshot.tables.take 20
  sublist : (snapshot.relevantTo question).tables.Sublist snapshot.tables
  eq_nil_iff : (snapshot.relevantTo question).tables = [] ↔ snapshot.tables = []
  length_le : (snapshot.relevantTo question).tables.length ≤ 40
  again : (snapshot.relevantTo question).relevantTo question = snapshot.relevantTo question
  anyCase : ∃ positions : List Nat, positions.Pairwise (· < ·) ∧
    ∀ (other : Snapshot) (another : String),
      List.Forall₂ Table.SameNames snapshot.tables other.tables → SameLetters question another →
        positions.map (fun index => other.tables[index]?) =
          (other.relevantTo another).tables.map some

theorem Snapshot.narrows (snapshot : Snapshot) (question : String) :
    snapshot.Narrows question := by
  have hnone : (¬ ∃ table ∈ snapshot.tables, table.IsRelevantTo question) ↔
      snapshot.relevantTables question = [] := by
    rw [relevantTables_eq_nil_iff]
    simp only [not_exists, not_and]
  exact {
    relevant := fun hsome => snapshot.tables_relevantTo_of_some question
      fun hnil => hnone.mpr hnil hsome
    fallback := fun hmissing => snapshot.tables_relevantTo_of_none question (hnone.mp hmissing)
    sublist := snapshot.relevantTo_sublist question
    eq_nil_iff := snapshot.relevantTo_eq_nil_iff question
    length_le := snapshot.length_relevantTo_le question
    again := congrArg Snapshot.mk (snapshot.tables_relevantTo_again question)
    anyCase := by
      refine ⟨snapshot.keptPositions question, snapshot.pairwise_keptPositions question, ?_⟩
      intro other another htables hquestion
      rw [keptPositions_congr htables hquestion]
      exact other.map_keptPositions another }

/-! ## More words -/

theorem keywords_append {mark : Char} (hmark : isDelimiter mark = true) (question more : String) :
    keywords (question ++ String.singleton mark ++ more) = keywords question ++ keywords more := by
  have htext : (question ++ String.singleton mark ++ more).toList =
      question.toList ++ mark :: more.toList := by simp
  rw [keywords, keywords, keywords, keywordTexts, htext, splitWhere_append hmark,
    List.filter_append, List.map_append, List.map_append]
  rfl

theorem SharesWord.mono {question another name : String}
    (hwords : keywords question ⊆ keywords another) (hshares : SharesWord question name) :
    SharesWord another name := by
  obtain ⟨word, hword, hoverlaps⟩ := hshares
  exact ⟨word, hwords hword, hoverlaps⟩

theorem Table.IsRelevantTo.mono {table : Table} {question another : String}
    (hwords : keywords question ⊆ keywords another) (hrelevant : table.IsRelevantTo question) :
    table.IsRelevantTo another := by
  rcases hrelevant with hname | ⟨column, hcolumn, hname⟩
  · exact .inl (hname.mono hwords)
  · exact .inr ⟨column, hcolumn, hname.mono hwords⟩

/-- A question with more words keeps what was kept for its relevance, as long as nothing is cut
off. -/
theorem Snapshot.relevantTo_mono {snapshot : Snapshot} {question another : String}
    (hwords : keywords question ⊆ keywords another)
    (hsome : snapshot.relevantTables question ≠ [])
    (hfew : (snapshot.relevantTables another).length ≤ 40) :
    (snapshot.relevantTo question).tables.Sublist (snapshot.relevantTo another).tables := by
  have hsub : (snapshot.relevantTables question).Sublist (snapshot.relevantTables another) := by
    refine List.monotone_filter_right _ fun table hrelevant => ?_
    exact decide_eq_true ((of_decide_eq_true hrelevant).mono hwords)
  have hsome' : snapshot.relevantTables another ≠ [] :=
    fun hnil => hsome (List.sublist_nil.mp (hnil ▸ hsub))
  rw [tables_relevantTo_of_some _ _ hsome, tables_relevantTo_of_some _ _ hsome',
    List.take_of_length_le hfew]
  exact (List.take_sublist 40 _).trans hsub

/-- The keywords of a question and those of what is added behind a delimiter come one after the
other, so that every table found for the question alone is still found, as long as no more than
forty are. -/
theorem keywords_delimited {mark : Char}
    (hmark : isBlank mark = true ∨
      mark ∈ [',', '.', '?', '!', '(', ')', '[', ']', '\x7b', '\x7d'])
    (question more : String) :
    keywords (question ++ String.singleton mark ++ more) = keywords question ++ keywords more ∧
      ∀ snapshot : Snapshot, (∃ table ∈ snapshot.tables, table.IsRelevantTo question) →
        (snapshot.tables.filter fun table =>
          table.IsRelevantTo (question ++ String.singleton mark ++ more)).length ≤ 40 →
        (snapshot.relevantTo question).tables.Sublist
          (snapshot.relevantTo (question ++ String.singleton mark ++ more)).tables := by
  have hdelimiter : isDelimiter mark = true := by
    rw [isDelimiter, Bool.or_eq_true, List.contains_iff_mem]
    exact hmark
  have hkeywords := keywords_append hdelimiter question more
  refine ⟨hkeywords, fun snapshot hsome hfew => ?_⟩
  refine Snapshot.relevantTo_mono (hkeywords ▸ List.subset_append_left _ _) ?_ hfew
  obtain ⟨table, htable, hrelevant⟩ := hsome
  exact fun hnil => (snapshot.relevantTables_eq_nil_iff question).mp hnil table htable hrelevant

/-- A word added behind a comma finds another table and does not lose the first. -/
theorem keywords_delimited_comma :
    let schema : Snapshot := ⟨[.bare "dbo" "Log", .bare "dbo" "SALES_2024", .bare "geo" "City"]⟩
    (∃ table ∈ schema.tables, table.IsRelevantTo "monthly sales") ∧
      (schema.tables.filter fun table =>
        table.IsRelevantTo ("monthly sales" ++ String.singleton ',' ++ "by city?")).length ≤ 40 ∧
      keywords ("monthly sales" ++ String.singleton ',' ++ "by city?") =
        keywords "monthly sales" ++ keywords "by city?" ∧
      (schema.relevantTo "monthly sales").tables.Sublist
        (schema.relevantTo ("monthly sales" ++ String.singleton ',' ++ "by city?")).tables := by
  intro schema
  have hsome : ∃ table ∈ schema.tables, table.IsRelevantTo "monthly sales" := by decide +kernel
  have hfew : (schema.tables.filter fun table =>
      table.IsRelevantTo ("monthly sales" ++ String.singleton ',' ++ "by city?")).length ≤ 40 := by
    decide +kernel
  have hkept := keywords_delimited (.inr (by decide : ',' ∈ _)) "monthly sales" "by city?"
  exact ⟨hsome, hfew, hkept.1, hkept.2 schema hsome hfew⟩

end QueryWarden.Schema
