import QueryWarden.Proofs.Sql.Constructs

/-!
# Calls of banned functions

When the pattern ban sees the call of a function that reaches files or other servers. It looks for
the name as a whole word with an opening parenthesis behind it. A name that stands as a quoted
identifier is the same function to a reader of the dialect, but its closing quote keeps the
parenthesis away from the name, and such a call is never what the ban finds.
-/

namespace QueryWarden.Sql

open QueryWarden.Text

/-! ## Names and calls -/

/-- The functions that the ban knows by their full names. -/
def bannedFunctions : List (List Char) :=
  ["read_csv".toList, "read_csv_auto".toList, "read_parquet".toList, "read_json".toList,
   "read_json_auto".toList, "read_ndjson".toList, "read_ndjson_auto".toList, "read_text".toList,
   "read_blob".toList, "glob".toList, "parquet_scan".toList, "sniff_csv".toList]

/-- The name of the function that queries another server, or one that goes on in word characters
from there. -/
def IsLinkName (name : List Char) : Prop :=
  ∃ stem ending, name = stem ++ ending ∧ stem.map simpleFold = "dblink".toList ∧
    ∀ c ∈ ending, isWordChar c = true

/-- The name of a banned function, in any case. -/
def IsBannedName (name : List Char) : Prop :=
  name.map simpleFold ∈ bannedFunctions ∨ IsLinkName name

/-- A name stands in the text as a whole word, with blanks and an opening parenthesis behind it. -/
def HasCall (isName : List Char → Prop) (sql : List Char) : Prop :=
  ∃ front name gap back, sql = front ++ name ++ gap ++ '(' :: back ∧ isName name ∧
    (∀ c ∈ front.getLast?, isWordChar c = false) ∧ ∀ c ∈ gap, isBlank c = true

/-- A name stands in the text as a quoted identifier, with blanks and an opening parenthesis behind
it. -/
def HasQuotedCall (isName : List Char → Prop) (sql : List Char) : Prop :=
  ∃ front name gap back, sql = front ++ '"' :: name ++ '"' :: gap ++ '(' :: back ∧ isName name ∧
    ∀ c ∈ gap, isBlank c = true

/-! ## What is read of a call -/

theorem dropOpening_eq_some_iff (text rest : List Char) :
    dropOpening text = some rest ↔
      ∃ gap, text = gap ++ '(' :: rest ∧ ∀ c ∈ gap, isBlank c = true := by
  rw [dropOpening, dropChar_eq_some_iff]
  constructor
  · intro hdrop
    refine ⟨text.takeWhile isBlank, ?_, fun c hc => List.mem_takeWhile_imp hc⟩
    rw [← hdrop]
    exact List.takeWhile_append_dropWhile.symm
  · rintro ⟨gap, rfl, hgap⟩
    exact dropWhile_append_of_forall hgap (by decide) rest

theorem isSome_dropOpening_iff (text : List Char) :
    (dropOpening text).isSome = true ↔
      ∃ gap rest, text = gap ++ '(' :: rest ∧ ∀ c ∈ gap, isBlank c = true := by
  simp only [Option.isSome_iff_exists, dropOpening_eq_some_iff]
  exact exists_comm

theorem isSome_readCall_iff {names : List (List Char)}
    (hnames : ∀ name ∈ names, IsPlainWord name) (text : List Char) :
    (readCall names text).isSome = true ↔
      ∃ name gap rest, text = name ++ gap ++ '(' :: rest ∧ name.map simpleFold ∈ names ∧
        ∀ c ∈ gap, isBlank c = true := by
  rw [readCall, List.findSome?_isSome_iff]
  constructor
  · rintro ⟨word, hmem, hread⟩
    obtain ⟨rest, hread⟩ := Option.isSome_iff_exists.mp hread
    obtain ⟨afterName, hword, hopening⟩ := Option.bind_eq_some_iff.mp hread
    obtain ⟨name, rfl, hname⟩ := (dropWord_eq_some_iff (hnames word hmem).ascii _ _).mp hword
    obtain ⟨gap, rfl, hgap⟩ := (dropOpening_eq_some_iff _ _).mp hopening
    exact ⟨name, gap, rest, (List.append_assoc ..).symm, hname ▸ hmem, hgap⟩
  · rintro ⟨name, gap, rest, rfl, hmem, hgap⟩
    refine ⟨name.map simpleFold, hmem, Option.isSome_iff_exists.mpr ⟨rest, ?_⟩⟩
    have hword := (dropWord_eq_some_iff (hnames _ hmem).ascii (name ++ gap ++ '(' :: rest)
      (gap ++ '(' :: rest)).mpr ⟨name, List.append_assoc .., rfl⟩
    rw [hword]
    exact (dropOpening_eq_some_iff _ _).mpr ⟨gap, rfl, hgap⟩

theorem isSome_readStemCall_iff (text : List Char) :
    (readStemCall "dblink".toList text).isSome = true ↔
      ∃ name gap rest, text = name ++ gap ++ '(' :: rest ∧ IsLinkName name ∧
        ∀ c ∈ gap, isBlank c = true := by
  have hstem : IsPlainWord "dblink".toList := by decide
  constructor
  · intro hread
    obtain ⟨rest, hread⟩ := Option.isSome_iff_exists.mp hread
    obtain ⟨afterStem, hword, hopening⟩ := Option.bind_eq_some_iff.mp hread
    obtain ⟨stem, rfl, hfold⟩ := (dropWord_eq_some_iff hstem.ascii _ _).mp hword
    obtain ⟨gap, hgap, hblank⟩ := (dropOpening_eq_some_iff _ _).mp hopening
    refine ⟨stem ++ afterStem.takeWhile isWordChar, gap, rest, ?_, ⟨_, _, rfl, hfold, ?_⟩, hblank⟩
    · rw [List.append_assoc, ← hgap, List.append_assoc, List.takeWhile_append_dropWhile]
    · exact fun c hc => List.mem_takeWhile_imp hc
  · rintro ⟨_, gap, rest, rfl, ⟨stem, ending, rfl, hfold, hending⟩, hgap⟩
    have hword := (dropWord_eq_some_iff hstem.ascii (stem ++ ending ++ gap ++ '(' :: rest)
      (ending ++ (gap ++ '(' :: rest))).mpr ⟨stem, by simp, hfold⟩
    -- What is left of the word ends where the blanks or the parenthesis begin.
    have hskip : (ending ++ (gap ++ '(' :: rest)).dropWhile isWordChar = gap ++ '(' :: rest := by
      rw [List.dropWhile_append_of_pos hending]
      cases gap with
      | nil => exact List.dropWhile_cons_of_neg (by decide)
      | cons c gap =>
          refine List.dropWhile_cons_of_neg ?_
          rw [isWordChar_of_isBlank (hgap c List.mem_cons_self)]
          exact Bool.false_ne_true
    simp only [readStemCall, hword, Option.bind_some, skipWord, hskip]
    exact (isSome_dropOpening_iff _).mpr ⟨gap, rest, rfl, hgap⟩

/-- A reader that takes the call of a name off the front finds the calls in a text. -/
theorem wordStarting_occursIn_iff_hasCall {read : Reader} {isName : List Char → Prop}
    (hread : ∀ text, (read text).isSome = true ↔
      ∃ name gap rest, text = name ++ gap ++ '(' :: rest ∧ isName name ∧
        ∀ c ∈ gap, isBlank c = true) (sql : List Char) :
    (wordStarting read).occursIn sql = true ↔ HasCall isName sql := by
  simp only [wordStarting_occursIn_iff, hread]
  constructor
  · rintro ⟨front, _, rfl, hstart, name, gap, rest, rfl, hname, hgap⟩
    exact ⟨front, name, gap, rest, by simp, hname, hstart, hgap⟩
  · rintro ⟨front, name, gap, rest, rfl, hname, hstart, hgap⟩
    exact ⟨front, _, by rw [List.append_assoc, List.append_assoc], hstart, name, gap, rest,
      by simp, hname, hgap⟩

/-! ## The ban's own list -/

/-- The constructs of the ban that are calls of functions given by name. -/
def callConstructs : List (Pattern Unit) := (dangerousConstructs.drop 13).take 3

/-- The other constructs of the ban. -/
def otherConstructs : List (Pattern Unit) :=
  dangerousConstructs.take 13 ++ dangerousConstructs.drop 16

theorem isPlainWord_of_mem_bannedFunctions :
    ∀ name ∈ bannedFunctions, IsPlainWord name := by
  decide

theorem callConstructs_eq :
    callConstructs = [wordStarting (readStemCall "dblink".toList),
      wordStarting (readCall (bannedFunctions.take 9)),
      wordStarting (readCall (bannedFunctions.drop 9))] := by
  have hread : bannedFunctions.take 9 = ["csv".toList, "csv_auto".toList, "parquet".toList,
      "json".toList, "json_auto".toList, "ndjson".toList, "ndjson_auto".toList, "text".toList,
      "blob".toList].map ("read_".toList ++ ·) := by decide
  have hscan : bannedFunctions.drop 9 =
      ["glob".toList, "parquet_scan".toList, "sniff_csv".toList].map ([] ++ ·) := by decide
  rw [hread, hscan, ← callAmong_eq, ← callAmong_eq, ← callWithStem_eq]
  rfl

theorem hasCall_or_iff (isName isOther : List Char → Prop) (sql : List Char) :
    HasCall (fun name => isName name ∨ isOther name) sql ↔
      HasCall isName sql ∨ HasCall isOther sql := by
  constructor
  · rintro ⟨front, name, gap, back, hsql, hname | hname, hrest⟩
    · exact .inl ⟨front, name, gap, back, hsql, hname, hrest⟩
    · exact .inr ⟨front, name, gap, back, hsql, hname, hrest⟩
  · rintro (⟨front, name, gap, back, hsql, hname, hrest⟩ | ⟨front, name, gap, back, hsql, hname, hrest⟩)
    · exact ⟨front, name, gap, back, hsql, .inl hname, hrest⟩
    · exact ⟨front, name, gap, back, hsql, .inr hname, hrest⟩

/-- The patterns of calls find the calls of banned functions and nothing else. -/
theorem exists_callConstruct_iff (sql : List Char) :
    (∃ construct ∈ callConstructs, construct.occursIn sql = true) ↔ HasCall IsBannedName sql := by
  have hname : IsBannedName = fun name => IsLinkName name ∨
      name.map simpleFold ∈ bannedFunctions.take 9 ∨
        name.map simpleFold ∈ bannedFunctions.drop 9 := by
    funext name
    rw [IsBannedName, or_comm, ← List.mem_append, List.take_append_drop]
  have hread : ∀ name ∈ bannedFunctions.take 9, IsPlainWord name :=
    fun name hmem => isPlainWord_of_mem_bannedFunctions name (List.mem_of_mem_take hmem)
  have hscan : ∀ name ∈ bannedFunctions.drop 9, IsPlainWord name :=
    fun name hmem => isPlainWord_of_mem_bannedFunctions name (List.mem_of_mem_drop hmem)
  rw [callConstructs_eq, hname, hasCall_or_iff, hasCall_or_iff,
    ← wordStarting_occursIn_iff_hasCall isSome_readStemCall_iff,
    ← wordStarting_occursIn_iff_hasCall (isSome_readCall_iff hread),
    ← wordStarting_occursIn_iff_hasCall (isSome_readCall_iff hscan)]
  simp only [List.mem_cons, List.not_mem_nil, or_false, exists_eq_or_imp, exists_eq_left]

/-- What the pattern ban refuses. -/
theorem isSome_patternBan_iff (sql : List Char) :
    (Rule.patternBan.check sql).isSome = true ↔
      HasCall IsBannedName sql ∨ (∃ construct ∈ otherConstructs, construct.occursIn sql = true) ∨
        intoTarget.occursIn (maskLiterals false sql) = true := by
  have htable : ∀ construct, construct ∈ dangerousConstructs ↔
      construct ∈ callConstructs ∨ construct ∈ otherConstructs := by
    intro construct
    have hparts : dangerousConstructs = dangerousConstructs.take 13 ++
        (callConstructs ++ dangerousConstructs.drop 16) := rfl
    rw [otherConstructs, List.mem_append, ← or_left_comm, ← List.mem_append, ← List.mem_append,
      ← hparts]
  rw [Rule.isSome_check_iff, ← exists_callConstruct_iff, ← or_assoc]
  simp only [Rule.IsBroken, HasDangerousConstruct, htable, or_and_right, exists_or]

/-! ## Quoted names -/

section Split

variable {isName : List Char → Prop}

/-- Behind a character that belongs to no word a word may start as at the start of a text. -/
theorem startsWord_append_cons {c : Char} (hc : isWordChar c = false) (left front : List Char) :
    (∀ d ∈ (left ++ c :: front).getLast?, isWordChar d = false) ↔
      ∀ d ∈ front.getLast?, isWordChar d = false := by
  rw [List.getLast?_append_cons, List.getLast?_cons]
  cases front.getLast? with
  | none => simp [hc]
  | some d => simp

variable (hword : ∀ name, isName name → name ≠ [] ∧ ∀ c ∈ name, isWordChar c = true)

include hword in
theorem hasCall_cons {c : Char} (hc : isWordChar c = false) (text : List Char) :
    HasCall isName (c :: text) ↔ HasCall isName text := by
  constructor
  · rintro ⟨front, name, gap, back, htext, hname, hstart, hgap⟩
    cases front with
    | nil =>
        obtain ⟨d, name, rfl⟩ := List.exists_cons_of_ne_nil (hword name hname).1
        obtain ⟨rfl, -⟩ := List.cons.inj htext
        have hd := (hword _ hname).2 c List.mem_cons_self
        exact absurd (hc.symm.trans hd) Bool.false_ne_true
    | cons e front =>
        obtain ⟨rfl, rfl⟩ := List.cons.inj htext
        exact ⟨front, name, gap, back, rfl, hname,
          (startsWord_append_cons hc [] front).mp hstart, hgap⟩
  · rintro ⟨front, name, gap, back, rfl, hname, hstart, hgap⟩
    exact ⟨c :: front, name, gap, back, rfl, hname,
      (startsWord_append_cons hc [] front).mpr hstart, hgap⟩

include hword in
/-- A quote parts a text into places where the calls stand. -/
theorem hasCall_append_quote (left right : List Char) :
    HasCall isName (left ++ '"' :: right) ↔ HasCall isName left ∨ HasCall isName right := by
  have hquote : isWordChar '"' = false := by decide
  constructor
  · rintro ⟨front, name, gap, back, htext, hname, hstart, hgap⟩
    have hclear : '"' ∉ name ++ gap ++ ['('] := by
      simp only [List.mem_append, List.mem_singleton, not_or]
      refine ⟨⟨fun hmem => ?_, fun hmem => absurd (hgap _ hmem) (by decide)⟩, by decide⟩
      exact absurd (hquote.symm.trans ((hword name hname).2 _ hmem)) Bool.false_ne_true
    have hcut : left ++ '"' :: right = front ++ ((name ++ gap ++ ['(']) ++ back) := by
      rw [htext]
      simp
    rcases List.append_eq_append_iff.mp hcut with ⟨between, rfl, hright⟩ | ⟨rest, rfl, hrest⟩
    · -- The call starts behind the quote.
      refine .inr ?_
      cases between with
      | nil =>
          obtain ⟨d, stretch, hstretch⟩ := List.exists_cons_of_ne_nil
            (show name ++ gap ++ ['('] ≠ [] by simp)
          rw [hstretch] at hclear hright
          obtain ⟨rfl, -⟩ := List.cons.inj hright
          exact absurd List.mem_cons_self hclear
      | cons d between =>
          obtain ⟨rfl, rfl⟩ := List.cons.inj hright
          exact ⟨between, name, gap, back, by simp, hname,
            (startsWord_append_cons hquote left between).mp hstart, hgap⟩
    · -- The call starts before the quote, so it ends there as well.
      refine .inl ?_
      rcases List.append_eq_append_iff.mp hrest with ⟨excess, rfl, -⟩ | ⟨excess, hexcess, hback⟩
      · exact ⟨front, name, gap, excess, by simp, hname, hstart, hgap⟩
      · cases excess with
        | nil =>
            rw [List.append_nil] at hexcess
            exact ⟨front, name, gap, [], by rw [← hexcess]; simp, hname, hstart, hgap⟩
        | cons d excess =>
            obtain ⟨rfl, -⟩ := List.cons.inj hback
            exact absurd (hexcess ▸ by simp) hclear
  · rintro (⟨front, name, gap, back, rfl, hname, hstart, hgap⟩ |
      ⟨front, name, gap, back, rfl, hname, hstart, hgap⟩)
    · exact ⟨front, name, gap, back ++ '"' :: right, by simp, hname, hstart, hgap⟩
    · exact ⟨left ++ '"' :: front, name, gap, back, by simp, hname,
        (startsWord_append_cons hquote left front).mpr hstart, hgap⟩

include hword in
theorem hasCall_gap_append {gap : List Char} (hgap : ∀ c ∈ gap, isBlank c = true)
    (text : List Char) : HasCall isName (gap ++ text) ↔ HasCall isName text := by
  induction gap with
  | nil => rfl
  | cons c gap ih =>
      obtain ⟨hc, hgap⟩ := List.forall_mem_cons.mp hgap
      rw [List.cons_append, hasCall_cons hword (isWordChar_of_isBlank hc), ih hgap]

theorem not_hasCall_of_notMem {text : List Char} (hparen : '(' ∉ text) :
    ¬ HasCall isName text := by
  rintro ⟨front, name, gap, back, rfl, -⟩
  simp at hparen

end Split

theorem IsBannedName.isWord {name : List Char} (hname : IsBannedName name) :
    name ≠ [] ∧ ∀ c ∈ name, isWordChar c = true := by
  rcases hname with hmem | ⟨stem, ending, rfl, hstem, hending⟩
  · exact (isPlainWord_of_mem_bannedFunctions _ hmem).of_fold rfl
  · have hlink : IsPlainWord "dblink".toList := by decide
    obtain ⟨hne, hstem⟩ := hlink.of_fold hstem
    refine ⟨List.append_ne_nil_of_left_ne_nil hne ending, fun c hc => ?_⟩
    exact (List.mem_append.mp hc).elim (hstem c) (hending c)

/-- Exactly when the pattern ban refuses a text, and what it makes of quoted names. Every call of a
banned function whose name stands as a whole word is refused. A call whose name stands as a quoted
identifier is none of those: the text has such calls only before the name or behind the
parenthesis. -/
theorem banned_call_refused_iff (sql : List Char) :
    ((Rule.patternBan.check sql).isSome = true ↔
      HasCall IsBannedName sql ∨ (∃ construct ∈ otherConstructs, construct.occursIn sql = true) ∨
        intoTarget.occursIn (maskLiterals false sql) = true) ∧
      ∀ front name gap back, sql = front ++ '"' :: name ++ '"' :: gap ++ '(' :: back →
        IsBannedName name → (∀ c ∈ gap, isBlank c = true) →
          (HasCall IsBannedName sql ↔ HasCall IsBannedName front ∨ HasCall IsBannedName back) := by
  refine ⟨isSome_patternBan_iff sql, ?_⟩
  rintro front name gap back rfl hname hgap
  have hword := fun name (hname : IsBannedName name) => hname.isWord
  have hparen : '(' ∉ name := by
    intro hmem
    have hletter := hname.isWord.2 _ hmem
    revert hletter
    decide
  have hsplit : front ++ '"' :: name ++ '"' :: gap ++ '(' :: back =
      front ++ '"' :: (name ++ '"' :: (gap ++ '(' :: back)) := by
    simp
  rw [hsplit, hasCall_append_quote hword, hasCall_append_quote hword, hasCall_gap_append hword hgap,
    hasCall_cons hword (by decide), or_iff_right (not_hasCall_of_notMem hparen)]

/-- No call of a banned function is seen in a text whose only one has its name quoted. -/
theorem banned_call_refused_iff_quoted :
    IsBannedName "read_csv".toList ∧
      ¬ HasCall IsBannedName "SELECT * FROM \"read_csv\"('secrets.csv')".toList := by
  have hname : IsBannedName "read_csv".toList := .inl (by decide)
  have hcalls := (banned_call_refused_iff "SELECT * FROM \"read_csv\"('secrets.csv')".toList).2
    "SELECT * FROM ".toList "read_csv".toList [] "'secrets.csv')".toList (by decide) hname (by simp)
  refine ⟨hname, ?_⟩
  rw [hcalls, not_or]
  exact ⟨not_hasCall_of_notMem (by decide), not_hasCall_of_notMem (by decide)⟩

/-- A file is read by a function whose name is quoted, and the ban lets it pass. -/
theorem quoted_call_missed :
    HasQuotedCall IsBannedName "SELECT * FROM \"read_csv\"('secrets.csv')".toList ∧
      Rule.patternBan.check "SELECT * FROM \"read_csv\"('secrets.csv')".toList = none := by
  refine ⟨⟨"SELECT * FROM ".toList, "read_csv".toList, [], "'secrets.csv')".toList, ?_, .inl ?_, ?_⟩,
    ?_⟩
  · decide
  · decide
  · simp
  · decide +kernel

end QueryWarden.Sql
