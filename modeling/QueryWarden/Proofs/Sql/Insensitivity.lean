import QueryWarden.Proofs.Sql.Constructs

/-!
# What a verdict does not depend on

A verdict depends neither on the case of ASCII letters nor on the blanks around a query, whatever
rules are checked. Each thing that a rule looks at is shown to be the same when the letters are
lowered and when one blank is put in front of the text or behind it.
-/

namespace QueryWarden.Sql

open QueryWarden.Text

/-- The text in another case of its ASCII letters, with blanks around it. -/
def IsRedressed (sql other : List Char) : Prop :=
  ∃ left inner right, other = left ++ inner ++ right ∧ (∀ c ∈ left, isBlank c = true) ∧
    (∀ c ∈ right, isBlank c = true) ∧ asciiLower inner = asciiLower sql

/-- Something that is seen of a text does not depend on case and outer blanks. -/
def IgnoresDress {α : Type} (look : List Char → α) : Prop :=
  ∀ ⦃sql other⦄, IsRedressed sql other → look other = look sql

section Steps

variable {α : Type} {look : List Char → α}

theorem ignoresDress_of_steps (lower : ∀ text, look (asciiLower text) = look text)
    (cons : ∀ {c}, isBlank c = true → ∀ text, look (c :: text) = look text)
    (concat : ∀ {c}, isBlank c = true → ∀ text, look (text ++ [c]) = look text) :
    IgnoresDress look := by
  have hleft : ∀ left text, (∀ c ∈ left, isBlank c = true) → look (left ++ text) = look text := by
    intro left text hblank
    induction left with
    | nil => rfl
    | cons c left ih =>
        obtain ⟨hc, hrest⟩ := List.forall_mem_cons.mp hblank
        rw [List.cons_append, cons hc, ih hrest]
  have hright : ∀ right text, (∀ c ∈ right, isBlank c = true) →
      look (text ++ right) = look text := by
    intro right text hblank
    induction right generalizing text with
    | nil => rw [List.append_nil]
    | cons c right ih =>
        obtain ⟨hc, hrest⟩ := List.forall_mem_cons.mp hblank
        rw [List.append_cons, ih _ hrest, concat hc]
  rintro sql _ ⟨left, inner, right, rfl, hleftBlank, hrightBlank, hcase⟩
  rw [hright right _ hrightBlank, hleft left _ hleftBlank, ← lower inner, hcase, lower]

end Steps

/-! ## Patterns -/

theorem IsSteady.ignoresDress {construct : Pattern Unit} (hsteady : IsSteady construct) :
    IgnoresDress construct.occursIn := by
  obtain ⟨read, rfl, hsolid, hread⟩ := hsteady
  refine ignoresDress_of_steps (occursIn_asciiLower (hread isUnnoticed_asciiLower)) ?_ ?_
  · intro c hc text
    rw [occursIn_cons (isWordChar_of_isBlank hc), hsolid (c :: text) (by simpa using hc)]
    rfl
  · intro c hc text
    have hnil : (wordStarting read).occursIn [] = false := occursIn_blanks hsolid (by simp)
    rw [occursIn_append (isWordChar_of_isBlank hc) (hread (isUnnoticed_concat hc)), hnil,
      Bool.or_false]

theorem quote_notMem_of_blank {text : List Char} (hblank : ∀ c ∈ text, isBlank c = true) :
    '\'' ∉ text :=
  fun hmem => absurd (hblank _ hmem) (by decide)

theorem maskLiterals_asciiLower (inside : Bool) (text : List Char) :
    maskLiterals inside (asciiLower text) = asciiLower (maskLiterals inside text) := by
  induction text generalizing inside with
  | nil => rfl
  | cons c text ih =>
      have hquote : c.toLower = '\'' ↔ c = '\'' := toLower_eq_iff (by decide)
      simp only [asciiLower, List.map_cons, maskLiterals, hquote] at ih ⊢
      split
      next hc => rw [hc, ih, List.map_cons]
      next => rw [ih]; cases inside <;> rfl

theorem isBlank_of_mem_maskLiterals {inside : Bool} {text : List Char}
    (hblank : ∀ c ∈ text, isBlank c = true) : ∀ c ∈ maskLiterals inside text, isBlank c = true := by
  induction text with
  | nil => simp [maskLiterals]
  | cons c text ih =>
      obtain ⟨hc, hrest⟩ := List.forall_mem_cons.mp hblank
      have hne : c ≠ '\'' := fun heq => quote_notMem_of_blank hblank (heq ▸ List.mem_cons_self)
      rw [maskLiterals, if_neg hne, List.forall_mem_cons]
      refine ⟨?_, ih hrest⟩
      cases inside with
      | false => exact hc
      | true => rfl

/-- Blanking literals out keeps case and outer blanks what they are. -/
theorem IsRedressed.maskLiterals {sql other : List Char} (hdress : IsRedressed sql other) :
    IsRedressed (maskLiterals false sql) (maskLiterals false other) := by
  obtain ⟨left, inner, right, rfl, hleft, hright, hcase⟩ := hdress
  refine ⟨left, Sql.maskLiterals false inner, Sql.maskLiterals (hasOddQuotes inner) right, ?_, hleft,
    isBlank_of_mem_maskLiterals hright, ?_⟩
  · rw [List.append_assoc, maskLiterals_clear_append (quote_notMem_of_blank hleft),
      maskLiterals_append, Bool.false_xor, List.append_assoc]
  · rw [← maskLiterals_asciiLower, hcase, maskLiterals_asciiLower]

/-! ## Trimming and searching for pieces -/

theorem dropEndWhile_asciiLower {drop : Char → Bool} (hdrop : ∀ c : Char, drop c.toLower = drop c)
    (text : List Char) :
    dropEndWhile drop (asciiLower text) = asciiLower (dropEndWhile drop text) := by
  have hreverse : ∀ text, (asciiLower text).reverse = asciiLower text.reverse :=
    fun text => List.map_reverse.symm
  rw [dropEndWhile, dropEndWhile, hreverse, dropWhile_asciiLower hdrop, hreverse]

theorem trim_asciiLower (text : List Char) : trim (asciiLower text) = asciiLower (trim text) := by
  rw [trim, trimStart, dropWhile_asciiLower isBlank_toLower, trimEnd,
    dropEndWhile_asciiLower isBlank_toLower]
  rfl

theorem ignoresDress_isBlankText : IgnoresDress isBlankText := by
  refine ignoresDress_of_steps ?_ ?_ ?_
  · intro text
    simp [isBlankText, asciiLower, Function.comp_def, isBlank_toLower]
  · intro c hc text
    simp [isBlankText, hc]
  · intro c hc text
    simp [isBlankText, hc]

theorem ignoresDress_opensWithSelect : IgnoresDress opensWithSelect := by
  have hselect : Commutes (fun text => (dropWord "select".toList text).bind dropSomeBlanks)
      asciiLower := (dropWord_asciiLower _).bind dropSomeBlanks_asciiLower
  refine ignoresDress_of_steps ?_ ?_ ?_
  · intro text
    have hread := congrArg Option.isSome (hselect (trim text))
    rw [Option.isSome_map] at hread
    rw [opensWithSelect, trim_asciiLower]
    exact hread
  · intro c hc text
    rw [opensWithSelect, opensWithSelect, trim_cons hc]
  · intro c hc text
    rw [opensWithSelect, opensWithSelect, trim_concat hc]

theorem hasLaterStatement_cons {c : Char} (hc : isBlank c = true) (text : List Char) :
    HasLaterStatement (c :: text) ↔ HasLaterStatement text := by
  constructor
  · rintro ⟨front, back, d, htext, hd⟩
    cases front with
    | nil =>
        obtain ⟨rfl, -⟩ := List.cons.inj htext
        exact absurd hc (by decide)
    | cons e front =>
        obtain ⟨rfl, rfl⟩ := List.cons.inj htext
        exact ⟨front, back, d, rfl, hd⟩
  · rintro ⟨front, back, d, rfl, hd⟩
    exact ⟨c :: front, back, d, rfl, hd⟩

theorem ignoresDress_hasInnerSemicolon : IgnoresDress hasInnerSemicolon := by
  refine ignoresDress_of_steps ?_ ?_ ?_
  · intro text
    have hsemicolon : ∀ c : Char, (c.toLower == ';') = (c == ';') := by
      intro c
      simp only [Bool.beq_eq_decide_eq, toLower_eq_iff (d := ';') (by decide)]
    have hmem : ∀ text, (asciiLower text).contains ';' = text.contains ';' := by
      intro text
      simp [asciiLower, toLower_eq_iff (d := ';') (by decide)]
    have hdrop : ∀ c : Char, (c.toLower == ';' || isBlank c.toLower) = (c == ';' || isBlank c) := by
      intro c
      rw [hsemicolon, isBlank_toLower]
    rw [hasInnerSemicolon, dropEndWhile_asciiLower hdrop, hmem]
    rfl
  · intro c hc text
    rw [Bool.eq_iff_iff, hasInnerSemicolon_iff, hasInnerSemicolon_iff, hasLaterStatement_cons hc]
  · intro c hc text
    rw [hasInnerSemicolon, dropEndWhile_concat (by rw [hc, Bool.or_true])]
    rfl

/-- A character that a piece does not contain parts a text into places where the piece stands. -/
theorem infix_part_iff {c : Char} {piece : List Char} (hc : c ∉ piece) (front back : List Char) :
    piece <:+: front ++ c :: back ↔ piece <:+: front ∨ piece <:+: back := by
  refine ⟨infix_of_notMem hc, ?_⟩
  rintro (hfront | hback)
  · exact hfront.trans (List.prefix_append ..).isInfix
  · exact hback.trans ((List.suffix_cons ..).trans (List.suffix_append ..)).isInfix

/-- Lowering a text makes nothing without letters that was not there. -/
theorem asciiLower_eq_iff {piece : List Char} (hpiece : ∀ c ∈ piece, c.isAlpha = false)
    (part : List Char) : asciiLower part = piece ↔ part = piece := by
  induction piece generalizing part with
  | nil => simp [asciiLower]
  | cons d piece ih =>
      obtain ⟨hd, hpiece⟩ := List.forall_mem_cons.mp hpiece
      cases part with
      | nil => simp [asciiLower]
      | cons c part =>
          have hpart := ih hpiece part
          rw [asciiLower] at hpart
          rw [asciiLower, List.map_cons, List.cons.injEq, List.cons.injEq, toLower_eq_iff hd, hpart]

theorem ignoresDress_hasInfix {piece : List Char} (hne : piece ≠ [])
    (hpiece : (piece.all fun c => !c.isAlpha && !isBlank c) = true) :
    IgnoresDress (hasInfix piece) := by
  have hpiece : ∀ c ∈ piece, c.isAlpha = false ∧ isBlank c = false := by simpa using hpiece
  have hnil : ¬ piece <:+: [] := fun hinfix => hne (List.infix_nil.mp hinfix)
  have hnotMem : ∀ {c}, isBlank c = true → c ∉ piece := by
    intro c hc hmem
    exact Bool.false_ne_true ((hpiece c hmem).2.symm.trans hc)
  have hletters := asciiLower_eq_iff fun c hc => (hpiece c hc).1
  refine ignoresDress_of_steps ?_ ?_ ?_
  · intro text
    rw [Bool.eq_iff_iff, hasInfix_iff, hasInfix_iff, asciiLower, List.infix_map_iff]
    constructor
    · rintro ⟨part, hpart, hlower⟩
      rwa [← (hletters part).mp hlower.symm]
    · intro hpart
      exact ⟨piece, hpart, ((hletters piece).mpr rfl).symm⟩
  · intro c hc text
    have hpart := infix_part_iff (hnotMem hc) [] text
    rw [Bool.eq_iff_iff, hasInfix_iff, hasInfix_iff]
    simpa [hnil] using hpart
  · intro c hc text
    have hpart := infix_part_iff (hnotMem hc) text []
    rw [Bool.eq_iff_iff, hasInfix_iff, hasInfix_iff]
    simpa [hnil] using hpart

/-! ## Rules -/

theorem isPlainWord_keyword {keyword : String} (hmem : keyword ∈ forbiddenKeywords) :
    IsPlainWord (asciiLower keyword.toList) := by
  revert keyword
  decide

/-- No rule's finding depends on case and outer blanks. -/
theorem Rule.ignoresDress_check (rule : Rule) : IgnoresDress rule.check := by
  intro sql other hdress
  cases rule with
  | nonEmpty => simp only [check, ignoresDress_isBlankText hdress]
  | keywordBan =>
      have hfind : (forbiddenKeywords.find? fun keyword =>
            (wholeWord (asciiLower keyword.toList)).occursIn other) =
          forbiddenKeywords.find? fun keyword =>
            (wholeWord (asciiLower keyword.toList)).occursIn sql :=
        List.find?_congr fun keyword hmem =>
          (isSteady_wholeWord (isPlainWord_keyword hmem)).ignoresDress hdress
      rw [check, check, hfind]
  | prefixRequirement => simp only [check, ignoresDress_opensWithSelect hdress]
  | patternBan =>
      have hany : (dangerousConstructs.any fun construct => construct.occursIn other) =
          dangerousConstructs.any fun construct => construct.occursIn sql := by
        rw [Bool.eq_iff_iff, List.any_eq_true, List.any_eq_true]
        refine exists_congr fun construct => and_congr_right fun hmem => ?_
        rw [(isSteady_of_mem hmem).ignoresDress hdress]
      simp only [check, hany, isSteady_intoTarget.ignoresDress hdress.maskLiterals]
  | singleStatement => simp only [check, ignoresDress_hasInnerSemicolon hdress]
  | noComments =>
      have hdash : IgnoresDress (hasInfix "--".toList) :=
        ignoresDress_hasInfix (by decide) (by decide)
      have hstar : IgnoresDress (hasInfix "/*".toList) :=
        ignoresDress_hasInfix (by decide) (by decide)
      rw [check, check, hdash hdress, hstar hdress]

/-- Whatever rules are checked and in whatever order: blanks around a query and another case of its
ASCII letters leave the verdict what it is, and the reason with it. -/
theorem validate_redressed (validator : Validator) (sql other left right : String)
    (dialect : Dialect) (hcase : asciiLower other.toList = asciiLower sql.toList)
    (hleft : ∀ c ∈ left.toList, isBlank c = true)
    (hright : ∀ c ∈ right.toList, isBlank c = true) :
    validator.validate (left ++ other ++ right) dialect = validator.validate sql dialect := by
  have hdress : IsRedressed sql.toList (left ++ other ++ right).toList :=
    ⟨left.toList, other.toList, right.toList, by simp, hleft, hright, hcase⟩
  simp only [Validator.validate, Validator.validateText]
  rw [funext fun rule : Rule => rule.ignoresDress_check hdress]

/-- A query in capitals whose last literal is not closed, and the same in small letters with blanks
at both ends, those behind inside the literal. -/
theorem validate_redressed_open_literal :
    Validator.strict.validate ("\n" ++ "select id from t where note = 'moved into" ++ " \t") .duckDb =
        Validator.strict.validate "SELECT id FROM t WHERE note = 'MOVED INTO" .duckDb ∧
      (Validator.strict.validate "SELECT id FROM t WHERE note = 'MOVED INTO" .duckDb).isValid =
        true := by
  refine ⟨validate_redressed _ _ _ _ _ _ (by decide) ?_ ?_, by decide +kernel⟩
  · simpa using (by decide : isBlank '\n' = true)
  · simpa using (by decide : isBlank ' ' = true ∧ isBlank '\t' = true)

end QueryWarden.Sql
