import QueryWarden.Proofs.Sql.Rules

/-!
# Results sent into a new table

When the pattern ban sees a result sent into a new table, and when it does not. It looks at a text
in which everything behind an odd number of single quotes is blanked, and it wants a blank behind
the word. A reader of the dialect counts differently: a single quote inside a quoted identifier
opens no literal, and a delimiter ends the word as well as a blank does. The two agree as long as
the quoted identifiers before the word hold an even number of single quotes.
-/

namespace QueryWarden.Sql

open QueryWarden.Text

/-! ## The shape that is looked for -/

/-- The word that sends a result somewhere, what separates it from the target, and the target's
first character. -/
structure IsIntoTarget (before word gap : List Char) (target : Char) : Prop where
  spelled : word.map simpleFold = "INTO".toList.map simpleFold
  startsWord : ∀ c ∈ before.getLast?, isWordChar c = false
  blankGap : ∀ c ∈ gap, isBlank c = true
  startsTarget : startsTarget target = true
  endsWord : gap = [] → isWordChar target = false

theorem isBlank_of_startsTarget {c : Char} (htarget : startsTarget c = true) :
    isBlank c = false := by
  cases hblank : isBlank c with
  | false => rfl
  | true =>
      have hword := isWordChar_of_isBlank hblank
      simp only [startsTarget, hword, Bool.or_false, Bool.or_eq_true, beq_iff_eq] at htarget
      rcases htarget with ((rfl | rfl) | rfl) | rfl <;> exact absurd hblank (by decide)

theorem intoTarget_isSome_iff_drops (before : Option Char) (text : List Char) :
    (intoTarget before text).isSome = true ↔
      atWordStart before = true ∧ ∃ afterWord, dropWord "into".toList text = some afterWord ∧
        ∃ target rest, dropSomeBlanks afterWord = some (target :: rest) ∧
          startsTarget target = true := by
  unfold intoTarget
  cases hstart : atWordStart before with
  | false =>
      refine iff_of_false ?_ (by simp)
      exact Bool.false_ne_true
  | true =>
      cases hword : dropWord "into".toList text with
      | none => simp [guard]
      | some afterWord =>
          cases hgap : dropSomeBlanks afterWord with
          | none => simp [guard, hgap]
          | some afterGap => cases afterGap <;> simp [guard, hgap]

/-- The pattern matches at a position exactly when the shape stands there with a blank in it. -/
theorem intoTarget_isSome_iff (before text : List Char) :
    (intoTarget before.getLast? text).isSome = true ↔
      ∃ word gap target rest, text = word ++ gap ++ target :: rest ∧
        IsIntoTarget before word gap target ∧ gap ≠ [] := by
  have hplain : IsPlainWord "into".toList := by decide
  have hfold : "INTO".toList.map simpleFold = "into".toList := by decide
  simp only [intoTarget_isSome_iff_drops, atWordStart_iff, dropWord_eq_some_iff hplain.ascii,
    dropSomeBlanks_eq_some_iff]
  constructor
  · rintro ⟨hstart, afterWord, ⟨word, rfl, hword⟩, target, rest, ⟨gap, hne, hblank, rfl, -⟩,
      htarget⟩
    exact ⟨word, gap, target, rest, by simp,
      ⟨hword.trans hfold.symm, hstart, hblank, htarget, fun hempty => absurd hempty hne⟩, hne⟩
  · rintro ⟨word, gap, target, rest, rfl, hinto, hne⟩
    refine ⟨hinto.startsWord, gap ++ target :: rest, ⟨word, by simp, ?_⟩, target, rest,
      ⟨gap, hne, hinto.blankGap, rfl, ?_⟩, hinto.startsTarget⟩
    · exact hinto.spelled.trans hfold
    · simpa using isBlank_of_startsTarget hinto.startsTarget

/-! ## Masked text -/

/-- An odd number of single quotes stands in the text. -/
def hasOddQuotes (text : List Char) : Bool :=
  text.count '\'' % 2 == 1

theorem hasOddQuotes_cons (c : Char) (text : List Char) :
    hasOddQuotes (c :: text) = ((c == '\'') ^^ hasOddQuotes text) := by
  unfold hasOddQuotes
  rw [List.count_cons]
  by_cases hc : c = '\''
  · subst hc
    rcases Nat.mod_two_eq_zero_or_one (text.count '\'') with h | h <;> simp [h, Nat.add_mod]
  · simp [beq_eq_false_iff_ne.mpr hc]

theorem maskLiterals_append (inside : Bool) (front back : List Char) :
    maskLiterals inside (front ++ back) =
      maskLiterals inside front ++ maskLiterals (inside ^^ hasOddQuotes front) back := by
  induction front generalizing inside with
  | nil => simp [maskLiterals, hasOddQuotes]
  | cons c front ih =>
      rw [List.cons_append, hasOddQuotes_cons]
      by_cases hc : c = '\''
      · subst hc
        simp only [maskLiterals, if_true, ih, List.cons_append, BEq.rfl, Bool.true_xor]
        cases inside <;> simp
      · simp [maskLiterals, hc, ih, beq_eq_false_iff_ne.mpr hc]

theorem length_maskLiterals (inside : Bool) (text : List Char) :
    (maskLiterals inside text).length = text.length := by
  induction text generalizing inside with
  | nil => rfl
  | cons c text ih => simp only [maskLiterals]; split <;> simp [ih]

/-- Outside literals a stretch without single quotes is left as it is. -/
theorem maskLiterals_clear_append {clear : List Char} (hclear : '\'' ∉ clear)
    (rest : List Char) : maskLiterals false (clear ++ rest) = clear ++ maskLiterals false rest := by
  induction clear with
  | nil => rfl
  | cons c clear ih =>
      simp only [List.mem_cons, not_or] at hclear
      have hc : c ≠ '\'' := fun h => hclear.1 h.symm
      simp [maskLiterals, hc, ih hclear.2]

theorem eq_append_of_maskLiterals {text clear rest : List Char} (hclear : '\'' ∉ clear)
    (hmask : maskLiterals false text = clear ++ rest) :
    ∃ back, text = clear ++ back ∧ maskLiterals false back = rest := by
  induction clear generalizing text with
  | nil => exact ⟨text, rfl, hmask⟩
  | cons c clear ih =>
      simp only [List.mem_cons, not_or] at hclear
      cases text with
      | nil => simp [maskLiterals] at hmask
      | cons d text =>
          by_cases hd : d = '\''
          · subst hd
            simp only [maskLiterals, if_true, List.cons_append, List.cons.injEq] at hmask
            exact absurd hmask.1 hclear.1
          · simp only [maskLiterals, hd, if_false, Bool.false_eq_true, List.cons_append,
              List.cons.injEq] at hmask
            obtain ⟨rfl, hrest⟩ := hmask
            obtain ⟨back, rfl, hback⟩ := ih hclear.2 hrest
            exact ⟨back, rfl, hback⟩

/-- Outside literals the last character is left as it is. -/
theorem getLast?_maskLiterals {front : List Char} (heven : hasOddQuotes front = false) :
    (maskLiterals false front).getLast? = front.getLast? := by
  cases front using List.reverseRecOn with
  | nil => rfl
  | append_singleton front c =>
      rw [maskLiterals_append, List.getLast?_append, List.getLast?_append]
      by_cases hc : c = '\''
      · simp [maskLiterals, hc]
      · have hfront : hasOddQuotes front = false := by
          unfold hasOddQuotes at heven ⊢
          simpa [List.count_singleton, hc] using heven
        simp [maskLiterals, hc, hfront]

/-- A single quote is no part of the shape. -/
theorem IsIntoTarget.quote_notMem {before word gap : List Char} {target : Char}
    (hinto : IsIntoTarget before word gap target) : '\'' ∉ word ++ gap ++ [target] := by
  simp only [List.mem_append, List.mem_singleton, not_or]
  refine ⟨⟨?_, ?_⟩, ?_⟩
  · intro hmem
    have hfold := List.mem_map_of_mem (f := simpleFold) hmem
    rw [hinto.spelled] at hfold
    revert hfold
    decide
  · intro hmem
    have hblank := hinto.blankGap _ hmem
    revert hblank
    decide
  · rintro rfl
    have htarget := hinto.startsTarget
    revert htarget
    decide

/-- Inside a literal nothing is left that the word could start with. -/
theorem not_spelled_of_inside {text word rest : List Char}
    (hword : word.map simpleFold = "INTO".toList.map simpleFold)
    (hmask : maskLiterals true text = word ++ rest) : False := by
  cases word with
  | nil => simp at hword
  | cons letter word =>
      have hletter : simpleFold letter = 'i' := (List.cons.inj hword).1
      cases text with
      | nil => simp [maskLiterals] at hmask
      | cons c text =>
          by_cases hc : c = '\''
          · simp only [maskLiterals, hc, if_true, List.cons_append, List.cons.injEq] at hmask
            rw [← hmask.1] at hletter
            revert hletter
            decide
          · simp only [maskLiterals, hc, if_false, if_true, List.cons_append,
              List.cons.injEq] at hmask
            rw [← hmask.1] at hletter
            revert hletter
            decide

theorem IsIntoTarget.congr {before before' word gap : List Char} {target : Char}
    (hinto : IsIntoTarget before word gap target) (hlast : before'.getLast? = before.getLast?) :
    IsIntoTarget before' word gap target :=
  { hinto with startsWord := hlast ▸ hinto.startsWord }

/-- Searching the masked text finds exactly the shapes with a blank in them that stand behind an
even number of single quotes. -/
theorem intoTarget_occursIn_maskLiterals_iff (sql : List Char) :
    intoTarget.occursIn (maskLiterals false sql) = true ↔
      ∃ before word gap target after, sql = before ++ word ++ gap ++ target :: after ∧
        IsIntoTarget before word gap target ∧ gap ≠ [] ∧ hasOddQuotes before = false := by
  simp only [Pattern.occursIn_iff, intoTarget_isSome_iff]
  constructor
  · rintro ⟨front, back, hcut, word, gap, target, rest, rfl, hinto, hne⟩
    -- The cut of the masked text is one of the text itself, at the same place.
    obtain ⟨before, text, rfl, hlength⟩ : ∃ before text, sql = before ++ text ∧
        before.length = front.length := by
      refine ⟨sql.take front.length, sql.drop front.length, by simp, ?_⟩
      have hlengths := congrArg List.length hcut
      simp only [length_maskLiterals, List.length_append] at hlengths
      simp only [List.length_take]
      omega
    rw [maskLiterals_append, Bool.false_xor] at hcut
    obtain ⟨rfl, htext⟩ := List.append_inj hcut (by rw [length_maskLiterals, hlength])
    cases hodd : hasOddQuotes before with
    | true =>
        rw [hodd, List.append_assoc] at htext
        exact (not_spelled_of_inside hinto.spelled htext).elim
    | false =>
        rw [hodd] at htext
        have hshape : maskLiterals false text = (word ++ gap ++ [target]) ++ rest := by
          simpa using htext
        obtain ⟨after, rfl, -⟩ := eq_append_of_maskLiterals hinto.quote_notMem hshape
        exact ⟨before, word, gap, target, after, by simp,
          hinto.congr (getLast?_maskLiterals hodd).symm, hne, hodd⟩
  · rintro ⟨before, word, gap, target, after, rfl, hinto, hne, hodd⟩
    refine ⟨maskLiterals false before, word ++ gap ++ target :: maskLiterals false after, ?_,
      word, gap, target, maskLiterals false after, rfl,
      hinto.congr (getLast?_maskLiterals hodd), hne⟩
    have hsplit : before ++ word ++ gap ++ target :: after =
        before ++ ((word ++ gap ++ [target]) ++ after) := by simp
    rw [hsplit, maskLiterals_append, hodd, Bool.false_xor,
      maskLiterals_clear_append hinto.quote_notMem]
    simp

/-! ## The dialect's own reading -/

/-- What a character of a query belongs to. -/
inductive Region where
  | code
  | literal
  | identifier
  deriving DecidableEq, Repr

/-- A single quote in code opens a literal that ends at the next one; a double quote in code opens
a quoted identifier that ends at the next one. A doubled quote closes and reopens. -/
def Region.next : Region → Char → Region
  | .code, c => if c = '\'' then .literal else if c = '"' then .identifier else .code
  | .literal, c => if c = '\'' then .code else .literal
  | .identifier, c => if c = '"' then .code else .identifier

/-- The region that a text read from `region` on ends in. -/
def Region.after (region : Region) (text : List Char) : Region :=
  text.foldl Region.next region

/-- How many single quotes of the text stand inside quoted identifiers. -/
def Region.innerQuotes : Region → List Char → Nat
  | _, [] => 0
  | region, c :: text =>
      (if region = .identifier ∧ c = '\'' then 1 else 0) + (region.next c).innerQuotes text

/-- Of the single quotes of a text, all but those inside quoted identifiers open or close a
literal. -/
theorem count_quotes_mod_two (region : Region) (text : List Char) :
    (text.count '\'' + if region = .literal then 1 else 0) % 2 =
      (region.innerQuotes text + if region.after text = .literal then 1 else 0) % 2 := by
  induction text generalizing region with
  | nil => cases region <;> rfl
  | cons c text ih =>
      have hrest := ih (region.next c)
      rw [Region.after, List.foldl_cons, ← Region.after, Region.innerQuotes, List.count_cons]
      -- A single quote inside an identifier changes the region no more than a letter does.
      by_cases hc : c = '\''
      · subst hc
        cases region <;> simp [Region.next] at hrest ⊢ <;> omega
      · by_cases hc' : c = '"'
        · subst hc'
          cases region <;> simp [Region.next] at hrest ⊢ <;> omega
        · cases region <;> simp [Region.next, hc, hc'] at hrest ⊢ <;> omega

theorem hasOddQuotes_iff_of_code {text : List Char} (hcode : Region.code.after text = .code) :
    hasOddQuotes text = false ↔ Region.code.innerQuotes text % 2 = 0 := by
  have hparity := count_quotes_mod_two .code text
  simp only [hcode, reduceCtorEq, if_false, Nat.add_zero] at hparity
  unfold hasOddQuotes
  rw [hparity, beq_eq_false_iff_ne]
  omega

/-- Exactly when the pattern ban refuses a text. A result that is sent into a target outside
literals and quoted identifiers is one that the ban looks for if a blank follows the word and the
quoted identifiers before it hold an even number of single quotes, and otherwise it is not. -/
theorem into_target_refused_iff (sql : List Char) :
    ((Rule.patternBan.check sql).isSome = true ↔
      (∃ construct ∈ dangerousConstructs, construct.occursIn sql = true) ∨
        ∃ before word gap target after, sql = before ++ word ++ gap ++ target :: after ∧
          IsIntoTarget before word gap target ∧ gap ≠ [] ∧ hasOddQuotes before = false) ∧
      ∀ before word gap target after, sql = before ++ word ++ gap ++ target :: after →
        IsIntoTarget before word gap target → Region.code.after before = .code →
          (hasOddQuotes before = false ↔ Region.code.innerQuotes before % 2 = 0) ∧
            (gap ≠ [] → Region.code.innerQuotes before % 2 = 0 →
              (Rule.patternBan.check sql).isSome = true) := by
  have hcheck : (Rule.patternBan.check sql).isSome = true ↔
      (∃ construct ∈ dangerousConstructs, construct.occursIn sql = true) ∨
        ∃ before word gap target after, sql = before ++ word ++ gap ++ target :: after ∧
          IsIntoTarget before word gap target ∧ gap ≠ [] ∧ hasOddQuotes before = false := by
    rw [Rule.isSome_check_iff, ← intoTarget_occursIn_maskLiterals_iff]
    rfl
  refine ⟨hcheck, ?_⟩
  intro before word gap target after hsql hinto hcode
  have hparity := hasOddQuotes_iff_of_code hcode
  refine ⟨hparity, fun hne heven => hcheck.mpr (.inr ?_)⟩
  exact ⟨before, word, gap, target, after, hsql, hinto, hne, hparity.mpr heven⟩

/-- Two results sent into a table that are let pass: no blank stands before the bracket, and a
quoted identifier holds a single quote. -/
theorem into_target_missed :
    (IsIntoTarget "SELECT * ".toList "INTO".toList [] '[' ∧
      Region.code.after "SELECT * ".toList = .code ∧
      Rule.patternBan.check
        ("SELECT * ".toList ++ "INTO".toList ++ [] ++ '[' :: "backup] FROM t".toList) = none) ∧
    IsIntoTarget "SELECT a AS \"it's\" ".toList "INTO".toList [' '] 'b' ∧
      Region.code.after "SELECT a AS \"it's\" ".toList = .code ∧
      Rule.patternBan.check
        ("SELECT a AS \"it's\" ".toList ++ "INTO".toList ++ [' '] ++
          'b' :: "ackup FROM t".toList) = none := by
  have hspace : isWordChar ' ' = false := by decide +kernel
  refine ⟨⟨⟨rfl, ?_, ?_, ?_, ?_⟩, ?_, ?_⟩, ⟨rfl, ?_, ?_, ?_, ?_⟩, ?_, ?_⟩
  · simp [hspace]
  · simp
  · decide +kernel
  · exact fun _ => by decide +kernel
  · decide +kernel
  · decide +kernel
  · simp [hspace]
  · simpa using (by decide +kernel : isBlank ' ' = true)
  · decide +kernel
  · simp
  · decide +kernel
  · decide +kernel

end QueryWarden.Sql
