import QueryWarden.Proofs.Text.Occurrence
import QueryWarden.Proofs.Text.Trimming
import QueryWarden.Sql.Validator

/-!
# What the rules say about a text

Each rule of the validator has a meaning that does not mention how it is checked: a forbidden
keyword is a maximal run of word characters, an inner semicolon has something after it that is
neither a semicolon nor a blank. A verdict names the first rule broken, and the keyword ban names
the first keyword of its table, wherever in the text it stands.
-/

namespace QueryWarden.Sql

open QueryWarden.Text

/-! ## The meaning of the rules -/

/-- The word, in whatever case it is given, is one of the text's maximal runs. -/
def HasKeyword (sql : List Char) (keyword : String) : Prop :=
  ∃ run, IsWordRun sql run ∧ run.map simpleFold = keyword.toList.map simpleFold

/-- What trimming leaves opens with the keyword of a query and a blank. -/
def OpensWithSelect (sql : List Char) : Prop :=
  ∃ middle word gap rest, IsTrimmed sql middle ∧ middle = word ++ gap :: rest ∧
    word.map simpleFold = "SELECT".toList.map simpleFold ∧ isBlank gap = true

/-- Something other than semicolons and blanks follows a semicolon. -/
def HasLaterStatement (sql : List Char) : Prop :=
  ∃ front back c, sql = front ++ ';' :: back ∧ c ∈ back ∧ c ≠ ';' ∧ isBlank c = false

/-- A dangerous construct is found, or a target of a result once literals are masked. -/
def HasDangerousConstruct (sql : List Char) : Prop :=
  (∃ construct ∈ dangerousConstructs, construct.occursIn sql = true) ∨
    intoTarget.occursIn (maskLiterals false sql) = true

/-- A comment marker stands in the text. -/
def HasComment (sql : List Char) : Prop :=
  "--".toList <:+: sql ∨ "/*".toList <:+: sql

/-- The text breaks the rule. -/
def Rule.IsBroken : Rule → List Char → Prop
  | .nonEmpty, sql => ∀ c ∈ sql, isBlank c = true
  | .keywordBan, sql => ∃ keyword ∈ forbiddenKeywords, HasKeyword sql keyword
  | .prefixRequirement, sql => ¬ OpensWithSelect sql
  | .patternBan, sql => HasDangerousConstruct sql
  | .singleStatement, sql => HasLaterStatement sql
  | .noComments, sql => HasComment sql

/-- The reason that is given when the text breaks the rule. A forbidden keyword is named, the
first of the table that occurs. -/
def Rule.Explains : Rule → List Char → String → Prop
  | .nonEmpty, _, reason => reason = "query cannot be empty"
  | .keywordBan, sql, reason =>
      ∃ earlier keyword later, forbiddenKeywords = earlier ++ keyword :: later ∧
        (∀ other ∈ earlier, ¬ HasKeyword sql other) ∧ HasKeyword sql keyword ∧
        reason = "query contains forbidden keyword: " ++ keyword
  | .prefixRequirement, _, reason => reason = "query must start with SELECT"
  | .patternBan, _, reason => reason = "query contains potentially dangerous operations"
  | .singleStatement, _, reason => reason = "query contains multiple statements"
  | .noComments, _, reason => reason = "query contains SQL comments"

/-! ## Each check decides its rule -/

theorem opensWithSelect_iff (sql : List Char) :
    opensWithSelect sql = true ↔ OpensWithSelect sql := by
  have hword : IsPlainWord "select".toList := by decide +kernel
  have hfold : "SELECT".toList.map simpleFold = "select".toList := by decide
  simp only [opensWithSelect, OpensWithSelect, Option.isSome_iff_exists, Option.bind_eq_some_iff,
    dropWord_eq_some_iff hword.ascii, isTrimmed_iff, hfold]
  constructor
  · rintro ⟨left, rest, ⟨word, htrim, hspelled⟩, hblanks⟩
    cases rest with
    | nil => simp [dropSomeBlanks] at hblanks
    | cons gap rest =>
        refine ⟨_, word, gap, rest, rfl, htrim, hspelled, ?_⟩
        cases hgap : isBlank gap with
        | true => rfl
        | false => simp [dropSomeBlanks, hgap] at hblanks
  · rintro ⟨middle, word, gap, rest, rfl, htrim, hspelled, hgap⟩
    exact ⟨dropBlanks rest, gap :: rest, ⟨word, htrim, hspelled⟩, by simp [dropSomeBlanks, hgap]⟩

theorem hasInnerSemicolon_iff (sql : List Char) :
    hasInnerSemicolon sql = true ↔ HasLaterStatement sql := by
  have hsemicolon : (';' == ';' || isBlank ';') = true := by decide
  rw [hasInnerSemicolon, List.contains_iff_mem,
    mem_dropEndWhile_iff (fun c => c == ';' || isBlank c) hsemicolon]
  simp [HasLaterStatement]

theorem wholeKeyword_occursIn_iff (sql : List Char) {keyword : String}
    (hkeyword : keyword ∈ forbiddenKeywords) :
    (wholeWord (asciiLower keyword.toList)).occursIn sql = true ↔ HasKeyword sql keyword := by
  have hplain : ∀ keyword ∈ forbiddenKeywords, IsPlainWord (asciiLower keyword.toList) ∧
      asciiLower keyword.toList = keyword.toList.map simpleFold := by decide +kernel
  obtain ⟨hword, hfold⟩ := hplain keyword hkeyword
  rw [wholeWord_occursIn_iff hword, hfold]
  rfl

theorem refusal_eq_some_iff {p : Prop} [Decidable p] (text reason : String) :
    (if p then some text else none) = some reason ↔ p ∧ reason = text := by
  rw [Option.ite_none_right_eq_some, Option.some.injEq, eq_comm (a := text)]

/-- A check gives a reason exactly when its rule is broken, and then the reason that explains
it. -/
theorem Rule.check_eq_some_iff (rule : Rule) (sql : List Char) (reason : String) :
    rule.check sql = some reason ↔ rule.IsBroken sql ∧ rule.Explains sql reason := by
  cases rule with
  | nonEmpty =>
      simp only [check, IsBroken, Explains, refusal_eq_some_iff, isBlankText, List.all_eq_true]
  | keywordBan =>
      simp only [check, IsBroken, Explains, Option.map_eq_some_iff]
      constructor
      · rintro ⟨keyword, hfind, rfl⟩
        obtain ⟨hfound, earlier, later, htable, hearlier⟩ :=
          List.find?_eq_some_iff_append.mp hfind
        have hmem : keyword ∈ forbiddenKeywords := List.mem_of_find?_eq_some hfind
        have hhas := (wholeKeyword_occursIn_iff sql hmem).mp hfound
        refine ⟨⟨keyword, hmem, hhas⟩, earlier, keyword, later, htable, ?_, hhas, rfl⟩
        -- The search passed over every earlier keyword of the table.
        intro other hother hhas'
        have hmem' : other ∈ forbiddenKeywords := htable ▸ List.mem_append_left _ hother
        have hnot := hearlier other hother
        simp [(wholeKeyword_occursIn_iff sql hmem').mpr hhas'] at hnot
      · rintro ⟨-, earlier, keyword, later, htable, hearlier, hhas, rfl⟩
        have hmem : keyword ∈ forbiddenKeywords := by simp [htable]
        refine ⟨keyword, List.find?_eq_some_iff_append.mpr
          ⟨(wholeKeyword_occursIn_iff sql hmem).mpr hhas, earlier, later, htable, ?_⟩, rfl⟩
        intro other hother
        have hmem' : other ∈ forbiddenKeywords := htable ▸ List.mem_append_left _ hother
        have hnot := hearlier other hother
        rw [← wholeKeyword_occursIn_iff sql hmem'] at hnot
        simpa using hnot
  | prefixRequirement =>
      simp only [check, IsBroken, Explains, ← opensWithSelect_iff]
      cases opensWithSelect sql with
      | true => simp
      | false => simp [eq_comm (a := reason)]
  | patternBan =>
      simp only [check, IsBroken, Explains, refusal_eq_some_iff, HasDangerousConstruct,
        Bool.or_eq_true, List.any_eq_true]
  | singleStatement =>
      simp only [check, IsBroken, Explains, refusal_eq_some_iff, hasInnerSemicolon_iff]
  | noComments =>
      simp only [check, IsBroken, Explains, refusal_eq_some_iff, HasComment, Bool.or_eq_true,
        hasInfix_iff]

theorem Rule.isSome_check_iff (rule : Rule) (sql : List Char) :
    (rule.check sql).isSome = true ↔ rule.IsBroken sql := by
  cases rule with
  | nonEmpty => simp [check, IsBroken, isBlankText]
  | keywordBan =>
      simp only [check, IsBroken, Option.isSome_map, List.find?_isSome]
      exact exists_congr fun keyword => and_congr_right (wholeKeyword_occursIn_iff sql)
  | prefixRequirement =>
      simp only [check, IsBroken, ← opensWithSelect_iff]
      cases opensWithSelect sql <;> simp
  | patternBan => simp [check, IsBroken, HasDangerousConstruct]
  | singleStatement => simp [check, IsBroken, hasInnerSemicolon_iff]
  | noComments => simp [check, IsBroken, HasComment, ← hasInfix_iff]

theorem Rule.check_eq_none_iff (rule : Rule) (sql : List Char) :
    rule.check sql = none ↔ ¬ rule.IsBroken sql := by
  rw [← isSome_check_iff, Bool.not_eq_true, Option.isSome_eq_false_iff, Option.isNone_iff_eq_none]

/-! ## Verdicts -/

/-- The first of the rules that the text breaks, in their order, gives the reason. -/
def IsRefusal (rules : List Rule) (sql : List Char) (reason : String) : Prop :=
  ∃ earlier rule later, rules = earlier ++ rule :: later ∧
    (∀ other ∈ earlier, ¬ other.IsBroken sql) ∧ rule.IsBroken sql ∧ rule.Explains sql reason

namespace Validator

variable (validator : Validator) (sql : List Char)

theorem reason_validateText :
    (validator.validateText sql).reason = validator.rules.findSome? fun rule => rule.check sql := by
  unfold validateText
  cases validator.rules.findSome? fun rule => rule.check sql <;> rfl

theorem isValid_validateText :
    (validator.validateText sql).isValid = (validator.validateText sql).reason.isNone := by
  unfold validateText
  cases validator.rules.findSome? fun rule => rule.check sql <;> rfl

/-- A text is accepted exactly when it breaks no rule of the table. -/
theorem isValid_validateText_iff :
    (validator.validateText sql).isValid = true ↔
      ∀ rule ∈ validator.rules, ¬ rule.IsBroken sql := by
  simp only [isValid_validateText, reason_validateText, Option.isNone_iff_eq_none,
    List.findSome?_eq_none_iff, Rule.check_eq_none_iff]

theorem reason_validateText_iff (reason : String) :
    (validator.validateText sql).reason = some reason ↔
      IsRefusal validator.rules sql reason := by
  simp only [reason_validateText, List.findSome?_eq_some_iff, Rule.check_eq_some_iff,
    Rule.check_eq_none_iff, IsRefusal]
  constructor
  · rintro ⟨earlier, rule, later, hrules, hbroken, hearlier⟩
    exact ⟨earlier, rule, later, hrules, hearlier, hbroken.1, hbroken.2⟩
  · rintro ⟨earlier, rule, later, hrules, hearlier, hbroken⟩
    exact ⟨earlier, rule, later, hrules, hbroken, hearlier⟩

end Validator

/-- What the strict validator lets pass, rule by rule. That the text is not blank follows from how
it opens. -/
structure IsAcceptable (sql : List Char) : Prop where
  noKeyword : ∀ run, IsWordRun sql run → ∀ keyword ∈ forbiddenKeywords,
    run.map simpleFold ≠ keyword.toList.map simpleFold
  opens : OpensWithSelect sql
  noConstruct : Rule.patternBan.check sql = none
  oneStatement : ∀ front back, sql = front ++ ';' :: back →
    ∀ c ∈ back, c = ';' ∨ isBlank c = true
  noMarker : ¬ "--".toList <:+: sql ∧ ¬ "/*".toList <:+: sql

/-- A query opens, behind its blanks, with a character that folds to the keyword's first. -/
theorem OpensWithSelect.simpleFold_head {sql rest : List Char} {c : Char}
    (hopens : OpensWithSelect sql) (hsql : trimStart sql = c :: rest) : simpleFold c = 's' := by
  obtain ⟨middle, word, gap, back, htrimmed, rfl, hword, -⟩ := hopens
  rw [isTrimmed_iff, trim_of_trimStart hsql] at htrimmed
  cases word with
  | nil => simp at hword
  | cons letter word =>
      obtain ⟨rfl, -⟩ := List.cons.inj htrimmed
      exact (List.cons.inj hword).1

theorem OpensWithSelect.not_all_blank {sql : List Char} (hopens : OpensWithSelect sql) :
    ¬ ∀ c ∈ sql, isBlank c = true := by
  intro hall
  obtain ⟨middle, word, gap, rest, htrimmed, rfl, hword, -⟩ := hopens
  have hempty : IsTrimmed sql [] := ⟨sql, [], by simp, hall, by simp, by simp, by simp⟩
  have hmiddle := ((isTrimmed_iff _ _).mp htrimmed).symm.trans ((isTrimmed_iff _ _).mp hempty)
  simp at hmiddle

theorem isAcceptable_iff (sql : List Char) :
    IsAcceptable sql ↔ ∀ rule ∈ Validator.strict.rules, ¬ rule.IsBroken sql := by
  have hrules : Validator.strict.rules = [.nonEmpty, .keywordBan, .prefixRequirement,
      .patternBan, .singleStatement, .noComments] := rfl
  simp only [hrules, List.forall_mem_cons, List.not_mem_nil, false_implies, implies_true,
    and_true]
  constructor
  · rintro ⟨hkeyword, hopens, hconstruct, hone, hmarker⟩
    refine ⟨hopens.not_all_blank, ?_, not_not_intro hopens,
      (Rule.check_eq_none_iff _ _).mp hconstruct, ?_, not_or.mpr hmarker⟩
    · rintro ⟨keyword, hmem, run, hrun, hfold⟩
      exact hkeyword run hrun keyword hmem hfold
    · rintro ⟨front, back, c, hsql, hc, hne, hblank⟩
      have hor := hone front back hsql c hc
      simp [hne, hblank] at hor
  · rintro ⟨-, hkeyword, hopens, hconstruct, hone, hmarker⟩
    refine ⟨?_, not_not.mp hopens, (Rule.check_eq_none_iff _ _).mpr hconstruct, ?_,
      not_or.mp hmarker⟩
    · intro run hrun keyword hmem hfold
      exact hkeyword ⟨keyword, hmem, run, hrun, hfold⟩
    · intro front back hsql c hc
      by_cases hne : c = ';'
      · exact .inl hne
      · cases hblank : isBlank c with
        | true => exact .inr rfl
        | false => exact absurd ⟨front, back, c, hsql, hc, hne, hblank⟩ hone

/-- The strict validator accepts exactly the acceptable texts; any other text is refused with the
reason of the first rule it breaks, and the keyword ban names the first keyword of its table. -/
theorem strict_validate_iff (sql : String) (dialect : Dialect) :
    let verdict := Validator.strict.validate sql dialect
    (verdict.isValid = true ↔ IsAcceptable sql.toList) ∧
      (verdict.isValid = false ↔ ∃ reason, verdict.reason = some reason) ∧
      ∀ reason, verdict.reason = some reason ↔
        IsRefusal [.nonEmpty, .keywordBan, .prefixRequirement, .patternBan, .singleStatement,
          .noComments] sql.toList reason := by
  refine ⟨?_, ?_, Validator.strict.reason_validateText_iff sql.toList⟩
  · rw [isAcceptable_iff]
    exact Validator.strict.isValid_validateText_iff sql.toList
  · simp only [Validator.validate, Validator.isValid_validateText, Option.isNone_eq_false_iff,
      Option.isSome_iff_exists]

-- The table decides which keyword is named, not the place in the text.
example : (Validator.strict.validate "SELECT EXECUTE, ſDROP, exec" .mySql).reason =
    some "query contains forbidden keyword: EXEC" := by
  decide +kernel

end QueryWarden.Sql
