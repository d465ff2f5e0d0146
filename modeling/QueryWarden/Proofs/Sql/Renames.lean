import QueryWarden.Proofs.Text.Words
import QueryWarden.Sql.Adaptation

/-!
# Functions under their other names

A call of a renamed function is a whole word with an opening right behind it, and its rule changes
that word into the other name. No other name is itself renamed, and no rule touches an opening. So
the rules do not disturb each other: in which order they are applied, and how often, plays no role,
and once one has been applied nothing is left for it.
-/

namespace QueryWarden.Sql

open QueryWarden.Text

namespace RenamedFunction

/-- The name in lower case. -/
def name : RenamedFunction → List Char
  | .currentTime => "now".toList
  | .nullCoalesce => "ifnull".toList
  | .substring => "substr".toList

/-- What stands right behind the name in a call. -/
def opening : RenamedFunction → List Char
  | .currentTime => "()".toList
  | .nullCoalesce | .substring => "(".toList

/-- The other name. -/
def newName : RenamedFunction → List Char
  | .currentTime => "GETDATE".toList
  | .nullCoalesce => "ISNULL".toList
  | .substring => "SUBSTRING".toList

/-- A word with such marks behind it calls the function. -/
def IsCalled (function : RenamedFunction) (word marks : List Char) : Prop :=
  word.map simpleFold = function.name ∧ function.opening <+: marks

instance (function : RenamedFunction) (word marks : List Char) :
    Decidable (function.IsCalled word marks) :=
  inferInstanceAs (Decidable (_ ∧ _))

/-- All of them. -/
def all : List RenamedFunction := [.currentTime, .nullCoalesce, .substring]

/-- The function that a word with such marks behind it calls. -/
def called? (word marks : List Char) : Option RenamedFunction :=
  all.find? fun function => function.IsCalled word marks

end RenamedFunction

/-- The other name for each word that calls one of the functions. -/
def renamed (functions : List RenamedFunction) : WordChange := fun word marks =>
  match RenamedFunction.called? word marks with
  | some function => if function ∈ functions then function.newName else word
  | none => word

/-- The rules of some functions, one after the other. -/
def applyRenames (functions : List RenamedFunction) (sql : List Char) : List Char :=
  functions.foldl (fun text function => (Adjustment.rename function).apply text) sql

/-! ## Names -/

namespace RenamedFunction

variable (function : RenamedFunction)

theorem pattern_eq : function.pattern = callOf function.name function.opening := by
  cases function <;> rfl

theorem replacement_eq : function.replacement = function.newName ++ function.opening := by
  cases function <;> rfl

theorem isPlainWord_name : IsPlainWord function.name := by
  cases function <;> decide

theorem isPlainWord_newName : IsPlainWord function.newName := by
  cases function <;> decide

theorem opening_ne_nil : function.opening ≠ [] := by
  cases function <;> simp [opening]

theorem isWordChar_opening : ∀ c ∈ function.opening, isWordChar c = false := by
  cases function <;> simp [opening] <;> decide

theorem name_injective {function other : RenamedFunction} (hname : function.name = other.name) :
    function = other := by
  revert hname
  cases function <;> cases other <;> decide

/-- No other name is one of the names. -/
theorem map_simpleFold_newName_ne (other : RenamedFunction) :
    function.newName.map simpleFold ≠ other.name := by
  cases function <;> cases other <;> decide

variable {function}

theorem called?_eq_some_iff {word marks : List Char} :
    called? word marks = some function ↔ function.IsCalled word marks := by
  constructor
  · intro hcalled
    simpa using List.find?_some hcalled
  · intro hcalls
    have hmem : function ∈ all := by cases function <;> decide
    cases hcalled : called? word marks with
    | none =>
        have hnone := List.find?_eq_none.mp hcalled function hmem
        exact absurd (decide_eq_true hcalls) hnone
    | some other =>
        have hother : other.IsCalled word marks := by simpa using List.find?_some hcalled
        rw [name_injective (hother.1.symm.trans hcalls.1)]

theorem called?_newName (function : RenamedFunction) (marks : List Char) :
    called? function.newName marks = none := by
  rw [Option.eq_none_iff_forall_ne_some]
  intro other hcalled
  exact map_simpleFold_newName_ne function other (called?_eq_some_iff.mp hcalled).1

end RenamedFunction

/-! ## Changing names -/

section Renamed

variable {functions others : List RenamedFunction}

theorem keepsWords_renamed (functions : List RenamedFunction) : (renamed functions).KeepsWords := by
  -- Either the word stays or it becomes one of the other names.
  have hcases : ∀ word marks, renamed functions word marks = word ∨ word ≠ [] ∧
      ∃ function : RenamedFunction, renamed functions word marks = function.newName := by
    intro word marks
    unfold renamed
    split
    next function hcalled =>
      split
      next =>
        have hname := (RenamedFunction.called?_eq_some_iff.mp hcalled).1
        refine .inr ⟨?_, function, rfl⟩
        rintro rfl
        exact function.isPlainWord_name.1 hname.symm
      next => exact .inl rfl
    next => exact .inl rfl
  refine ⟨fun marks => ?_, fun word marks hne => ?_, fun word marks hword => ?_⟩
  · exact (hcases [] marks).resolve_right fun hother => hother.1 rfl
  · rcases hcases word marks with hsame | ⟨-, function, hother⟩
    · rwa [hsame]
    · rw [hother]
      exact function.isPlainWord_newName.1
  · rcases hcases word marks with hsame | ⟨-, function, hother⟩
    · rwa [hsame]
    · rw [hother]
      intro c hc
      exact (function.isPlainWord_newName.2 c hc).2

theorem renamed_nil (word marks : List Char) : renamed [] word marks = word := by
  unfold renamed
  cases RenamedFunction.called? word marks <;> simp

theorem renamed_renamed (functions others : List RenamedFunction) (word marks : List Char) :
    renamed others (renamed functions word marks) marks =
      renamed (functions ++ others) word marks := by
  cases hcalled : RenamedFunction.called? word marks with
  | none => simp [renamed, hcalled]
  | some function =>
      by_cases hmem : function ∈ functions
      · simp [renamed, hcalled, hmem, RenamedFunction.called?_newName]
      · simp [renamed, hcalled, hmem]

theorem renamed_congr (hsame : ∀ function, function ∈ functions ↔ function ∈ others) :
    renamed functions = renamed others := by
  funext word marks
  simp only [renamed, hsame]

end Renamed

/-! ## What the rules find -/

section Finding

variable {function : RenamedFunction} {before : Option Char} {word rest left : List Char}

theorem callOf_eq_some_iff {name opening : List Char} (hname : IsPlainWord name)
    {text : List Char} {found : Unit × List Char} :
    callOf name opening before text = some found ↔
      atWordStart before = true ∧
        ∃ spelled, text = spelled ++ (opening ++ found.2) ∧ spelled.map simpleFold = name := by
  obtain ⟨⟨⟩, left⟩ := found
  simp only [callOf, Option.bind_eq_bind, Option.bind_eq_some_iff, Option.guard_eq_some',
    dropExact_eq_some_iff, dropWord_eq_some_iff hname.ascii, Option.some.injEq, Prod.mk.injEq,
    true_and]
  constructor
  · rintro ⟨-, hstart, _, ⟨spelled, rfl, hspelled⟩, _, rfl, rfl⟩
    exact ⟨hstart, spelled, rfl, hspelled⟩
  · rintro ⟨hstart, spelled, rfl, hspelled⟩
    exact ⟨(), hstart, _, ⟨spelled, rfl, hspelled⟩, left, rfl, rfl⟩

theorem takeWhile_word_append (hword : ∀ c ∈ word, isWordChar c = true)
    (hrest : ∀ c ∈ rest.head?, isWordChar c = false) :
    (word ++ rest).takeWhile isWordChar = word := by
  rw [List.takeWhile_append_of_pos hword]
  cases rest with
  | nil => exact List.append_nil word
  | cons c rest => rw [List.takeWhile_cons, hrest c rfl]; exact List.append_nil word

/-- Where a word goes on up to a mark, its rule finds exactly a whole word that is the name, with
the opening behind it. -/
theorem RenamedFunction.pattern_word_append_iff (hword : ∀ c ∈ word, isWordChar c = true)
    (hrest : ∀ c ∈ rest.head?, isWordChar c = false) {found : Unit × List Char} :
    function.pattern before (word ++ rest) = some found ↔
      atWordStart before = true ∧ word.map simpleFold = function.name ∧
        rest = function.opening ++ found.2 := by
  rw [function.pattern_eq, callOf_eq_some_iff function.isPlainWord_name]
  constructor
  · rintro ⟨hstart, spelled, htext, hspelled⟩
    have hopening : ∀ c ∈ (function.opening ++ found.2).head?, isWordChar c = false := by
      rw [List.head?_append_of_ne_nil _ function.opening_ne_nil]
      exact fun c hc => function.isWordChar_opening c (List.mem_of_mem_head? hc)
    have hruns := congrArg (List.takeWhile isWordChar) htext
    rw [takeWhile_word_append hword hrest, takeWhile_word_append
      (function.isPlainWord_name.of_fold hspelled).2 hopening] at hruns
    subst hruns
    exact ⟨hstart, hspelled, List.append_cancel_left htext⟩
  · rintro ⟨hstart, hname, rfl⟩
    exact ⟨hstart, word, rfl, hname⟩

/-- Where no word starts nothing is found. -/
theorem RenamedFunction.pattern_eq_none (hrest : ∀ c ∈ rest.head?, isWordChar c = false) :
    function.pattern before rest = none := by
  rw [Option.eq_none_iff_forall_ne_some]
  intro found hfound
  have hmatch : function.pattern before ([] ++ rest) = some found := hfound
  rw [pattern_word_append_iff (by simp) hrest] at hmatch
  exact function.isPlainWord_name.1 hmatch.2.1.symm

theorem prefix_leadingMarks_iff {piece text : List Char}
    (hpiece : ∀ c ∈ piece, isWordChar c = false) :
    piece <+: leadingMarks text ↔ piece <+: text := by
  constructor
  · exact fun hprefix => hprefix.trans (List.takeWhile_prefix _)
  · rintro ⟨rest, rfl⟩
    rw [leadingMarks, List.takeWhile_append_of_pos (by simpa using hpiece)]
    exact List.prefix_append _ _

theorem renamed_singleton_of_isCalled {marks : List Char} (hcalls : function.IsCalled word marks) :
    renamed [function] word marks = function.newName := by
  simp [renamed, RenamedFunction.called?_eq_some_iff.mpr hcalls]

theorem renamed_singleton_of_not_isCalled {marks : List Char}
    (hcalls : ¬ function.IsCalled word marks) : renamed [function] word marks = word := by
  unfold renamed
  cases hcalled : RenamedFunction.called? word marks with
  | none => rfl
  | some other =>
      refine if_neg fun hmem => hcalls ?_
      rw [← List.mem_singleton.mp hmem]
      exact RenamedFunction.called?_eq_some_iff.mp hcalled

end Finding

/-! ## The rules as changes of words -/

section Rules

variable {function : RenamedFunction} {before : Option Char} {word : List Char}

/-- A rule with what is to be found in a text behind a character. -/
abbrev RenamedFunction.rewriteFrom (function : RenamedFunction) (before : Option Char)
    (text : List Char) : List Char :=
  function.pattern.replaceAfter (fun _ => function.replacement) 0 before text

theorem rewriteFrom_mark {c : Char} (hc : isWordChar c = false) (before : Option Char)
    (text : List Char) : function.rewriteFrom before (c :: text) =
      c :: function.rewriteFrom (some c) text := by
  rw [RenamedFunction.rewriteFrom, Pattern.replaceAfter,
    RenamedFunction.pattern_eq_none (by simpa using hc)]

theorem rewriteFrom_marks {marks : List Char} (hmarks : ∀ c ∈ marks, isWordChar c = false)
    (before : Option Char) (text : List Char) : function.rewriteFrom before (marks ++ text) =
      marks ++ function.rewriteFrom (marks.getLast?.or before) text := by
  apply Pattern.replaceAfter_append_of_none
  rintro left right rfl hne
  obtain ⟨c, right, rfl⟩ := List.exists_cons_of_ne_nil hne
  exact RenamedFunction.pattern_eq_none (by simpa using hmarks c (by simp))

/-- A word that calls the function is changed, and its opening stays. -/
theorem rewriteFrom_call (hbefore : atWordStart before = true)
    (hword : ∀ c ∈ word, isWordChar c = true) (hname : word.map simpleFold = function.name)
    (rest : List Char) : function.rewriteFrom before (word ++ (function.opening ++ rest)) =
      function.newName ++ function.rewriteFrom before (function.opening ++ rest) := by
  have hrest : ∀ c ∈ (function.opening ++ rest).head?, isWordChar c = false := by
    rw [List.head?_append_of_ne_nil _ function.opening_ne_nil]
    exact fun c hc => function.isWordChar_opening c (List.mem_of_mem_head? hc)
  have hmatch : function.pattern before (word ++ function.opening ++ rest) = some ((), rest) := by
    rw [List.append_assoc]
    exact (RenamedFunction.pattern_word_append_iff hword hrest).mpr ⟨hbefore, hname, rfl⟩
  have hne : word ++ function.opening ≠ [] := by simp [function.opening_ne_nil]
  rw [rewriteFrom_marks function.isWordChar_opening, ← List.append_assoc word,
    RenamedFunction.rewriteFrom, Pattern.replaceAfter_of_match _ hne hmatch,
    List.getLast?_append_of_ne_nil _ function.opening_ne_nil,
    ← List.append_assoc function.newName, ← function.replacement_eq]

/-- A word that does not call the function stays. -/
theorem rewriteFrom_word (hword : ∀ c ∈ word, isWordChar c = true) (rest : List Char)
    (hrest : ∀ c ∈ rest.head?, isWordChar c = false)
    (hcalls : ¬ function.IsCalled word (leadingMarks rest)) :
    function.rewriteFrom before (word ++ rest) =
      word ++ function.rewriteFrom (word.getLast?.or before) rest := by
  apply Pattern.replaceAfter_append_of_none
  rintro left right rfl hne
  rw [Option.eq_none_iff_forall_ne_some]
  intro found hfound
  have hright := fun c hc => hword c (List.mem_append_right left hc)
  obtain ⟨hstart, hname, htext⟩ :=
    (RenamedFunction.pattern_word_append_iff hright hrest).mp hfound
  rcases List.eq_nil_or_concat left with rfl | ⟨front, d, rfl⟩
  · refine hcalls ⟨hname, (prefix_leadingMarks_iff function.isWordChar_opening).mpr ?_⟩
    rw [htext]
    exact List.prefix_append _ _
  · -- Within a word no match starts.
    have hd := hword d (by simp)
    simp [atWordStart, hd] at hstart

/-- Behind a mark, or at the start of a text, a rule changes the words that call its function. -/
theorem rewriteFrom_eq_rewriteWordsFrom (hbefore : atWordStart before = true)
    (hword : ∀ c ∈ word, isWordChar c = true) (text : List Char) :
    function.rewriteFrom before (word ++ text) =
      rewriteWordsFrom (renamed [function]) word text := by
  induction text generalizing before word with
  | nil =>
      have hcalls : ¬ function.IsCalled word [] := fun hcalls =>
        function.opening_ne_nil (List.prefix_nil.mp hcalls.2)
      rw [rewriteFrom_word hword [] (by simp) hcalls, rewriteWordsFrom,
        renamed_singleton_of_not_isCalled hcalls]
      exact List.append_nil word
  | cons c text ih =>
      cases hc : isWordChar c with
      | true =>
          have hlonger : ∀ d ∈ word ++ [c], isWordChar d = true := by
            simpa [or_imp, forall_and, hc] using hword
          rw [rewriteWordsFrom_letter hc, ← ih hbefore hlonger, List.append_assoc]
          rfl
      | false =>
          have hrest : ∀ d ∈ (c :: text).head?, isWordChar d = false := by simpa using hc
          have hback : function.rewriteFrom (some c) text =
              rewriteWords (renamed [function]) text :=
            @ih (some c) [] (by simpa [atWordStart] using hc) (by simp)
          rw [rewriteWordsFrom_mark hc, ← hback]
          by_cases hcalls : function.IsCalled word (leadingMarks (c :: text))
          · obtain ⟨rest, htext⟩ :=
              (prefix_leadingMarks_iff function.isWordChar_opening).mp hcalls.2
            rw [renamed_singleton_of_isCalled hcalls, ← rewriteFrom_mark hc before, ← htext,
              rewriteFrom_call hbefore hword hcalls.1]
          · rw [renamed_singleton_of_not_isCalled hcalls, rewriteFrom_word hword _ hrest hcalls,
              rewriteFrom_mark hc]

theorem apply_rename (function : RenamedFunction) (sql : List Char) :
    (Adjustment.rename function).apply sql = rewriteWords (renamed [function]) sql := by
  have hwhole : function.rewriteFrom none ([] ++ sql) = rewriteWords (renamed [function]) sql :=
    rewriteFrom_eq_rewriteWordsFrom rfl (by simp) sql
  exact hwhole

theorem rewriteWords_renamed_nil (sql : List Char) : rewriteWords (renamed []) sql = sql := by
  have hfrom : ∀ word, rewriteWordsFrom (renamed []) word sql = word ++ sql := by
    induction sql with
    | nil =>
        intro word
        rw [rewriteWordsFrom, renamed_nil, List.append_nil]
    | cons c sql ih =>
        intro word
        rw [rewriteWordsFrom]
        split
        next => rw [ih, List.append_assoc]; rfl
        next => rw [renamed_nil, ih]; rfl
  exact hfrom []

/-- Rules one after the other change the words that call one of their functions. -/
theorem applyRenames_eq (functions : List RenamedFunction) (sql : List Char) :
    applyRenames functions sql = rewriteWords (renamed functions) sql := by
  induction functions generalizing sql with
  | nil => exact (rewriteWords_renamed_nil sql).symm
  | cons function functions ih =>
      have hchange : (fun word marks => renamed functions (renamed [function] word marks) marks) =
          renamed (function :: functions) := by
        funext word marks
        exact renamed_renamed [function] functions word marks
      calc applyRenames (function :: functions) sql
        _ = applyRenames functions ((Adjustment.rename function).apply sql) := rfl
        _ = rewriteWords (renamed functions) (rewriteWords (renamed [function]) sql) := by
            rw [ih, apply_rename]
        _ = rewriteWords (renamed (function :: functions)) sql := by
            rw [(keepsWords_renamed [function]).rewriteWords_rewriteWords, hchange]

/-- What a rule writes it does not find again. -/
theorem pattern_replacement_append (function : RenamedFunction) (before : Option Char)
    (rest : List Char) : function.pattern before (function.replacement ++ rest) = none := by
  rw [Option.eq_none_iff_forall_ne_some]
  intro found hfound
  have hrest : ∀ c ∈ (function.opening ++ rest).head?, isWordChar c = false := by
    rw [List.head?_append_of_ne_nil _ function.opening_ne_nil]
    exact fun c hc => function.isWordChar_opening c (List.mem_of_mem_head? hc)
  rw [function.replacement_eq, List.append_assoc] at hfound
  have hletters := fun c hc => (function.isPlainWord_newName.2 c hc).2
  have hname := ((RenamedFunction.pattern_word_append_iff hletters hrest).mp hfound).2.1
  exact function.map_simpleFold_newName_ne function hname

/-- What the rules of some functions make of a text. -/
structure Settles (functions : List RenamedFunction) (sql settled : List Char) : Prop where
  /-- The words that call one of the functions have changed, and nothing else. -/
  eq : settled = rewriteWords (renamed functions) sql
  /-- Nothing is left for the rules. -/
  done : ∀ function ∈ functions, function.pattern.occursIn settled = false

theorem applyRenames_settles (functions : List RenamedFunction) (sql : List Char) :
    Settles functions sql (applyRenames functions sql) := by
  refine ⟨applyRenames_eq functions sql, fun function hmem => ?_⟩
  have hagain : renamed (functions ++ [function]) = renamed functions :=
    renamed_congr fun other => by simpa using fun hother => hother ▸ hmem
  have hsame : (Adjustment.rename function).apply (applyRenames functions sql) =
      applyRenames functions sql := by
    have hstep : (Adjustment.rename function).apply (applyRenames functions sql) =
        applyRenames (functions ++ [function]) sql := by
      rw [applyRenames, applyRenames, List.foldl_append]
      rfl
    rw [hstep, applyRenames_eq, applyRenames_eq, hagain]
  have hnil : ∀ before, function.pattern before [] = none := fun _ =>
    RenamedFunction.pattern_eq_none (by simp)
  exact Pattern.not_occursIn_of_replaceAll_eq hnil
    (fun before _ rest => pattern_replacement_append function before rest) hsame

/-- Rules of the same functions settle a text in the same way, in whatever order and however often
they are applied, and find nothing in it any more. -/
theorem applyRenames_agree {functions others : List RenamedFunction}
    (hsame : ∀ function, function ∈ functions ↔ function ∈ others) (sql : List Char) :
    applyRenames functions sql = applyRenames others sql ∧
      Settles functions sql (applyRenames functions sql) := by
  refine ⟨?_, applyRenames_settles functions sql⟩
  rw [applyRenames_eq, applyRenames_eq, renamed_congr hsame]

/-- All three rules, once each and then in another order with repetitions. -/
theorem applyRenames_agree_nested :
    let sql := "SELECT NOW(), IfNull(\u017fubstr(a, 2), now()), xNOW(), NOW( ) FROM t".toList
    let once : List RenamedFunction := [.currentTime, .nullCoalesce, .substring]
    let again : List RenamedFunction :=
      [.substring, .substring, .nullCoalesce, .currentTime, .substring]
    (∀ function, function ∈ once ↔ function ∈ again) ∧
      applyRenames once sql = applyRenames again sql ∧
      applyRenames once sql =
        "SELECT GETDATE(), ISNULL(SUBSTRING(a, 2), GETDATE()), xNOW(), NOW( ) FROM t".toList := by
  intro sql once again
  have hsame : ∀ function, function ∈ once ↔ function ∈ again := by
    intro function
    cases function <;> decide
  exact ⟨hsame, (applyRenames_agree hsame sql).1, by decide +kernel⟩

end Rules

end QueryWarden.Sql
