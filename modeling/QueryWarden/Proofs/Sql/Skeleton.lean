import QueryWarden.Proofs.Text.Replacement
import QueryWarden.Proofs.Text.Trimming
import QueryWarden.Sql.Adaptation

/-!
# The delimiters of an adapted query

Adapting a query to a dialect leaves its delimiters alone: the parentheses, quotes and semicolons of
the result are those of the query, in the same order. Each rule is looked at on its own. A rule that
replaces matches is judged by one match: what is written must have the delimiters of what was read.
-/

namespace QueryWarden.Text

/-! ## The first match -/

namespace Pattern

variable {α : Type} {pattern : Pattern α}

/-- What is found first was found somewhere. -/
theorem exists_match_of_first {text : List Char} {found : α}
    (hfirst : pattern.first text = some found) :
    ∃ before back rest, pattern before back = some (found, rest) := by
  have hafter : ∀ before, pattern.firstAfter before text = some found →
      ∃ before back rest, pattern before back = some (found, rest) := by
    clear hfirst
    induction text with
    | nil =>
        intro before hfound
        obtain ⟨⟨_, rest⟩, hmatch, rfl⟩ := Option.map_eq_some_iff.mp hfound
        exact ⟨before, [], rest, hmatch⟩
    | cons c text ih =>
        intro before hfound
        rw [firstAfter] at hfound
        cases hmatch : pattern before (c :: text) with
        | none =>
            rw [hmatch] at hfound
            exact ih (some c) hfound
        | some part =>
            rw [hmatch] at hfound
            obtain rfl := Option.some.inj hfound
            exact ⟨before, _, part.2, hmatch⟩
  exact hafter none hfirst

end Pattern

/-! ## Pieces -/

theorem filter_joinWith {keep : Char → Bool} {separator : List Char}
    (hseparator : separator.filter keep = []) (pieces : List (List Char)) :
    (joinWith separator pieces).filter keep = pieces.flatMap (List.filter keep) := by
  induction pieces with
  | nil => rfl
  | cons piece pieces ih =>
      cases pieces with
      | nil => simp [joinWith]
      | cons next pieces =>
          have hjoin : joinWith separator (piece :: next :: pieces) =
              piece ++ separator ++ joinWith separator (next :: pieces) := rfl
          rw [hjoin, List.filter_append, List.filter_append, hseparator, ih, List.append_nil,
            List.flatMap_cons (x := piece)]

theorem flatMap_filter_splitWhere {keep cut : Char → Bool}
    (hcut : ∀ c, cut c = true → keep c = false) (text : List Char) :
    (splitWhere cut text).flatMap (List.filter keep) = text.filter keep := by
  induction text with
  | nil => rfl
  | cons c text ih =>
      rw [splitWhere, List.filter_cons]
      split
      next hc => rw [List.flatMap_cons, ih, hcut c hc]; rfl
      next =>
        split
        next hpieces =>
          rw [hpieces] at ih
          rw [List.flatMap_cons, List.flatMap_nil, List.append_nil, List.filter_cons, ← ih]
          rfl
        next piece pieces hpieces =>
          rw [hpieces, List.flatMap_cons] at ih
          rw [List.flatMap_cons, List.filter_cons, ← ih]
          split <;> rfl

theorem filter_trim {keep : Char → Bool} (hblank : ∀ c, isBlank c = true → keep c = false)
    (text : List Char) : (trim text).filter keep = text.filter keep := by
  obtain ⟨left, right, htext, hleft, hright, -, -⟩ := isTrimmed_trim text
  have hleft : left.filter keep = [] :=
    List.filter_eq_nil_iff.mpr fun c hc => by simp [hblank c (hleft c hc)]
  have hright : right.filter keep = [] :=
    List.filter_eq_nil_iff.mpr fun c hc => by simp [hblank c (hright c hc)]
  conv_rhs => rw [htext]
  rw [List.filter_append, List.filter_append, hleft, hright, List.nil_append, List.append_nil]

end QueryWarden.Text

namespace QueryWarden.Sql

open QueryWarden.Text

/-! ## Delimiters -/

/-- The parentheses, the quotes and the separator of statements. -/
def delimiters : List Char := ['(', ')', '\'', '"', ';']

/-- A parenthesis, a quote or the separator of statements. -/
def isDelimiter (c : Char) : Bool :=
  delimiters.contains c

/-- The delimiters of a text, in order. -/
def skeleton (text : List Char) : List Char :=
  text.filter isDelimiter

theorem skeleton_append (front back : List Char) :
    skeleton (front ++ back) = skeleton front ++ skeleton back :=
  List.filter_append ..

theorem skeleton_eq_nil_iff {text : List Char} :
    skeleton text = [] ↔ ∀ c ∈ text, isDelimiter c = false := by
  simp [skeleton, List.filter_eq_nil_iff]

/-- A class that has none of the delimiters is told from the five of them. -/
theorem not_isDelimiter_of {p : Char → Bool} (hnone : delimiters.all (fun c => !p c) = true)
    {c : Char} (hc : p c = true) : isDelimiter c = false := by
  rw [Bool.eq_false_iff]
  intro hdelimiter
  have hclear := List.all_eq_true.mp hnone c (List.contains_iff_mem.mp hdelimiter)
  rw [hc] at hclear
  exact absurd hclear (by decide)

theorem isDelimiter_of_isBlank {c : Char} (hblank : isBlank c = true) : isDelimiter c = false :=
  not_isDelimiter_of (by decide) hblank

theorem isDelimiter_of_isDecimalDigit {c : Char} (hdigit : isDecimalDigit c = true) :
    isDelimiter c = false :=
  not_isDelimiter_of (by decide) hdigit

/-- Case folding does not touch delimiters. -/
theorem simpleFold_of_isDelimiter {c : Char} (hc : isDelimiter c = true) : simpleFold c = c := by
  by_contra hfold
  have hclear := not_isDelimiter_of (p := fun c => simpleFold c != c) (by decide)
    (bne_iff_ne.mpr hfold)
  rw [hc] at hclear
  exact Bool.false_ne_true hclear.symm

/-- The text starts with something without delimiters, and `rest` is what follows. -/
def LeavesClear (text rest : List Char) : Prop :=
  ∃ front, text = front ++ rest ∧ skeleton front = []

theorem LeavesClear.trans {text middle rest : List Char} (hfirst : LeavesClear text middle)
    (hsecond : LeavesClear middle rest) : LeavesClear text rest := by
  obtain ⟨front, rfl, hfront⟩ := hfirst
  obtain ⟨back, rfl, hback⟩ := hsecond
  exact ⟨front ++ back, (List.append_assoc ..).symm, by rw [skeleton_append, hfront, hback]; rfl⟩

theorem LeavesClear.skeleton_eq {text rest : List Char} (hclear : LeavesClear text rest) :
    skeleton text = skeleton rest := by
  obtain ⟨front, rfl, hfront⟩ := hclear
  rw [skeleton_append, hfront, List.nil_append]

/-- A word as the rules look for it: ASCII without delimiters. -/
def IsClearWord (word : List Char) : Prop :=
  word ≠ [] ∧ ∀ letter ∈ word, letter.toNat < 128 ∧ isDelimiter letter = false

instance (word : List Char) : Decidable (IsClearWord word) :=
  decidable_of_iff
    ((!word.isEmpty && word.all fun letter =>
      decide (letter.toNat < 128) && !isDelimiter letter) = true)
    (by simp [IsClearWord])

/-- What reads as a word has no delimiters either. -/
theorem exists_of_dropWord {word text rest : List Char} (hword : IsClearWord word)
    (hdrop : dropWord word text = some rest) :
    ∃ spelled, text = spelled ++ rest ∧ spelled ≠ [] ∧ skeleton spelled = [] := by
  obtain ⟨spelled, rfl, hspelled⟩ :=
    (dropWord_eq_some_iff (fun letter hletter => (hword.2 letter hletter).1) text rest).mp hdrop
  refine ⟨spelled, rfl, ?_, ?_⟩
  · rintro rfl
    exact hword.1 hspelled.symm
  · refine skeleton_eq_nil_iff.mpr fun c hc => ?_
    by_contra hdelimiter
    rw [Bool.not_eq_false] at hdelimiter
    have hletter : c ∈ word := by
      rw [← hspelled, ← simpleFold_of_isDelimiter hdelimiter]
      exact List.mem_map_of_mem hc
    rw [(hword.2 c hletter).2] at hdelimiter
    exact Bool.false_ne_true hdelimiter

theorem leavesClear_of_dropWord {word text rest : List Char} (hword : IsClearWord word)
    (hdrop : dropWord word text = some rest) : LeavesClear text rest := by
  obtain ⟨spelled, htext, -, hspelled⟩ := exists_of_dropWord hword hdrop
  exact ⟨spelled, htext, hspelled⟩

theorem leavesClear_of_dropAnyWord {words : List (List Char)} {text rest : List Char}
    (hwords : ∀ word ∈ words, IsClearWord word) (hdrop : dropAnyWord words text = some rest) :
    LeavesClear text rest := by
  obtain ⟨word, hmem, hdrop⟩ := List.exists_of_findSome?_eq_some hdrop
  exact leavesClear_of_dropWord (hwords word hmem) hdrop

theorem leavesClear_dropBlanks (text : List Char) : LeavesClear text (dropBlanks text) := by
  refine ⟨text.takeWhile isBlank, List.takeWhile_append_dropWhile.symm, ?_⟩
  exact skeleton_eq_nil_iff.mpr fun c hc => isDelimiter_of_isBlank (List.mem_takeWhile_imp hc)

theorem leavesClear_of_dropSomeBlanks {text rest : List Char}
    (hdrop : dropSomeBlanks text = some rest) : LeavesClear text rest := by
  cases text with
  | nil => simp [dropSomeBlanks] at hdrop
  | cons c text =>
      obtain ⟨hc, hrest⟩ := Option.ite_none_right_eq_some.mp hdrop
      obtain rfl := Option.some.inj hrest
      have hblanks : dropBlanks (c :: text) = dropBlanks text := List.dropWhile_cons_of_pos hc
      rw [← hblanks]
      exact leavesClear_dropBlanks (c :: text)

theorem leavesClear_of_takeDigits {text digits rest : List Char}
    (htake : takeDigits text = some (digits, rest)) :
    LeavesClear text rest ∧ skeleton digits = [] := by
  have hclear : skeleton (text.takeWhile isDecimalDigit) = [] :=
    skeleton_eq_nil_iff.mpr fun c hc =>
      isDelimiter_of_isDecimalDigit (List.mem_takeWhile_imp hc)
  rw [takeDigits] at htake
  split at htake
  next => cases htake
  next =>
    obtain ⟨rfl, rfl⟩ := Prod.mk.inj (Option.some.inj htake)
    exact ⟨⟨_, List.takeWhile_append_dropWhile.symm, hclear⟩, hclear⟩

/-! ## Row limits -/

theorem exists_of_limitClause {before : Option Char} {text digits rest : List Char}
    (hmatch : limitClause before text = some (digits, rest)) :
    ∃ front, text = front ++ rest ∧ front ≠ [] ∧ skeleton front = [] ∧ skeleton digits = [] := by
  simp only [limitClause, Option.bind_eq_bind, Option.bind_eq_some_iff] at hmatch
  obtain ⟨-, -, afterWord, hword, afterGap, hgap, hdigits⟩ := hmatch
  obtain ⟨spelled, rfl, hne, hspelled⟩ := exists_of_dropWord (by decide) hword
  obtain ⟨hclear, hdigits⟩ := leavesClear_of_takeDigits hdigits
  obtain ⟨front, rfl, hfront⟩ := (leavesClear_of_dropSomeBlanks hgap).trans hclear
  refine ⟨spelled ++ front, (List.append_assoc ..).symm, ?_, ?_, hdigits⟩
  · exact List.append_ne_nil_of_left_ne_nil hne front
  · rw [skeleton_append, hspelled, hfront, List.nil_append]

theorem bareLimit_preserves : bareLimit.Preserves (fun _ => []) isDelimiter := by
  intro before text digits rest hmatch
  cases text with
  | nil => cases hmatch
  | cons c text =>
      obtain ⟨front, htext, hne, hfront, -⟩ := exists_of_limitClause hmatch
      obtain ⟨blanks, hblanks, hclear⟩ := leavesClear_dropBlanks (c :: text)
      refine ⟨blanks ++ front, ?_, List.append_ne_nil_of_right_ne_nil blanks hne, ?_⟩
      · rw [hblanks, htext, List.append_assoc]
      · exact (skeleton_append ..).trans (by rw [hclear, hfront]; rfl)

theorem skeleton_of_bareLimit {before : Option Char} {text digits rest : List Char}
    (hmatch : bareLimit before text = some (digits, rest)) : skeleton digits = [] := by
  cases text with
  | nil => cases hmatch
  | cons c text =>
      obtain ⟨-, -, -, -, hdigits⟩ := exists_of_limitClause hmatch
      exact hdigits

theorem skeleton_between {left middle right : List Char} (hleft : skeleton left = [])
    (hmiddle : skeleton middle = []) (hright : skeleton right = []) (first second : List Char) :
    skeleton (left ++ first ++ middle ++ second ++ right) = skeleton first ++ skeleton second := by
  simp only [skeleton_append, hleft, hmiddle, hright, List.nil_append, List.append_nil]

theorem skeleton_fetchClause (counts : List Char × List Char) :
    skeleton (fetchClause counts) = skeleton counts.2 ++ skeleton counts.1 :=
  skeleton_between (by decide) (by decide) (by decide) ..

theorem limitOffset_preserves : limitOffset.Preserves fetchClause isDelimiter := by
  rintro before text ⟨limit, offset⟩ rest hmatch
  simp only [limitOffset, Option.bind_eq_bind, Option.bind_eq_some_iff] at hmatch
  obtain ⟨⟨count, afterCount⟩, hlimit, afterGap, hgap, afterWord, hword, afterBlanks, hblanks,
    ⟨skipped, afterSkipped⟩, hoffset, hfound⟩ := hmatch
  simp only [Option.some.injEq, Prod.mk.injEq] at hfound
  obtain ⟨⟨rfl, rfl⟩, rfl⟩ := hfound
  obtain ⟨front, rfl, hne, hfront, hcount⟩ := exists_of_limitClause hlimit
  obtain ⟨hdigits, hskipped⟩ := leavesClear_of_takeDigits hoffset
  obtain ⟨back, rfl, hback⟩ := (leavesClear_of_dropSomeBlanks hgap).trans
    ((leavesClear_of_dropWord (by decide) hword).trans
      ((leavesClear_of_dropSomeBlanks hblanks).trans hdigits))
  refine ⟨front ++ back, (List.append_assoc ..).symm,
    List.append_ne_nil_of_left_ne_nil hne back, ?_⟩
  change skeleton (front ++ back) = skeleton (fetchClause (count, skipped))
  rw [skeleton_append, hfront, hback, skeleton_fetchClause, hcount, hskipped]

theorem leavesClear_of_dropLeadingSelect {text rest : List Char}
    (hdrop : dropLeadingSelect text = some rest) : LeavesClear text rest := by
  rw [dropLeadingSelect] at hdrop
  split at hdrop
  next found hword =>
    obtain ⟨-, hrest⟩ := Option.ite_none_right_eq_some.mp hdrop
    obtain rfl := Option.some.inj hrest
    exact leavesClear_of_dropWord (by decide) hword
  next => cases hdrop

theorem skeleton_adjustPagination (sql : List Char) :
    skeleton (adjustPagination sql) = skeleton sql := by
  have hstripped : skeleton (trim (bareLimit.replaceAll (fun _ => []) sql)) = skeleton sql :=
    (filter_trim (fun _ => isDelimiter_of_isBlank) _).trans
      (bareLimit_preserves.filter_replaceAll sql)
  rw [adjustPagination]
  split
  · exact limitOffset_preserves.filter_replaceAll sql
  · split
    · rfl
    next limit hlimit =>
      obtain ⟨_, _, _, hmatch⟩ := Pattern.exists_match_of_first hlimit
      split
      · rfl
      · dsimp only
        split
        next rest hrest =>
          rw [← hstripped, (leavesClear_of_dropLeadingSelect hrest).skeleton_eq, skeleton_append,
            skeleton_append, skeleton_of_bareLimit hmatch]
          rfl
        next => exact hstripped

/-! ## Calls -/

/-- A renamed call has the delimiters of the call. -/
theorem callOf_preserves {name opening replacement : List Char} (hname : IsClearWord name)
    (hsame : skeleton replacement = skeleton opening) :
    (callOf name opening).Preserves (fun _ => replacement) isDelimiter := by
  intro before text found rest hmatch
  simp only [callOf, Option.bind_eq_bind, Option.bind_eq_some_iff] at hmatch
  obtain ⟨-, -, afterName, hdrop, afterOpening, hopening, hfound⟩ := hmatch
  simp only [Option.some.injEq, Prod.mk.injEq] at hfound
  obtain ⟨-, rfl⟩ := hfound
  obtain ⟨spelled, rfl, hne, hspelled⟩ := exists_of_dropWord hname hdrop
  rw [dropExact_eq_some_iff] at hopening
  subst hopening
  refine ⟨spelled ++ opening, (List.append_assoc ..).symm,
    List.append_ne_nil_of_left_ne_nil hne opening, ?_⟩
  exact (skeleton_append ..).trans (by rw [hspelled, List.nil_append]; exact hsame.symm)

theorem RenamedFunction.pattern_preserves (function : RenamedFunction) :
    function.pattern.Preserves (fun _ => function.replacement) isDelimiter := by
  cases function <;> exact callOf_preserves (by decide) (by decide)

/-- What an argument leaves out are blanks and the parenthesis that ends it. -/
theorem skeleton_of_takeArgument {text argument rest : List Char}
    (htake : takeArgument text = some (argument, rest)) :
    ∃ front, text = front ++ ')' :: rest ∧ skeleton front = skeleton argument := by
  have hcut : text = text.takeWhile isBlank ++ ((text.dropWhile isBlank).takeWhile (· != ')') ++
      (text.dropWhile isBlank).dropWhile (· != ')')) := by
    rw [List.takeWhile_append_dropWhile, List.takeWhile_append_dropWhile]
  have hclear : ∀ c ∈ text.takeWhile isBlank, isDelimiter c = false :=
    fun c hc => isDelimiter_of_isBlank (List.mem_takeWhile_imp hc)
  have hblanks : skeleton (text.takeWhile isBlank) = [] := skeleton_eq_nil_iff.mpr hclear
  rw [takeArgument] at htake
  split at htake
  next => cases htake
  next c after hafter =>
    obtain rfl := eq_of_dropWhile_ne hafter
    rw [hafter, ← List.append_assoc] at hcut
    split at htake
    next hargument _ =>
      obtain ⟨rfl, rfl⟩ := Prod.mk.inj (Option.some.inj htake)
      refine ⟨_, hcut, ?_⟩
      rw [skeleton_append, hblanks, hargument, List.nil_append]
    next second _ hargument hread =>
      -- Nothing but blanks stands there, and the last of them is the argument.
      obtain ⟨rfl, rfl⟩ := Prod.mk.inj (Option.some.inj htake)
      refine ⟨_, hcut, ?_⟩
      rw [skeleton_append, hblanks, hargument]
      refine (skeleton_eq_nil_iff.mpr fun c hc => ?_).symm
      rw [List.mem_singleton.mp hc]
      refine hclear _ ?_
      rw [hread]
      exact List.mem_cons_of_mem _ (List.getLast_mem _)
    next => cases htake

theorem extractCall_preserves : extractCall.Preserves datePartCall isDelimiter := by
  rintro before text ⟨part, argument⟩ rest hmatch
  simp only [extractCall, Option.bind_eq_bind, Option.bind_eq_some_iff] at hmatch
  obtain ⟨-, -, afterName, hname, afterOpening, hopening, afterPart, hpart, afterGap, hgap,
    afterFrom, hfrom, ⟨taken, afterTaken⟩, htake, hfound⟩ := hmatch
  simp only [Option.some.injEq, Prod.mk.injEq] at hfound
  obtain ⟨⟨rfl, rfl⟩, rfl⟩ := hfound
  obtain ⟨spelled, rfl, hne, hspelled⟩ := exists_of_dropWord (by decide) hname
  rw [dropChar_eq_some_iff] at hopening
  subst hopening
  obtain ⟨blanks, hblanks, hblanksClear⟩ := leavesClear_dropBlanks afterOpening
  obtain ⟨word, hword, hwordClear⟩ := leavesClear_of_dropAnyWord (by decide) hpart
  obtain ⟨gap, rfl, hgapClear⟩ := (leavesClear_of_dropSomeBlanks hgap).trans
    (leavesClear_of_dropWord (by decide) hfrom)
  obtain ⟨front, rfl, hfront⟩ := skeleton_of_takeArgument htake
  -- The part as written is the word that was read.
  have hwritten : (dropBlanks afterOpening).take ((dropBlanks afterOpening).length -
      (gap ++ (front ++ ')' :: afterTaken)).length) = word := by
    rw [hword, List.length_append, Nat.add_sub_cancel, List.take_left]
  rw [hwritten]
  refine ⟨spelled ++ '(' :: (blanks ++ word ++ gap ++ front) ++ [')'], ?_, ?_, ?_⟩
  · rw [hblanks, hword]
    simp
  · simp
  · change skeleton _ = skeleton (word ++ '(' :: taken ++ [')'])
    have hcons : ∀ back, skeleton ('(' :: back) = '(' :: skeleton back := fun _ => rfl
    simp only [skeleton_append, hcons, hspelled, hblanksClear, hwordClear, hgapClear, hfront,
      List.nil_append]

theorem skeleton_sumOfArguments (inner : List Char) :
    skeleton (sumOfArguments inner) = '(' :: skeleton inner ++ [')'] := by
  have hpieces : ((splitWhere (· == ',') inner).map trim).flatMap (List.filter isDelimiter) =
      inner.filter isDelimiter := by
    rw [List.flatMap_map]
    simp only [filter_trim fun c => isDelimiter_of_isBlank]
    exact flatMap_filter_splitWhere (fun c hc => by rw [beq_iff_eq.mp hc]; rfl) inner
  change skeleton (['('] ++ _ ++ [')']) = _
  rw [skeleton_append, skeleton_append, skeleton, skeleton, filter_joinWith (by decide), hpieces]
  rfl

theorem concatCall_preserves : concatCall.Preserves sumOfArguments isDelimiter := by
  intro before text inner rest hmatch
  simp only [concatCall, Option.bind_eq_bind, Option.bind_eq_some_iff] at hmatch
  obtain ⟨-, -, afterName, hname, afterOpening, hopening, hfound⟩ := hmatch
  obtain ⟨spelled, rfl, hne, hspelled⟩ := exists_of_dropWord (by decide) hname
  rw [dropChar_eq_some_iff] at hopening
  subst hopening
  split at hfound
  next c read d after hread hafter =>
    obtain ⟨rfl, rfl⟩ := Prod.mk.inj (Option.some.inj hfound)
    obtain rfl := eq_of_dropWhile_ne hafter
    have hcut : afterOpening = (c :: read) ++ ')' :: after := by
      rw [← hread, ← hafter, List.takeWhile_append_dropWhile]
    refine ⟨spelled ++ '(' :: (c :: read) ++ [')'], ?_, by simp, ?_⟩
    · rw [hcut]
      simp
    · change skeleton _ = skeleton _
      rw [skeleton_sumOfArguments, skeleton_append, skeleton_append, hspelled]
      rfl
  next => cases hfound

theorem skeleton_alternateBrackets (inside : Bool) (text : List Char) :
    skeleton (alternateBrackets inside text) = skeleton text := by
  induction text generalizing inside with
  | nil => rfl
  | cons c text ih =>
      rw [alternateBrackets]
      split
      next hc =>
        subst hc
        cases inside <;> exact ih _
      next =>
        simp only [skeleton, List.filter_cons] at ih ⊢
        rw [ih]

/-! ## Rules -/

/-- No rule adds, drops or moves a delimiter. -/
theorem Adjustment.skeleton_apply (rule : Adjustment) (text : List Char) :
    skeleton (rule.apply text) = skeleton text := by
  cases rule with
  | pagination => exact skeleton_adjustPagination text
  | rename function => exact function.pattern_preserves.filter_replaceAll text
  | extractDatePart => exact extractCall_preserves.filter_replaceAll text
  | concatToPlus => exact concatCall_preserves.filter_replaceFirst text
  | backtickToBracket => exact skeleton_alternateBrackets false text

theorem skeleton_foldl_apply (rules : List Adjustment) (text : List Char) :
    skeleton (rules.foldl (fun text rule => rule.apply text) text) = skeleton text := by
  induction rules generalizing text with
  | nil => rfl
  | cons rule rules ih => exact (ih (rule.apply text)).trans (rule.skeleton_apply text)

/-- How many parentheses are open behind a text that starts inside of `depth` of them, if none is
closed that is not open. -/
def openParentheses : Nat → List Char → Option Nat
  | depth, [] => some depth
  | depth, c :: text =>
      if c = '(' then openParentheses (depth + 1) text
      else if c = ')' then
        match depth with
        | 0 => none
        | depth + 1 => openParentheses depth text
      else openParentheses depth text

/-- Each parenthesis that is opened is closed later, and none is closed that is not open. -/
def IsBalanced (text : List Char) : Prop :=
  openParentheses 0 text = some 0

theorem openParentheses_skeleton (depth : Nat) (text : List Char) :
    openParentheses depth (skeleton text) = openParentheses depth text := by
  induction text generalizing depth with
  | nil => rfl
  | cons c text ih =>
      by_cases hopen : c = '('
      · subst hopen
        exact ih (depth + 1)
      by_cases hclose : c = ')'
      · subst hclose
        cases depth with
        | zero => rfl
        | succ depth => exact ih depth
      · have hpass : ∀ rest, openParentheses depth (c :: rest) = openParentheses depth rest :=
          fun rest => by simp [openParentheses, hopen, hclose]
        rw [hpass, ← ih depth, skeleton, List.filter_cons]
        split
        · exact hpass _
        · rfl

/-- Two texts have the same delimiters in the same order, so one is balanced if the other is, and
each delimiter stands in both equally often. -/
structure SameDelimiters (text other : List Char) : Prop where
  skeleton_eq : skeleton other = skeleton text
  isBalanced_iff : IsBalanced other ↔ IsBalanced text
  count_eq : ∀ c, isDelimiter c = true → other.count c = text.count c

theorem sameDelimiters_of_skeleton_eq {text other : List Char}
    (hskeleton : skeleton other = skeleton text) : SameDelimiters text other where
  skeleton_eq := hskeleton
  isBalanced_iff := by
    rw [IsBalanced, IsBalanced, ← openParentheses_skeleton, hskeleton, openParentheses_skeleton]
  count_eq c hc := by
    rw [← List.count_filter hc, ← List.count_filter hc (l := text)]
    exact congrArg (List.count c) hskeleton

/-- A query that is adapted to a dialect keeps its delimiters, and so it does under each rule on
its own. -/
theorem adapt_sameDelimiters (sql : String) :
    (∀ dialect, SameDelimiters sql.toList (adapt sql dialect).toList) ∧
      ∀ rule : Adjustment, SameDelimiters sql.toList (rule.apply sql.toList) := by
  refine ⟨fun dialect => sameDelimiters_of_skeleton_eq ?_,
    fun rule => sameDelimiters_of_skeleton_eq (rule.skeleton_apply sql.toList)⟩
  rw [adapt, String.toList_ofList]
  exact skeleton_foldl_apply (adjustments dialect) sql.toList

end QueryWarden.Sql
