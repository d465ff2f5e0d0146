import QueryWarden.Proofs.Sql.SelectInto
import QueryWarden.Proofs.Text.Readers

/-!
# How the dangerous constructs are read

Every construct of the ban starts where a word may start and is read part by part. A change of the
text that none of these parts notices, the case of letters or a blank at the end, is noticed by no
construct either.
-/

namespace QueryWarden.Sql

open QueryWarden.Text

/-! ## Parts -/

/-- Reads nothing, where a word may end. -/
def readWordEnd : Reader := fun text =>
  if atWordEnd text then some text else none

/-- Reads what is left of a word. -/
def skipWord : Reader := fun text => some (text.dropWhile isWordChar)

/-- Reads one character of a class. -/
def readOne (p : Char → Bool) : Reader
  | [] => none
  | c :: text => if p c then some text else none

/-- Reads the rest of a quoted identifier that looks like a path. -/
def readPath : Reader := fun text =>
  if (text.takeWhile (· != '"')).any isPathChar then
    dropChar '"' (text.dropWhile (· != '"'))
  else none

/-- Reads the first of the names that is called here, up to the opening parenthesis. -/
def readCall (names : List (List Char)) : Reader := fun text =>
  names.findSome? fun name => (dropWord name text).bind dropOpening

theorem dropChar_eq_readOne (wanted : Char) : dropChar wanted = readOne (· == wanted) := by
  funext text
  cases text <;> simp [dropChar, readOne]

theorem isSolid_dropWord {word : List Char} (hword : IsPlainWord word) :
    IsSolid (dropWord word) := by
  obtain ⟨letter, word, rfl⟩ := List.exists_cons_of_ne_nil hword.1
  have hletter := hword.2 letter List.mem_cons_self
  intro text hblank
  cases text with
  | nil => rfl
  | cons c text =>
      have hc := isWordChar_of_isBlank (hblank c rfl)
      have hfold : foldsTo letter c = false := by
        rw [Bool.eq_false_iff, Ne, foldsTo_iff hletter.1]
        rintro rfl
        rw [isWordChar_simpleFold, hc] at hletter
        exact Bool.false_ne_true hletter.2
      simp [dropWord, hfold]

theorem isSolid_readOne {p : Char → Bool} (hp : ∀ c, isBlank c = true → p c = false) :
    IsSolid (readOne p) := by
  intro text hblank
  cases text with
  | nil => rfl
  | cons c text => simp [readOne, hp c (hblank c rfl)]

theorem isSolid_readCall {names : List (List Char)} (hnames : ∀ name ∈ names, IsPlainWord name) :
    IsSolid (readCall names) :=
  IsSolid.findSome? fun name hname => (isSolid_dropWord (hnames name hname)).bind

theorem dropWord_append (front back text : List Char) :
    dropWord (front ++ back) text = (dropWord front text).bind (dropWord back) := by
  induction front generalizing text with
  | nil => rfl
  | cons letter front ih =>
      cases text with
      | nil => rfl
      | cons c text =>
          simp only [List.cons_append, dropWord, ih]
          split <;> rfl

/-! ## The constructs -/

/-- What is read of a result written to a file. -/
def readIntoFile (target : List Char) : Reader := fun text =>
  (dropWord "into".toList text).bind fun text =>
    (dropSomeBlanks text).bind fun text => (dropWord target text).bind readWordEnd

/-- What is read of a call of any function whose name starts with `stem`. -/
def readStemCall (stem : List Char) : Reader := fun text =>
  (dropWord stem text).bind fun text => (skipWord text).bind dropOpening

/-- What is read of a table source that goes on with `read` behind its blanks. -/
def readSource (read : Reader) : Reader := fun text =>
  (dropAnyWord ["from".toList, "join".toList] text).bind fun text =>
    (dropSomeBlanks text).bind read

/-- What is read of a result sent into a new table. -/
def readIntoTarget : Reader := fun text =>
  (dropWord "into".toList text).bind fun text => (dropSomeBlanks text).bind (readOne startsTarget)

theorem wordStarting_eq (read : Reader) (before : Option Char) (text : List Char) :
    wordStarting read before text =
      (guard (atWordStart before) : Option Unit).bind fun _ =>
        (read text).bind fun rest => some ((), rest) := by
  unfold wordStarting
  cases atWordStart before <;> simp [guard, Option.map_eq_bind]

theorem wholeWord_eq (word : List Char) :
    wholeWord word = wordStarting fun text => (dropWord word text).bind readWordEnd := by
  funext before text
  unfold wholeWord wordStarting readWordEnd
  dsimp only
  cases dropWord word text with
  | none => rfl
  | some rest => cases hend : atWordEnd rest <;> simp [hend]

theorem intoFile_eq (target : List Char) :
    intoFile target = wordStarting (readIntoFile target) := by
  have hend : ∀ rest, (readWordEnd rest).bind (fun rest => some ((), rest)) =
      if atWordEnd rest then some ((), rest) else none := by
    intro rest
    rw [readWordEnd]
    split <;> rfl
  funext before text
  simp only [intoFile, wordStarting_eq, readIntoFile, Option.bind_eq_bind, Option.bind_assoc, hend]

theorem callWithStem_eq (stem : List Char) :
    callWithStem stem = wordStarting (readStemCall stem) := by
  funext before text
  simp only [callWithStem, wordStarting_eq, readStemCall, skipWord, Option.bind_eq_bind,
    Option.bind_assoc, Option.bind_some]

/-- The stem and the ending are read as one word. -/
theorem callAmong_eq (stem : List Char) (endings : List (List Char)) :
    callAmong stem endings = wordStarting (readCall (endings.map (stem ++ ·))) := by
  have hcall : ∀ text, readCall (endings.map (stem ++ ·)) text =
      (dropWord stem text).bind fun rest =>
        endings.findSome? fun ending => (dropWord ending rest).bind dropOpening := by
    intro text
    simp only [readCall, List.findSome?_map, Function.comp_def, dropWord_append]
    cases dropWord stem text with
    | none => exact List.findSome?_eq_none_iff.mpr fun _ _ => rfl
    | some rest => rfl
  funext before text
  simp only [callAmong, wordStarting_eq, hcall, Option.bind_eq_bind, Option.bind_assoc]

theorem quotedPathSource_eq : quotedPathSource = wordStarting (readSource (dropChar '\'')) := by
  funext before text
  simp only [quotedPathSource, wordStarting_eq, readSource, dropTableSource, Option.bind_eq_bind,
    Option.bind_assoc]

theorem pathIdentifierSource_eq :
    pathIdentifierSource =
      wordStarting (readSource fun text => (dropChar '"' text).bind readPath) := by
  have hpath : ∀ rest, (readPath rest).bind (fun rest => some ((), rest)) =
      if (rest.takeWhile (· != '"')).any isPathChar then
        (dropChar '"' (rest.dropWhile (· != '"'))).bind fun rest => some ((), rest)
      else none := by
    intro rest
    rw [readPath]
    split <;> rfl
  funext before text
  simp only [pathIdentifierSource, wordStarting_eq, readSource, dropTableSource,
    Option.bind_eq_bind, Option.bind_assoc, hpath]

theorem intoTarget_eq : intoTarget = wordStarting readIntoTarget := by
  funext before text
  simp only [intoTarget, wordStarting_eq, readIntoTarget, Option.bind_eq_bind, Option.bind_assoc]
  refine Option.bind_congr fun _ _ => Option.bind_congr fun _ _ =>
    Option.bind_congr fun rest _ => ?_
  cases rest with
  | nil => rfl
  | cons c rest => cases hc : startsTarget c <;> simp [readOne, hc]

/-! ## Changes that are not noticed -/

/-- A change of the text that no part of a construct notices. -/
structure IsUnnoticed (change : List Char → List Char) : Prop where
  word : ∀ {word}, IsPlainWord word → Commutes (dropWord word) change
  wordEnd : Commutes readWordEnd change
  skipWord : Commutes skipWord change
  path : Commutes readPath change
  one : ∀ {p : Char → Bool}, (∀ c : Char, p c.toLower = p c) →
    (∀ c, isBlank c = true → p c = false) → Commutes (readOne p) change
  blanks : ∀ {read}, IsSolid read → Commutes read change →
    Commutes (fun text => read (dropBlanks text)) change
  someBlanks : ∀ {read}, IsSolid read → Commutes read change →
    Commutes (fun text => (dropSomeBlanks text).bind read) change

theorem readOne_asciiLower {p : Char → Bool} (hp : ∀ c : Char, p c.toLower = p c) :
    Commutes (readOne p) asciiLower := by
  intro text
  cases text with
  | nil => rfl
  | cons c text =>
      simp only [asciiLower, List.map_cons, readOne, hp]
      split <;> rfl

theorem readPath_asciiLower : Commutes readPath asciiLower := by
  have hquote : ∀ c : Char, (c.toLower != '"') = (c != '"') := by
    intro c
    simp only [bne, Bool.beq_eq_decide_eq, toLower_eq_iff (d := '"') (by decide)]
  have hpath : (isPathChar ∘ Char.toLower) = isPathChar := by
    funext c
    simp only [Function.comp_apply, isPathChar, Bool.beq_eq_decide_eq,
      toLower_eq_iff (d := '.') (by decide), toLower_eq_iff (d := '/') (by decide),
      toLower_eq_iff (d := '\\') (by decide)]
  intro text
  have hany : (asciiLower (text.takeWhile (· != '"'))).any isPathChar =
      (text.takeWhile (· != '"')).any isPathChar := by
    rw [asciiLower, List.any_map, hpath]
  rw [readPath, readPath, takeWhile_asciiLower hquote, dropWhile_asciiLower hquote, hany]
  split
  · rw [dropChar_eq_readOne]
    exact readOne_asciiLower (fun c => by rw [← Bool.not_inj_iff]; exact hquote c) _
  · rfl

theorem isUnnoticed_asciiLower : IsUnnoticed asciiLower where
  word _ := dropWord_asciiLower _
  wordEnd text := by
    have hend : atWordEnd (asciiLower text) = atWordEnd text := by
      cases text <;> simp [atWordEnd, asciiLower, isWordChar_toLower]
    rw [readWordEnd, readWordEnd, hend]
    split <;> rfl
  skipWord text := congrArg some (dropWhile_asciiLower isWordChar_toLower text)
  path := readPath_asciiLower
  one hp _ := readOne_asciiLower hp
  blanks _ hread text := by
    have hblanks : dropBlanks (asciiLower text) = asciiLower (dropBlanks text) :=
      dropWhile_asciiLower isBlank_toLower text
    simp only [hblanks]
    exact hread _
  someBlanks _ hread := dropSomeBlanks_asciiLower.bind hread

/-- Without its closing quote an identifier is not read, and a blank closes nothing. -/
theorem readPath_concat {c : Char} (hc : isBlank c = true) : Commutes readPath (· ++ [c]) := by
  have hne : c ≠ '"' := by
    rintro rfl
    exact absurd hc (by decide)
  intro text
  by_cases hmem : '"' ∈ text
  · obtain ⟨front, back, rfl, hfront⟩ := List.eq_append_cons_of_mem hmem
    have hclear := forall_bne_of_notMem hfront
    have htake : ∀ back, (front ++ '"' :: back).takeWhile (· != '"') = front := by
      intro back
      rw [List.takeWhile_append_of_pos hclear]
      simp
    have hdrop : ∀ back, (front ++ '"' :: back).dropWhile (· != '"') = '"' :: back :=
      dropWhile_append_of_forall hclear rfl
    simp only [readPath, List.append_assoc, List.cons_append, htake, hdrop, dropChar, if_true]
    split <;> rfl
  · have hmem' : '"' ∉ text ++ [c] := by
      simpa [hmem] using Ne.symm hne
    simp only [readPath, dropWhile_ne_of_not_mem hmem, dropWhile_ne_of_not_mem hmem', dropChar,
      ite_self, Option.map_none]

/-- A blank at the end is read as a blank only where the end would be reached without it. -/
theorem isUnnoticed_concat {c : Char} (hc : isBlank c = true) : IsUnnoticed (· ++ [c]) where
  word hword text := dropWord_append_cons hword.2 (isWordChar_of_isBlank hc) text []
  wordEnd text := by
    have hend : atWordEnd (text ++ [c]) = atWordEnd text := by
      cases text <;> simp [atWordEnd, isWordChar_of_isBlank hc]
    rw [readWordEnd, readWordEnd, hend]
    split <;> rfl
  skipWord text := congrArg some (dropWhile_append_cons (isWordChar_of_isBlank hc) text [])
  path := readPath_concat hc
  one hp hblank text := by
    cases text with
    | nil => simp [readOne, hblank c hc]
    | cons d text =>
        simp only [List.cons_append, readOne]
        split <;> rfl
  blanks hsolid hread := commutes_dropBlanks_concat hsolid hc hread
  someBlanks hsolid hread := commutes_dropSomeBlanks_concat hsolid hc hread

/-! ## The table of constructs -/

/-- What a construct reads has a reader that takes nothing off a blank and notices none of the
changes. -/
def IsSteady (construct : Pattern Unit) : Prop :=
  ∃ read, construct = wordStarting read ∧ IsSolid read ∧
    ∀ {change}, IsUnnoticed change → Commutes read change

theorem isSteady_wholeWord {word : List Char} (hword : IsPlainWord word) :
    IsSteady (wholeWord word) :=
  ⟨_, wholeWord_eq word, (isSolid_dropWord hword).bind,
    fun hchange => (hchange.word hword).bind hchange.wordEnd⟩

theorem isSteady_intoFile {target : List Char} (htarget : IsPlainWord target) :
    IsSteady (intoFile target) := by
  have hinto : IsPlainWord "into".toList := by decide
  refine ⟨_, intoFile_eq target, (isSolid_dropWord hinto).bind, fun hchange => ?_⟩
  exact (hchange.word hinto).bind (hchange.someBlanks (isSolid_dropWord htarget).bind
    ((hchange.word htarget).bind hchange.wordEnd))

theorem isSolid_dropChar {wanted : Char} (hwanted : isBlank wanted = false) :
    IsSolid (dropChar wanted) := by
  rw [dropChar_eq_readOne]
  refine isSolid_readOne fun c hc => beq_eq_false_iff_ne.mpr ?_
  rintro rfl
  exact Bool.false_ne_true (hwanted.symm.trans hc)

theorem IsUnnoticed.dropChar {change : List Char → List Char} (hchange : IsUnnoticed change)
    {wanted : Char} (halpha : wanted.isAlpha = false) (hwanted : isBlank wanted = false) :
    Commutes (dropChar wanted) change := by
  rw [dropChar_eq_readOne]
  refine hchange.one (fun c => ?_) fun c hc => beq_eq_false_iff_ne.mpr ?_
  · simp only [Bool.beq_eq_decide_eq, toLower_eq_iff halpha]
  · rintro rfl
    exact Bool.false_ne_true (hwanted.symm.trans hc)

theorem IsUnnoticed.dropOpening {change : List Char → List Char} (hchange : IsUnnoticed change) :
    Commutes dropOpening change :=
  hchange.blanks (isSolid_dropChar (by decide)) (hchange.dropChar (by decide) (by decide))

theorem isSteady_callWithStem {stem : List Char} (hstem : IsPlainWord stem) :
    IsSteady (callWithStem stem) :=
  ⟨_, callWithStem_eq stem, (isSolid_dropWord hstem).bind, fun hchange =>
    (hchange.word hstem).bind (hchange.skipWord.bind hchange.dropOpening)⟩

theorem isSteady_callAmong {stem : List Char} {endings : List (List Char)}
    (hnames : ∀ name ∈ endings.map (stem ++ ·), IsPlainWord name) :
    IsSteady (callAmong stem endings) :=
  ⟨_, callAmong_eq stem endings, isSolid_readCall hnames, fun hchange =>
    Commutes.findSome? fun name hname =>
      (hchange.word (hnames name hname)).bind hchange.dropOpening⟩

theorem isSteady_source {construct : Pattern Unit} {read : Reader}
    (hconstruct : construct = wordStarting (readSource read)) (hsolid : IsSolid read)
    (hread : ∀ {change}, IsUnnoticed change → Commutes read change) : IsSteady construct := by
  have hwords : ∀ word ∈ ["from".toList, "join".toList], IsPlainWord word := by decide
  refine ⟨_, hconstruct, ?_, fun hchange => ?_⟩
  · exact (IsSolid.findSome? fun word hword => isSolid_dropWord (hwords word hword)).bind
  · exact (Commutes.findSome? fun word hword => hchange.word (hwords word hword)).bind
      (hchange.someBlanks hsolid (hread hchange))

theorem isSteady_quotedPathSource : IsSteady quotedPathSource :=
  isSteady_source quotedPathSource_eq (isSolid_dropChar (by decide))
    fun hchange => hchange.dropChar (by decide) (by decide)

theorem isSteady_pathIdentifierSource : IsSteady pathIdentifierSource :=
  isSteady_source pathIdentifierSource_eq (isSolid_dropChar (by decide)).bind
    fun hchange => (hchange.dropChar (by decide) (by decide)).bind hchange.path

theorem isSteady_of_mem {construct : Pattern Unit} (hmem : construct ∈ dangerousConstructs) :
    IsSteady construct := by
  have htable : ∀ construct ∈ dangerousConstructs, IsSteady construct := by
    simp only [dangerousConstructs, List.forall_mem_cons, List.not_mem_nil, false_implies,
      implies_true, and_true]
    refine ⟨isSteady_intoFile ?_, isSteady_intoFile ?_, isSteady_wholeWord ?_,
      isSteady_wholeWord ?_, isSteady_wholeWord ?_, isSteady_wholeWord ?_, isSteady_wholeWord ?_,
      isSteady_wholeWord ?_, isSteady_wholeWord ?_, isSteady_wholeWord ?_, isSteady_wholeWord ?_,
      isSteady_wholeWord ?_, isSteady_wholeWord ?_, isSteady_callWithStem ?_,
      isSteady_callAmong ?_, isSteady_callAmong ?_, isSteady_quotedPathSource,
      isSteady_pathIdentifierSource⟩ <;> decide
  exact htable construct hmem

theorem isSteady_intoTarget : IsSteady intoTarget := by
  have hinto : IsPlainWord "into".toList := by decide
  have hblank : ∀ c, isBlank c = true → startsTarget c = false := by
    intro c hc
    by_contra htarget
    rw [Bool.not_eq_false] at htarget
    exact Bool.false_ne_true ((isBlank_of_startsTarget htarget).symm.trans hc)
  have hcase : ∀ c : Char, startsTarget c.toLower = startsTarget c := by
    intro c
    simp only [startsTarget, isWordChar_toLower, Bool.beq_eq_decide_eq,
      toLower_eq_iff (d := '#') (by decide), toLower_eq_iff (d := '@') (by decide),
      toLower_eq_iff (d := '[') (by decide), toLower_eq_iff (d := '"') (by decide)]
  refine ⟨_, intoTarget_eq, (isSolid_dropWord hinto).bind, fun hchange => ?_⟩
  exact (hchange.word hinto).bind
    (hchange.someBlanks (isSolid_readOne hblank) (hchange.one hcase hblank))

end QueryWarden.Sql
