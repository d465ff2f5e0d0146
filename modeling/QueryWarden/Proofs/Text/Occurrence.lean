import Mathlib
import QueryWarden.Text.Pattern

/-!
# Occurrences of patterns and words

A search succeeds exactly when the text can be cut in two such that the pattern matches at the cut.
For a whole word this comes to a statement about the text alone: one of its maximal runs of word
characters is the word, up to case.
-/

namespace QueryWarden.Text

/-! ## Searching -/

theorem getLast?_cons_or (c : Char) (front : List Char) (before : Option Char) :
    (c :: front).getLast?.or before = front.getLast?.or (some c) := by
  cases hlast : front.getLast? <;> simp [List.getLast?_cons, hlast]

namespace Pattern

variable {α : Type} (pattern : Pattern α)

theorem occursAfter_iff (before : Option Char) (text : List Char) :
    pattern.occursAfter before text = true ↔
      ∃ front back, text = front ++ back ∧
        (pattern (front.getLast?.or before) back).isSome = true := by
  induction text generalizing before with
  | nil => simp [occursAfter, and_assoc]
  | cons c text ih =>
      simp only [occursAfter, Bool.or_eq_true, ih]
      constructor
      · rintro (hhere | ⟨front, back, rfl, hlater⟩)
        · exact ⟨[], c :: text, rfl, by simpa using hhere⟩
        · refine ⟨c :: front, back, rfl, ?_⟩
          rwa [getLast?_cons_or]
      · rintro ⟨front, back, hcut, hmatch⟩
        cases front with
        | nil =>
            obtain rfl : c :: text = back := hcut
            exact .inl (by simpa using hmatch)
        | cons d front =>
            obtain ⟨rfl, rfl⟩ := List.cons.inj hcut
            rw [getLast?_cons_or] at hmatch
            exact .inr ⟨front, back, rfl, hmatch⟩

/-- A pattern occurs in a text exactly when it matches behind some front part of it. -/
theorem occursIn_iff (text : List Char) :
    pattern.occursIn text = true ↔
      ∃ front back, text = front ++ back ∧ (pattern front.getLast? back).isSome = true := by
  simp [occursIn, occursAfter_iff]

end Pattern

/-! ## Case folding -/

/-- The simple case folding of a character, as far as it lands in ASCII: the long s and the kelvin
sign fold to letters, and every other character outside ASCII stays as it is. -/
def simpleFold (c : Char) : Char :=
  if c = '\u017f' then 's' else if c = '\u212a' then 'k' else c.toLower

theorem foldsTo_iff {letter : Char} (hletter : letter.toNat < 128) (c : Char) :
    foldsTo letter c = true ↔ simpleFold c = letter := by
  have hlong : '\u017f' ≠ letter := by rintro rfl; exact absurd hletter (by decide)
  have hkelvin : '\u212a' ≠ letter := by rintro rfl; exact absurd hletter (by decide)
  -- The two characters outside ASCII that fold to a letter are looked at first.
  unfold foldsTo simpleFold
  by_cases hc : c = '\u017f'
  · subst hc
    have hlower : '\u017f'.toLower = '\u017f' := by decide
    simp only [hlower, Bool.or_eq_true, beq_iff_eq, Bool.and_eq_true, hlong, false_or, and_true,
      if_true]
    exact ⟨fun h => by rcases h with h | ⟨_, h⟩ <;> simp_all, fun h => .inl h.symm⟩
  · by_cases hc' : c = '\u212a'
    · subst hc'
      have hlower : '\u212a'.toLower = '\u212a' := by decide
      simp only [hlower, Bool.or_eq_true, beq_iff_eq, Bool.and_eq_true, hkelvin, false_or,
        and_true, if_true, hc, if_false, and_false]
      exact eq_comm
    · simp [hc, hc']

theorem dropWord_eq_some_iff {word : List Char} (hword : ∀ letter ∈ word, letter.toNat < 128)
    (text rest : List Char) :
    dropWord word text = some rest ↔
      ∃ spelled, text = spelled ++ rest ∧ spelled.map simpleFold = word := by
  induction word generalizing text with
  | nil => simp [dropWord]
  | cons letter word ih =>
      have hletter := hword letter List.mem_cons_self
      have hrest := fun other hother => hword other (List.mem_cons_of_mem _ hother)
      cases text with
      | nil => simp [dropWord]
      | cons c text =>
          simp only [dropWord, foldsTo_iff hletter, Option.ite_none_right_eq_some, ih hrest]
          constructor
          · rintro ⟨hc, spelled, rfl, hspelled⟩
            exact ⟨c :: spelled, rfl, by simp [hc, hspelled]⟩
          · rintro ⟨spelled, htext, hspelled⟩
            cases spelled with
            | nil => simp at hspelled
            | cons d spelled =>
                obtain ⟨rfl, rfl⟩ := List.cons.inj htext
                obtain ⟨hd, hmap⟩ := List.cons.inj hspelled
                exact ⟨hd, spelled, rfl, hmap⟩

theorem dropSomeBlanks_eq_some_iff (text rest : List Char) :
    dropSomeBlanks text = some rest ↔
      ∃ gap, gap ≠ [] ∧ (∀ c ∈ gap, isBlank c = true) ∧ text = gap ++ rest ∧
        ∀ c ∈ rest.head?, isBlank c = false := by
  cases text with
  | nil =>
      simp only [dropSomeBlanks, reduceCtorEq, false_iff, not_exists]
      rintro gap ⟨hne, -, hgap, -⟩
      exact hne (List.append_eq_nil_iff.mp hgap.symm).1
  | cons c text =>
      simp only [dropSomeBlanks, Option.ite_none_right_eq_some, Option.some.injEq, dropBlanks]
      constructor
      · rintro ⟨hc, rfl⟩
        refine ⟨c :: text.takeWhile isBlank, by simp, ?_, by simp, ?_⟩
        · simpa [hc] using fun d hd => List.mem_takeWhile_imp hd
        · intro d hd
          have hhead := List.head?_dropWhile_not isBlank text
          rw [Option.mem_def.mp hd] at hhead
          exact hhead
      · rintro ⟨gap, hne, hblank, htext, hrest⟩
        cases gap with
        | nil => exact absurd rfl hne
        | cons d gap =>
            simp only [List.cons_append, List.cons.injEq] at htext
            obtain ⟨rfl, rfl⟩ := htext
            have hgap := fun e he => hblank e (List.mem_cons_of_mem _ he)
            refine ⟨hblank c List.mem_cons_self, ?_⟩
            rw [List.dropWhile_append_of_pos hgap]
            cases rest with
            | nil => rfl
            | cons e rest => simp [hrest e rfl]

/-! ### Word characters -/

theorem isUpper_iff (c : Char) : c.isUpper = true ↔ 65 ≤ c.toNat ∧ c.toNat ≤ 90 := by
  simp [Char.isUpper, UInt32.le_iff_toNat_le]

theorem isAlphanum_iff (c : Char) :
    c.isAlphanum = true ↔
      (65 ≤ c.toNat ∧ c.toNat ≤ 90) ∨ (97 ≤ c.toNat ∧ c.toNat ≤ 122) ∨
        (48 ≤ c.toNat ∧ c.toNat ≤ 57) := by
  simp [Char.isAlphanum, Char.isAlpha, Char.isUpper, Char.isLower, Char.isDigit,
    UInt32.le_iff_toNat_le, or_assoc]

theorem toNat_toLower {c : Char} (hupper : c.isUpper = true) :
    c.toLower.toNat = c.toNat + 32 := by
  have hbounds := (isUpper_iff c).mp hupper
  have hrange : c.val ≥ 'A'.val ∧ c.val ≤ 'Z'.val := by
    simpa [UInt32.le_iff_toNat_le] using hbounds
  simp only [Char.toLower, dif_pos hrange]
  rw [← Char.toNat_val]
  simp
  omega

theorem toLower_of_not_isUpper {c : Char} (hupper : c.isUpper = false) : c.toLower = c := by
  have hrange : ¬ (c.val ≥ 'A'.val ∧ c.val ≤ 'Z'.val) := by
    simpa [Char.isUpper] using hupper
  simp only [Char.toLower, hrange, dite_false]

theorem isWordChar_of_isAlphanum {c : Char} (halnum : c.isAlphanum = true) :
    isWordChar c = true := by
  have hbounds := (isAlphanum_iff c).mp halnum
  simp [isWordChar, halnum, show c.toNat < 128 by omega]

theorem isWordChar_toLower (c : Char) : isWordChar c.toLower = isWordChar c := by
  cases hupper : c.isUpper with
  | false => rw [toLower_of_not_isUpper hupper]
  | true =>
      have hbounds := (isUpper_iff c).mp hupper
      have hlower := toNat_toLower hupper
      rw [isWordChar_of_isAlphanum ((isAlphanum_iff c).mpr (.inl hbounds)),
        isWordChar_of_isAlphanum ((isAlphanum_iff c.toLower).mpr (by omega))]

/-- Folding neither makes nor breaks words: what folds to a word character is one. -/
theorem isWordChar_simpleFold (c : Char) : isWordChar (simpleFold c) = isWordChar c := by
  unfold simpleFold
  split
  next hc => subst hc; decide +kernel
  next =>
    split
    next hc => subst hc; decide +kernel
    next => exact isWordChar_toLower c

theorem isWordChar_of_isBlank {c : Char} (hblank : isBlank c = true) : isWordChar c = false := by
  have hwide : ∀ code ∈ [133, 160, 5760, 8192, 8193, 8194, 8195, 8196, 8197, 8198, 8199, 8200,
      8201, 8202, 8232, 8233, 8239, 8287, 12288], inRanges wordRanges code = false := by
    decide +kernel
  simp only [isBlank, Bool.or_eq_true, Bool.and_eq_true, decide_eq_true_eq, beq_iff_eq] at hblank
  unfold isWordChar
  split
  next hascii =>
    have halnum : c.isAlphanum = false := by
      rw [Bool.eq_false_iff, Ne, isAlphanum_iff]
      omega
    have hne : c ≠ '_' := by
      rintro rfl
      revert hblank
      decide
    simp [halnum, hne]
  next hascii =>
    -- The blanks outside ASCII are few, and each is looked up in the table.
    refine hwide _ ?_
    simp only [List.mem_cons, List.not_mem_nil, or_false]
    omega

/-! ## Whole words -/

/-- `run` stands in the text as a maximal run of word characters. -/
def IsWordRun (text run : List Char) : Prop :=
  ∃ front back, text = front ++ run ++ back ∧ run ≠ [] ∧ (∀ c ∈ run, isWordChar c = true) ∧
    (∀ c ∈ front.getLast?, isWordChar c = false) ∧ ∀ c ∈ back.head?, isWordChar c = false

/-- The word, given in lower case, is one of the text's maximal runs of word characters. -/
def HasWord (text word : List Char) : Prop :=
  ∃ run, IsWordRun text run ∧ run.map simpleFold = word

theorem atWordStart_iff (before : Option Char) :
    atWordStart before = true ↔ ∀ c ∈ before, isWordChar c = false := by
  cases before <;> simp [atWordStart]

theorem atWordEnd_iff (text : List Char) :
    atWordEnd text = true ↔ ∀ c ∈ text.head?, isWordChar c = false := by
  cases text <;> simp [atWordEnd]

/-- A word as patterns look for it: not empty, of ASCII word characters only. -/
def IsPlainWord (word : List Char) : Prop :=
  word ≠ [] ∧ ∀ letter ∈ word, letter.toNat < 128 ∧ isWordChar letter = true

instance (word : List Char) : Decidable (IsPlainWord word) :=
  decidable_of_iff
    ((!word.isEmpty && word.all fun letter => decide (letter.toNat < 128) && isWordChar letter) =
      true)
    (by simp [IsPlainWord])

theorem IsPlainWord.ascii {word : List Char} (hword : IsPlainWord word) :
    ∀ letter ∈ word, letter.toNat < 128 :=
  fun letter hletter => (hword.2 letter hletter).1

/-- What is read as a word is a word itself, made of word characters since its folding is. -/
theorem IsPlainWord.of_fold {word spelled : List Char} (hword : IsPlainWord word)
    (hspelled : spelled.map simpleFold = word) :
    spelled ≠ [] ∧ ∀ c ∈ spelled, isWordChar c = true := by
  constructor
  · rintro rfl
    exact hword.1 hspelled.symm
  · intro c hc
    rw [← isWordChar_simpleFold]
    exact (hword.2 _ (hspelled ▸ List.mem_map_of_mem hc)).2

/-- A word that is read from within a text and behind it, up to a character of no word, is cut in two
only if the text ends within a word. -/
theorem IsPlainWord.exists_of_append_eq {word spelled right back rest : List Char}
    (hword : IsPlainWord word) (hspelled : spelled.map simpleFold = word) {c : Char}
    (hne : right ≠ []) (hlast : ∀ d ∈ right.getLast?, isWordChar d = false)
    (htext : right ++ back = spelled ++ c :: rest) : ∃ more, right = spelled ++ c :: more ∧
      rest = more ++ back := by
  obtain ⟨-, hletters⟩ := hword.of_fold hspelled
  have hcut : ∀ more, spelled ≠ right ++ more := by
    rintro more rfl
    obtain ⟨front, d, rfl⟩ := List.eq_nil_or_concat' right |>.resolve_left hne
    have hd := hlast d (by simp)
    rw [hletters d (by simp)] at hd
    cases hd
  rcases List.append_eq_append_iff.mp htext with ⟨more, hmore, -⟩ | ⟨more, hright, hmore⟩
  · exact absurd hmore (hcut more)
  · cases more with
    | nil => exact absurd (by simp [hright]) (hcut [])
    | cons d more =>
        obtain ⟨rfl, rfl⟩ := List.cons.inj hmore
        exact ⟨more, hright, rfl⟩

theorem wholeWord_isSome_iff {word : List Char} (hword : IsPlainWord word)
    (before : Option Char) (text : List Char) :
    (wholeWord word before text).isSome = true ↔
      atWordStart before = true ∧
        ∃ spelled rest, text = spelled ++ rest ∧ spelled.map simpleFold = word ∧
          atWordEnd rest = true := by
  have hdrop := dropWord_eq_some_iff hword.ascii text
  unfold wholeWord
  cases hstart : atWordStart before with
  | false => simp
  | true =>
      simp only [if_true, true_and]
      cases hword : dropWord word text with
      | none =>
          simp only [hword, reduceCtorEq, false_iff, not_exists] at hdrop
          simp only [Option.isSome_none, Bool.false_eq_true, false_iff]
          rintro ⟨spelled, rest, htext, hspelled, -⟩
          exact hdrop rest spelled ⟨htext, hspelled⟩
      | some rest =>
          simp only [hword, Option.some.injEq] at hdrop
          constructor
          · intro hmatch
            obtain ⟨spelled, htext, hspelled⟩ := (hdrop rest).mp rfl
            refine ⟨spelled, rest, htext, hspelled, ?_⟩
            cases hend : atWordEnd rest with
            | true => rfl
            | false => simp [hend] at hmatch
          · rintro ⟨spelled, rest', htext, hspelled, hend⟩
            obtain rfl := (hdrop rest').mpr ⟨spelled, htext, hspelled⟩
            simp [hend]

/-- Looking for a whole word finds exactly the maximal runs that are the word, up to case. -/
theorem wholeWord_occursIn_iff {word : List Char} (hword : IsPlainWord word)
    (text : List Char) : (wholeWord word).occursIn text = true ↔ HasWord text word := by
  simp only [Pattern.occursIn_iff, wholeWord_isSome_iff hword, atWordStart_iff, atWordEnd_iff]
  constructor
  · rintro ⟨front, back, rfl, hstart, spelled, rest, rfl, hspelled, hend⟩
    obtain ⟨hne, hrun⟩ := hword.of_fold hspelled
    exact ⟨spelled, ⟨front, rest, by simp, hne, hrun, hstart, hend⟩, hspelled⟩
  · rintro ⟨run, ⟨front, back, rfl, -, -, hstart, hend⟩, hspelled⟩
    exact ⟨front, run ++ back, by simp, hstart, run, back, rfl, hspelled, hend⟩

end QueryWarden.Text
