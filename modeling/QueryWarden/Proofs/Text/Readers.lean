import QueryWarden.Proofs.Text.Replacement

/-!
# Readers behind the start of a word

Most patterns start where a word may start and take one thing after the other off the text from
there. What such a pattern finds in a changed text follows from what its reader does with the
change: whether it minds the case of letters, and whether it reads into what is added behind.
-/

namespace QueryWarden.Text

/-- Takes something off the front of a text, if it stands there. -/
abbrev Reader := List Char → Option (List Char)

/-- Finds what the reader takes where a word may start. -/
def wordStarting (read : Reader) : Pattern Unit := fun before text =>
  if atWordStart before then (read text).map fun rest => ((), rest) else none

/-- A change of the text before reading is the same change of what reading leaves. -/
def Commutes (read : Reader) (change : List Char → List Char) : Prop :=
  ∀ text, read (change text) = (read text).map change

/-- Nothing is read off a blank, and nothing at the end of the text. -/
def IsSolid (read : Reader) : Prop :=
  ∀ text, (∀ c ∈ text.head?, isBlank c = true) → read text = none

section Sequence

variable {α : Type} {first second : Reader} {change : List Char → List Char}

theorem Commutes.bind (hfirst : Commutes first change) (hsecond : Commutes second change) :
    Commutes (fun text => (first text).bind second) change := by
  intro text
  simp only [hfirst text]
  cases first text with
  | none => rfl
  | some rest => exact hsecond rest

theorem Commutes.findSome? {reads : α → Reader} {choices : List α}
    (hreads : ∀ choice ∈ choices, Commutes (reads choice) change) :
    Commutes (fun text => choices.findSome? fun choice => reads choice text) change := by
  intro text
  induction choices with
  | nil => rfl
  | cons choice choices ih =>
      obtain ⟨hchoice, hchoices⟩ := List.forall_mem_cons.mp hreads
      have hrest := ih hchoices
      simp only [List.findSome?_cons, hchoice text] at hrest ⊢
      cases reads choice text with
      | none => exact hrest
      | some rest => rfl

theorem IsSolid.bind (hfirst : IsSolid first) :
    IsSolid (fun text => (first text).bind second) := by
  intro text hblank
  simp only [hfirst text hblank, Option.bind_none]

theorem IsSolid.findSome? {reads : α → Reader} {choices : List α}
    (hreads : ∀ choice ∈ choices, IsSolid (reads choice)) :
    IsSolid (fun text => choices.findSome? fun choice => reads choice text) :=
  fun text hblank =>
    List.findSome?_eq_none_iff.mpr fun choice hchoice => hreads choice hchoice text hblank

end Sequence

/-- A blank at the end is left by skipping blanks, unless the end is reached. -/
theorem commutes_dropBlanks_concat {read : Reader} (hsolid : IsSolid read) {c : Char}
    (hc : isBlank c = true) (hread : Commutes read (· ++ [c])) :
    Commutes (fun text => read (dropBlanks text)) (· ++ [c]) := by
  intro text
  simp only [dropBlanks, List.dropWhile_append]
  cases hdrop : text.dropWhile isBlank with
  | nil => simp [hc, hsolid [] (by simp)]
  | cons d rest => exact hread (d :: rest)

theorem commutes_dropSomeBlanks_concat {read : Reader} (hsolid : IsSolid read) {c : Char}
    (hc : isBlank c = true) (hread : Commutes read (· ++ [c])) :
    Commutes (fun text => (dropSomeBlanks text).bind read) (· ++ [c]) := by
  intro text
  cases text with
  | nil => simp [dropSomeBlanks, dropBlanks, hc, hsolid [] (by simp)]
  | cons d text =>
      have hrest := commutes_dropBlanks_concat hsolid hc hread text
      simp only [List.cons_append, dropSomeBlanks] at hrest ⊢
      cases isBlank d with
      | false => rfl
      | true => exact hrest

/-! ## Searching -/

section Search

variable {read : Reader} {c : Char}

theorem isSome_wordStarting (before : Option Char) (text : List Char) :
    (wordStarting read before text).isSome = (atWordStart before && (read text).isSome) := by
  unfold wordStarting
  cases atWordStart before <;> simp

/-- The search succeeds exactly when the text can be cut where a word may start such that the
reader takes something off what follows. -/
theorem wordStarting_occursIn_iff (text : List Char) :
    (wordStarting read).occursIn text = true ↔
      ∃ front back, text = front ++ back ∧ (∀ c ∈ front.getLast?, isWordChar c = false) ∧
        (read back).isSome = true := by
  simp only [Pattern.occursIn_iff, isSome_wordStarting, Bool.and_eq_true, atWordStart_iff]

theorem atWordStart_of_not_isWordChar (hc : isWordChar c = false) :
    atWordStart (some c) = true := by
  simp [atWordStart, hc]

/-- Behind a character that belongs to no word the search starts anew. -/
theorem occursAfter_wordStarting (hc : isWordChar c = false) (text : List Char) :
    (wordStarting read).occursAfter (some c) text = (wordStarting read).occursIn text := by
  have hstart : ∀ back, wordStarting read (some c) back = wordStarting read none back := by
    intro back
    rw [wordStarting, wordStarting, atWordStart_of_not_isWordChar hc]
    rfl
  cases text <;> simp only [Pattern.occursIn, Pattern.occursAfter, hstart]

theorem occursIn_cons (hc : isWordChar c = false) (text : List Char) :
    (wordStarting read).occursIn (c :: text) =
      ((read (c :: text)).isSome || (wordStarting read).occursIn text) := by
  rw [Pattern.occursIn, Pattern.occursAfter, isSome_wordStarting, occursAfter_wordStarting hc]
  rfl

/-- What is added behind a text is searched on its own if the reader never reads into it. -/
theorem occursIn_append (hc : isWordChar c = false) {rest : List Char}
    (hread : Commutes read (· ++ c :: rest)) (text : List Char) :
    (wordStarting read).occursIn (text ++ c :: rest) =
      ((wordStarting read).occursIn text || (wordStarting read).occursIn rest) := by
  have hmatch : ∀ before back, (wordStarting read before (back ++ c :: rest)).isSome =
      (wordStarting read before back).isSome := by
    intro before back
    simp only [isSome_wordStarting, hread back, Option.isSome_map]
  have hafter : ∀ before, (wordStarting read).occursAfter before (text ++ c :: rest) =
      ((wordStarting read).occursAfter before text || (wordStarting read).occursIn rest) := by
    induction text with
    | nil =>
        intro before
        have hhere := hmatch before []
        rw [List.nil_append] at hhere ⊢
        rw [Pattern.occursAfter, Pattern.occursAfter, hhere, occursAfter_wordStarting hc]
    | cons d text ih =>
        intro before
        have hhere := hmatch before (d :: text)
        rw [List.cons_append] at hhere ⊢
        rw [Pattern.occursAfter, Pattern.occursAfter, hhere, ih, Bool.or_assoc]
  exact hafter none

/-- Nothing is found among blanks. -/
theorem occursIn_blanks (hsolid : IsSolid read) {text : List Char}
    (hblank : ∀ c ∈ text, isBlank c = true) : (wordStarting read).occursIn text = false := by
  rw [Bool.eq_false_iff, Ne, wordStarting_occursIn_iff]
  rintro ⟨front, back, rfl, -, hread⟩
  have hnone : read back = none :=
    hsolid back fun c hc => hblank c (List.mem_append_right _ (List.mem_of_mem_head? hc))
  rw [hnone] at hread
  exact Bool.false_ne_true hread

end Search

/-! ## The case of letters -/

theorem toLower_eq_iff {c d : Char} (hd : d.isAlpha = false) :
    c.toLower = d ↔ c = d := by
  cases hupper : c.isUpper with
  | false => rw [toLower_of_not_isUpper hupper]
  | true =>
      have hbounds := (isUpper_iff c).mp hupper
      have hlower := toNat_toLower hupper
      -- A capital letter and what it is lowered to are both letters.
      have halpha : c.isAlpha = true := by simp [Char.isAlpha, hupper]
      have halpha' : c.toLower.isAlpha = true := by
        simp [Char.isAlpha, Char.isLower, Char.isUpper, UInt32.le_iff_toNat_le, hlower]
        omega
      constructor
      · rintro rfl
        rw [halpha'] at hd
        cases hd
      · rintro rfl
        rw [halpha] at hd
        cases hd

theorem toLower_toLower (c : Char) : c.toLower.toLower = c.toLower := by
  cases hupper : c.isUpper with
  | false => simp only [toLower_of_not_isUpper hupper]
  | true =>
      have hbounds := (isUpper_iff c).mp hupper
      have hlower := toNat_toLower hupper
      refine toLower_of_not_isUpper ?_
      rw [Bool.eq_false_iff, Ne, isUpper_iff]
      omega

theorem isBlank_of_isWordChar {c : Char} (hword : isWordChar c = true) : isBlank c = false := by
  cases hblank : isBlank c with
  | false => rfl
  | true =>
      rw [isWordChar_of_isBlank hblank] at hword
      exact absurd hword Bool.false_ne_true

theorem isBlank_toLower (c : Char) : isBlank c.toLower = isBlank c := by
  cases hupper : c.isUpper with
  | false => rw [toLower_of_not_isUpper hupper]
  | true =>
      have hword : isWordChar c = true :=
        isWordChar_of_isAlphanum ((isAlphanum_iff c).mpr (.inl ((isUpper_iff c).mp hupper)))
      have hlower : isWordChar c.toLower = true := (isWordChar_toLower c).trans hword
      rw [isBlank_of_isWordChar hword, isBlank_of_isWordChar hlower]

theorem foldsTo_toLower (letter c : Char) : foldsTo letter c.toLower = foldsTo letter c := by
  have hsame : ∀ d : Char, d.isAlpha = false → (c.toLower == d) = (c == d) := by
    intro d hd
    simp only [Bool.beq_eq_decide_eq, toLower_eq_iff hd]
  unfold foldsTo
  rw [toLower_toLower, hsame '\u017f' (by decide), hsame '\u212a' (by decide)]

theorem dropWhile_asciiLower {p : Char → Bool} (hp : ∀ c : Char, p c.toLower = p c)
    (text : List Char) : (asciiLower text).dropWhile p = asciiLower (text.dropWhile p) := by
  have hcomp : p ∘ Char.toLower = p := funext hp
  rw [asciiLower, List.dropWhile_map, hcomp]
  rfl

theorem takeWhile_asciiLower {p : Char → Bool} (hp : ∀ c : Char, p c.toLower = p c)
    (text : List Char) : (asciiLower text).takeWhile p = asciiLower (text.takeWhile p) := by
  have hcomp : p ∘ Char.toLower = p := funext hp
  rw [asciiLower, List.takeWhile_map, hcomp]
  rfl

theorem dropWord_asciiLower (word : List Char) : Commutes (dropWord word) asciiLower := by
  induction word with
  | nil => exact fun _ => rfl
  | cons letter word ih =>
      intro text
      cases text with
      | nil => rfl
      | cons c text =>
          have hrest := ih text
          simp only [asciiLower, List.map_cons, dropWord, foldsTo_toLower] at hrest ⊢
          rw [hrest]
          split <;> rfl

theorem dropSomeBlanks_asciiLower : Commutes dropSomeBlanks asciiLower := by
  intro text
  cases text with
  | nil => rfl
  | cons c text =>
      have hrest := dropWhile_asciiLower isBlank_toLower text
      simp only [asciiLower, List.map_cons, dropSomeBlanks, isBlank_toLower, dropBlanks] at hrest ⊢
      rw [hrest]
      split <;> rfl

/-- Searching minds the case of letters no more than reading does. -/
theorem occursIn_asciiLower {read : Reader} (hread : Commutes read asciiLower)
    (text : List Char) :
    (wordStarting read).occursIn (asciiLower text) = (wordStarting read).occursIn text := by
  have hmatch : ∀ before back, (wordStarting read (before.map Char.toLower) (asciiLower back)).isSome
      = (wordStarting read before back).isSome := by
    intro before back
    have hstart : atWordStart (before.map Char.toLower) = atWordStart before := by
      cases before <;> simp [atWordStart, isWordChar_toLower]
    simp only [isSome_wordStarting, hread back, hstart, Option.isSome_map]
  have hafter : ∀ before, (wordStarting read).occursAfter (before.map Char.toLower)
      (asciiLower text) = (wordStarting read).occursAfter before text := by
    induction text with
    | nil => exact fun before => hmatch before []
    | cons c text ih =>
        intro before
        have hhere := hmatch before (c :: text)
        have hlater := ih (some c)
        rw [asciiLower, List.map_cons, ← asciiLower] at hhere ⊢
        rw [Pattern.occursAfter, Pattern.occursAfter, hhere]
        exact congrArg _ hlater
  exact hafter none

end QueryWarden.Text
