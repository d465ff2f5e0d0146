import QueryWarden.Proofs.Text.Replacement

/-!
# Rewriting the words of a text

A text is a row of words, its maximal runs of word characters, with marks between them. A change of
words may look at the marks behind a word but leaves them alone, so what one change does to a word
is there for the next one as if the word had been written like that: changes one after the other are
one change.
-/

namespace QueryWarden.Text

/-- The characters of no word that a text begins with. -/
def leadingMarks (text : List Char) : List Char :=
  text.takeWhile fun c => !isWordChar c

/-- A change of words: from a word and the marks behind it to another word. -/
abbrev WordChange := List Char → List Char → List Char

/-- Every word of the text is changed; `word` is what has been read of the word under way. -/
def rewriteWordsFrom (change : WordChange) : List Char → List Char → List Char
  | word, [] => change word []
  | word, c :: text =>
      if isWordChar c then rewriteWordsFrom change (word ++ [c]) text
      else change word (leadingMarks (c :: text)) ++ c :: rewriteWordsFrom change [] text

/-- Every word of the text is changed. -/
def rewriteWords (change : WordChange) (text : List Char) : List Char :=
  rewriteWordsFrom change [] text

/-- Words stay words, and where there is none there will be none. -/
structure WordChange.KeepsWords (change : WordChange) : Prop where
  nil : ∀ marks, change [] marks = []
  ne_nil : ∀ word marks, word ≠ [] → change word marks ≠ []
  isWord : ∀ word marks, (∀ c ∈ word, isWordChar c = true) →
    ∀ c ∈ change word marks, isWordChar c = true

variable {change first second : WordChange}

theorem leadingMarks_cons_mark {c : Char} (hc : isWordChar c = false) (text : List Char) :
    leadingMarks (c :: text) = c :: leadingMarks text := by
  simp [leadingMarks, hc]

theorem leadingMarks_cons_letter {c : Char} (hc : isWordChar c = true) (text : List Char) :
    leadingMarks (c :: text) = [] := by
  simp [leadingMarks, hc]

theorem rewriteWordsFrom_letter {c : Char} (hc : isWordChar c = true) (word text : List Char) :
    rewriteWordsFrom change word (c :: text) = rewriteWordsFrom change (word ++ [c]) text := by
  rw [rewriteWordsFrom, if_pos hc]

theorem rewriteWordsFrom_mark {c : Char} (hc : isWordChar c = false) (word text : List Char) :
    rewriteWordsFrom change word (c :: text) =
      change word (leadingMarks (c :: text)) ++ c :: rewriteWords change text := by
  rw [rewriteWordsFrom, if_neg (by simp [hc])]
  rfl

/-- Letters go on with the word under way. -/
theorem rewriteWordsFrom_append {letters : List Char}
    (hletters : ∀ c ∈ letters, isWordChar c = true) (word text : List Char) :
    rewriteWordsFrom change word (letters ++ text) =
      rewriteWordsFrom change (word ++ letters) text := by
  induction letters generalizing word with
  | nil => rw [List.nil_append, List.append_nil]
  | cons c letters ih =>
      obtain ⟨hc, hletters⟩ := List.forall_mem_cons.mp hletters
      rw [List.cons_append, rewriteWordsFrom_letter hc, ih hletters, List.append_assoc]
      rfl

theorem leadingMarks_word_append {word : List Char} (hne : word ≠ [])
    (hword : ∀ c ∈ word, isWordChar c = true) (rest : List Char) :
    leadingMarks (word ++ rest) = [] := by
  obtain ⟨c, letters, rfl⟩ := List.exists_cons_of_ne_nil hne
  exact leadingMarks_cons_letter (hword c List.mem_cons_self) (letters ++ rest)

/-- With a word under way the rewritten text begins with a letter. -/
theorem WordChange.KeepsWords.leadingMarks_from (hkeeps : change.KeepsWords) {word : List Char}
    (hne : word ≠ []) (hword : ∀ c ∈ word, isWordChar c = true) (text : List Char) :
    leadingMarks (rewriteWordsFrom change word text) = [] := by
  induction text generalizing word with
  | nil =>
      have hend := leadingMarks_word_append (hkeeps.ne_nil word [] hne)
        (hkeeps.isWord word [] hword) []
      rwa [List.append_nil] at hend
  | cons c text ih =>
      cases hc : isWordChar c with
      | false =>
          rw [rewriteWordsFrom_mark hc]
          exact leadingMarks_word_append (hkeeps.ne_nil word _ hne) (hkeeps.isWord word _ hword) _
      | true =>
          rw [rewriteWordsFrom_letter hc]
          exact ih (by simp) (by simpa [or_imp, forall_and, hc] using hword)

/-- Rewriting leaves the marks where they are. -/
theorem WordChange.KeepsWords.leadingMarks_rewriteWords (hkeeps : change.KeepsWords)
    (text : List Char) : leadingMarks (rewriteWords change text) = leadingMarks text := by
  induction text with
  | nil => exact congrArg leadingMarks (hkeeps.nil [])
  | cons c text ih =>
      cases hc : isWordChar c with
      | false =>
          rw [rewriteWords, rewriteWordsFrom_mark hc, hkeeps.nil, List.nil_append,
            leadingMarks_cons_mark hc, leadingMarks_cons_mark hc, ih]
      | true =>
          rw [rewriteWords, rewriteWordsFrom_letter hc, leadingMarks_cons_letter hc]
          exact hkeeps.leadingMarks_from (by simp) (by simpa using hc) text

/-- Changes one after the other are one change. -/
theorem WordChange.KeepsWords.rewriteWords_rewriteWords (hfirst : first.KeepsWords)
    (second : WordChange) (text : List Char) :
    rewriteWords second (rewriteWords first text) =
      rewriteWords (fun word marks => second (first word marks) marks) text := by
  have hfrom : ∀ word, (∀ c ∈ word, isWordChar c = true) →
      rewriteWords second (rewriteWordsFrom first word text) =
        rewriteWordsFrom (fun word marks => second (first word marks) marks) word text := by
    induction text with
    | nil =>
        intro word hword
        have hletters := hfirst.isWord word [] hword
        have hwhole : rewriteWords second (first word [] ++ []) =
            rewriteWordsFrom second ([] ++ first word []) [] :=
          rewriteWordsFrom_append hletters [] []
        rwa [List.append_nil] at hwhole
    | cons c text ih =>
        intro word hword
        cases hc : isWordChar c with
        | true =>
            rw [rewriteWordsFrom_letter hc, rewriteWordsFrom_letter hc]
            exact ih (word ++ [c]) (by simpa [or_imp, forall_and, hc] using hword)
        | false =>
            have hletters := hfirst.isWord word (leadingMarks (c :: text)) hword
            rw [rewriteWordsFrom_mark hc, rewriteWordsFrom_mark hc, rewriteWords,
              rewriteWordsFrom_append hletters, rewriteWordsFrom_mark hc, List.nil_append,
              leadingMarks_cons_mark hc text, leadingMarks_cons_mark hc (rewriteWords first text),
              hfirst.leadingMarks_rewriteWords]
            exact congrArg (_ ++ c :: ·) (ih [] (by simp))
  exact hfrom [] (by simp)

end QueryWarden.Text
