import Mathlib
import QueryWarden.Text.Trim

/-!
# What trimming leaves

Trimming is characterized by its result: the text is cut in three, blanks on both sides and in the
middle a text that neither starts nor ends with a blank. There is only one such middle.
-/

namespace QueryWarden.Text

/-! ## Dropping from the end -/

section DropEnd

variable {drop : Char → Bool}

theorem dropEndWhile_append_cons {c : Char} (hc : drop c = false) (front back : List Char) :
    dropEndWhile drop (front ++ c :: back) = front ++ c :: dropEndWhile drop back := by
  simp only [dropEndWhile, List.reverse_append, List.reverse_cons, List.append_assoc,
    List.dropWhile_append]
  split
  next hempty =>
    have hback : back.reverse.dropWhile drop = [] := List.isEmpty_iff.mp hempty
    simp [hback, hc]
  next => simp

theorem dropEndWhile_eq_nil {text : List Char} (hall : ∀ c ∈ text, drop c = true) :
    dropEndWhile drop text = [] :=
  List.rdropWhile_eq_nil_iff.mpr hall

/-- What is dropped is a run at the end. -/
theorem exists_dropEndWhile (drop : Char → Bool) (text : List Char) :
    ∃ dropped, text = dropEndWhile drop text ++ dropped ∧ ∀ c ∈ dropped, drop c = true :=
  ⟨text.rtakeWhile drop, List.rdropWhile_append_rtakeWhile.symm,
    fun _ hc => List.mem_rtakeWhile_imp hc⟩

theorem drop_getLast?_dropEndWhile (drop : Char → Bool) (text : List Char) :
    ∀ c ∈ (dropEndWhile drop text).getLast?, drop c = false := by
  intro c hc
  have hhead := List.head?_dropWhile_not drop text.reverse
  rw [dropEndWhile, List.getLast?_reverse] at hc
  rw [Option.mem_def.mp hc] at hhead
  exact hhead

/-- A character is kept exactly when something that is not dropped stands at its place or later. -/
theorem mem_dropEndWhile_iff (drop : Char → Bool) {text : List Char} {c : Char}
    (hc : drop c = true) :
    c ∈ dropEndWhile drop text ↔
      ∃ front back d, text = front ++ c :: back ∧ d ∈ back ∧ drop d = false := by
  constructor
  · intro hmem
    obtain ⟨dropped, htext, -⟩ := exists_dropEndWhile drop text
    obtain ⟨front, back, hkept⟩ := List.append_of_mem hmem
    have hlast := drop_getLast?_dropEndWhile drop text
    -- The last character that is kept is not `c`, so it stands later.
    rw [hkept, List.getLast?_append_cons] at hlast
    cases hback : back.getLast? with
    | none =>
        rw [List.getLast?_eq_none_iff] at hback
        subst hback
        simp [hc] at hlast
    | some d =>
        refine ⟨front, back ++ dropped, d, ?_, ?_, ?_⟩
        · rw [htext, hkept]
          simp
        · exact List.mem_append_left _ (List.mem_of_getLast? hback)
        · exact hlast d (by simp [List.getLast?_cons, hback])
  · rintro ⟨front, back, d, rfl, hd, hdrop⟩
    obtain ⟨middle, rest, rfl⟩ := List.append_of_mem hd
    have hkept := dropEndWhile_append_cons hdrop (front ++ c :: middle) rest
    simp only [List.append_assoc, List.cons_append] at hkept
    rw [hkept]
    simp

theorem dropEndWhile_concat {drop : Char → Bool} {c : Char} (hc : drop c = true)
    (text : List Char) : dropEndWhile drop (text ++ [c]) = dropEndWhile drop text := by
  simp [dropEndWhile, hc]

end DropEnd

/-! ## Trimming -/

/-- `middle` is left of the text when the blanks at both its ends are taken away. -/
def IsTrimmed (text middle : List Char) : Prop :=
  ∃ left right, text = left ++ middle ++ right ∧
    (∀ c ∈ left, isBlank c = true) ∧ (∀ c ∈ right, isBlank c = true) ∧
    (∀ c ∈ middle.head?, isBlank c = false) ∧ ∀ c ∈ middle.getLast?, isBlank c = false

/-- Trimming keeps the first character that is no blank. -/
theorem trim_of_trimStart {text rest : List Char} {c : Char}
    (hstart : trimStart text = c :: rest) : trim text = c :: trimEnd rest := by
  have hc : isBlank c = false := by
    have hhead := List.head?_dropWhile_not isBlank text
    rw [show text.dropWhile isBlank = c :: rest from hstart] at hhead
    exact hhead
  rw [trim, hstart]
  exact dropEndWhile_append_cons hc [] rest

theorem isTrimmed_trim (text : List Char) : IsTrimmed text (trim text) := by
  obtain ⟨right, hright, hblank⟩ := exists_dropEndWhile isBlank (trimStart text)
  refine ⟨text.takeWhile isBlank, right, ?_, ?_, hblank, ?_, drop_getLast?_dropEndWhile _ _⟩
  · rw [List.append_assoc, trim, trimEnd, ← hright]
    exact List.takeWhile_append_dropWhile.symm
  · exact fun c hc => List.mem_takeWhile_imp hc
  · cases hstart : trimStart text with
    | nil => simp [trim, trimEnd, dropEndWhile, hstart]
    | cons d rest =>
        rw [trim_of_trimStart hstart]
        have hhead := List.head?_dropWhile_not isBlank text
        rw [show text.dropWhile isBlank = d :: rest from hstart] at hhead
        simpa using hhead

/-- There is only one way to trim a text. -/
theorem isTrimmed_iff (text middle : List Char) : IsTrimmed text middle ↔ trim text = middle := by
  refine ⟨?_, fun htrim => htrim ▸ isTrimmed_trim text⟩
  rintro ⟨left, right, rfl, hleft, hright, hhead, hlast⟩
  have hdrop : trimStart (left ++ middle ++ right) = trimStart (middle ++ right) := by
    rw [trimStart, List.append_assoc, List.dropWhile_append_of_pos hleft, trimStart]
  rw [trim, hdrop]
  cases middle using List.reverseRecOn with
  | nil =>
      rw [List.nil_append, trimStart, List.dropWhile_eq_nil_iff.mpr hright]
      rfl
  | append_singleton front d =>
      have hkept : trimStart (front ++ [d] ++ right) = front ++ [d] ++ right := by
        cases front with
        | nil => simp [trimStart, hhead d rfl]
        | cons c front => simp [trimStart, hhead c rfl]
      have hd : isBlank d = false := hlast d (by simp)
      rw [hkept, List.append_assoc, List.singleton_append, trimEnd,
        dropEndWhile_append_cons hd, dropEndWhile_eq_nil hright]

theorem trim_cons {c : Char} (hc : isBlank c = true) (text : List Char) :
    trim (c :: text) = trim text := by
  rw [trim, trimStart, List.dropWhile_cons_of_pos hc]
  rfl

theorem trim_concat {c : Char} (hc : isBlank c = true) (text : List Char) :
    trim (text ++ [c]) = trim text := by
  obtain ⟨left, right, htext, hleft, hright, hhead, hlast⟩ := isTrimmed_trim text
  refine (isTrimmed_iff _ _).mp ⟨left, right ++ [c], ?_, hleft, ?_, hhead, hlast⟩
  · rw [← List.append_assoc, ← htext]
  · simpa [or_imp, forall_and, hc] using hright

/-- Trimming leaves nothing of a text exactly when it is blank. -/
theorem trim_eq_nil_iff (text : List Char) : trim text = [] ↔ isBlankText text = true := by
  rw [isBlankText, List.all_eq_true]
  constructor
  · intro htrim
    obtain ⟨left, right, htext, hleft, hright, -, -⟩ := (isTrimmed_iff text []).mpr htrim
    rw [htext, List.append_nil]
    intro c hc
    exact (List.mem_append.mp hc).elim (hleft c) (hright c)
  · intro hblank
    apply (isTrimmed_iff text []).mp
    exact ⟨text, [], by simp, hblank, by simp, by simp, by simp⟩

/-! ## Searching for a piece -/

theorem hasInfix_iff (piece text : List Char) : hasInfix piece text = true ↔ piece <:+: text := by
  induction text with
  | nil => simp [hasInfix]
  | cons c text ih =>
      rw [hasInfix, Bool.or_eq_true, ih, List.infix_cons_iff, List.isPrefixOf_iff_prefix]

end QueryWarden.Text
