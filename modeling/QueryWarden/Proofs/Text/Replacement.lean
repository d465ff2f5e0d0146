import QueryWarden.Proofs.Text.Occurrence

/-!
# Replacing between separators

A pattern that never looks past a separator replaces on both sides of one independently: the parts
of a text between its separators are rewritten each on its own. If what is written for a match has
the same characters of a class as what was read, replacing keeps the characters of that class.
-/

namespace QueryWarden.Text

/-! ## Reading up to a separator -/

theorem dropWord_append_cons {word : List Char}
    (hword : ∀ letter ∈ word, letter.toNat < 128 ∧ isWordChar letter = true) {c : Char}
    (hc : isWordChar c = false) (text rest : List Char) :
    dropWord word (text ++ c :: rest) = (dropWord word text).map (· ++ c :: rest) := by
  induction word generalizing text with
  | nil => rfl
  | cons letter word ih =>
      obtain ⟨hletter, hword⟩ := List.forall_mem_cons.mp hword
      cases text with
      | nil =>
          have hstop : foldsTo letter c = false := by
            rw [Bool.eq_false_iff, Ne, foldsTo_iff hletter.1]
            rintro rfl
            rw [isWordChar_simpleFold, hc] at hletter
            exact Bool.false_ne_true hletter.2
          simp [dropWord, hstop]
      | cons d text =>
          rw [List.cons_append, dropWord, dropWord, ih hword]
          split <;> rfl

theorem dropAnyWord_append_cons {words : List (List Char)}
    (hwords : ∀ word ∈ words, IsPlainWord word) {c : Char} (hc : isWordChar c = false)
    (text rest : List Char) :
    dropAnyWord words (text ++ c :: rest) = (dropAnyWord words text).map (· ++ c :: rest) := by
  induction words with
  | nil => rfl
  | cons word words ih =>
      obtain ⟨hword, hwords⟩ := List.forall_mem_cons.mp hwords
      have hrest := ih hwords
      simp only [dropAnyWord, List.findSome?_cons] at hrest ⊢
      rw [dropWord_append_cons hword.2 hc, hrest]
      cases dropWord word text <;> rfl

theorem dropWhile_append_cons {p : Char → Bool} {c : Char} (hc : p c = false)
    (text rest : List Char) :
    (text ++ c :: rest).dropWhile p = text.dropWhile p ++ c :: rest := by
  induction text with
  | nil => simp [hc]
  | cons d text ih =>
      rw [List.cons_append, List.dropWhile_cons, List.dropWhile_cons, ih]
      split <;> rfl

theorem takeWhile_append_cons {p : Char → Bool} {c : Char} (hc : p c = false)
    (text rest : List Char) :
    (text ++ c :: rest).takeWhile p = text.takeWhile p := by
  induction text with
  | nil => simp [hc]
  | cons d text ih => rw [List.cons_append, List.takeWhile_cons, List.takeWhile_cons, ih]

theorem dropWhile_append_of_forall {p : Char → Bool} {front : List Char}
    (hfront : ∀ c ∈ front, p c = true) {c : Char} (hc : p c = false) (rest : List Char) :
    (front ++ c :: rest).dropWhile p = c :: rest := by
  rw [dropWhile_append_cons hc, List.dropWhile_eq_nil_iff.mpr hfront, List.nil_append]

theorem forall_bne_of_notMem {c : Char} {text : List Char} (hclear : c ∉ text) :
    ∀ d ∈ text, (d != c) = true :=
  fun _ hmem => bne_iff_ne.mpr fun heq => hclear (heq ▸ hmem)

theorem dropWhile_ne_of_not_mem {c : Char} {text : List Char} (hclear : c ∉ text) :
    text.dropWhile (· != c) = [] :=
  List.dropWhile_eq_nil_iff.mpr (forall_bne_of_notMem hclear)

theorem eq_of_dropWhile_ne {c d : Char} {text rest : List Char}
    (hdrop : text.dropWhile (· != c) = d :: rest) : d = c := by
  have hhead := List.head?_dropWhile_not (· != c) text
  rw [hdrop] at hhead
  simpa using hhead

theorem dropChar_append_cons {wanted c : Char} (hc : c ≠ wanted) (text rest : List Char) :
    dropChar wanted (text ++ c :: rest) = (dropChar wanted text).map (· ++ c :: rest) := by
  cases text with
  | nil => simp [dropChar, hc]
  | cons d text =>
      rw [List.cons_append, dropChar, dropChar]
      split <;> rfl

theorem dropExact_eq_some_iff {piece text rest : List Char} :
    dropExact piece text = some rest ↔ text = piece ++ rest := by
  induction piece generalizing text with
  | nil => simp [dropExact]
  | cons wanted piece ih =>
      cases text with
      | nil => simp [dropExact]
      | cons c text => simp [dropExact, ih]

theorem dropChar_eq_some_iff {wanted : Char} {text rest : List Char} :
    dropChar wanted text = some rest ↔ text = wanted :: rest := by
  cases text with
  | nil => simp [dropChar]
  | cons c text => simp [dropChar]

theorem eq_nil_of_prefix_cons {c : Char} {piece back : List Char} (hc : c ∉ piece)
    (hpiece : piece <+: c :: back) : piece = [] := by
  rcases List.prefix_cons_iff.mp hpiece with hnil | ⟨rest, rfl, -⟩
  · exact hnil
  · exact absurd List.mem_cons_self hc

/-- A stretch without a character that parts a text lies on one of its sides. -/
theorem infix_of_notMem {c : Char} {piece front back : List Char} (hc : c ∉ piece)
    (hpiece : piece <:+: front ++ c :: back) : piece <:+: front ∨ piece <:+: back := by
  rcases List.infix_append_iff.mp hpiece with hfront | hback | ⟨left, right, rfl, hleft, hright⟩
  · exact .inl hfront
  · rcases List.infix_cons_iff.mp hback with hprefix | hback
    · rw [eq_nil_of_prefix_cons hc hprefix]
      exact .inl List.nil_infix
    · exact .inr hback
  · have hnil := eq_nil_of_prefix_cons (fun hmem => hc (List.mem_append_right left hmem)) hright
    rw [hnil, List.append_nil]
    exact .inl hleft.isInfix

theorem length_dropBlanks_le (text : List Char) : (dropBlanks text).length ≤ text.length :=
  (List.dropWhile_suffix _).length_le

/-! ## Replacing -/

namespace Pattern

variable {α : Type} {pattern : Pattern α} {separator : Char}

/-- In front of the separator the pattern finds what it finds at the end of a text, and never
anything at the end itself. -/
structure StopsAt (pattern : Pattern α) (separator : Char) : Prop where
  nil : ∀ before, pattern before [] = none
  append : ∀ before text rest, pattern before (text ++ separator :: rest) =
    (pattern before text).map fun found => (found.1, found.2 ++ separator :: rest)

theorem StopsAt.cons (hstops : pattern.StopsAt separator) (before : Option Char)
    (rest : List Char) : pattern before (separator :: rest) = none := by
  have hnone := hstops.append before [] rest
  rwa [hstops.nil] at hnone

theorem StopsAt.replaceAfter_append (hstops : pattern.StopsAt separator)
    (write : α → List Char) {skip : Nat} (before : Option Char) {front : List Char}
    (hskip : skip ≤ front.length) (rest : List Char) :
    pattern.replaceAfter write skip before (front ++ separator :: rest) =
      pattern.replaceAfter write skip before front ++
        separator :: pattern.replaceAfter write 0 (some separator) rest := by
  induction front generalizing skip before with
  | nil =>
      obtain rfl := Nat.le_zero.mp hskip
      simp only [List.nil_append, replaceAfter, hstops.cons]
  | cons c front ih =>
      cases skip with
      | succ skip => exact ih (some c) (Nat.le_of_succ_le_succ hskip)
      | zero =>
          have hmatch := hstops.append before (c :: front) rest
          rw [List.cons_append] at hmatch
          rw [List.cons_append, replaceAfter, replaceAfter, hmatch]
          cases hfound : pattern before (c :: front) with
          | none =>
              rw [ih (some c) (Nat.zero_le _)]
              rfl
          | some found =>
              -- What is skipped ends in front of the separator.
              have hlength : (front ++ separator :: rest).length -
                  (found.2 ++ separator :: rest).length = front.length - found.2.length := by
                simp only [List.length_append]
                omega
              simp only [Option.map_some, hlength]
              rw [ih (some c) (Nat.sub_le _ _), List.append_assoc]

theorem replaceAfter_congr {before other : Option Char}
    (hsame : ∀ text, pattern before text = pattern other text) (write : α → List Char)
    (text : List Char) :
    pattern.replaceAfter write 0 before text = pattern.replaceAfter write 0 other text := by
  cases text with
  | nil => rfl
  | cons c text => rw [replaceAfter, replaceAfter, hsame]

/-- Both sides of a separator are rewritten on their own if the pattern starts behind it as it does
at the start of a text. -/
theorem StopsAt.replaceAll_append (hstops : pattern.StopsAt separator)
    (hstart : ∀ text, pattern (some separator) text = pattern none text) (write : α → List Char)
    (front rest : List Char) :
    pattern.replaceAll write (front ++ separator :: rest) =
      pattern.replaceAll write front ++ separator :: pattern.replaceAll write rest := by
  rw [replaceAll, hstops.replaceAfter_append write none (Nat.zero_le _),
    replaceAfter_congr hstart]
  rfl

/-- What belongs to a match is passed over. -/
theorem replaceAfter_front (write : α → List Char) (before : Option Char) (front back : List Char) :
    pattern.replaceAfter write front.length before (front ++ back) =
      pattern.replaceAfter write 0 (front.getLast?.or before) back := by
  induction front generalizing before with
  | nil => rfl
  | cons c front ih =>
      rw [getLast?_cons_or]
      exact ih (some c)

/-- A match at the front is rewritten, and the search goes on behind it. -/
theorem replaceAfter_of_match (write : α → List Char) {before : Option Char}
    {front rest : List Char} {found : α} (hne : front ≠ [])
    (hmatch : pattern before (front ++ rest) = some (found, rest)) :
    pattern.replaceAfter write 0 before (front ++ rest) =
      write found ++ pattern.replaceAfter write 0 (front.getLast?.or before) rest := by
  obtain ⟨c, front, rfl⟩ := List.exists_cons_of_ne_nil hne
  rw [List.cons_append] at hmatch ⊢
  rw [replaceAfter, hmatch]
  simp only [List.length_append, Nat.add_sub_cancel]
  rw [replaceAfter_front, getLast?_cons_or]

/-- A front part stays as it is if no match starts in it. -/
theorem replaceAfter_append_of_none (write : α → List Char) (before : Option Char)
    {front back : List Char} (hnone : ∀ left right, front = left ++ right → right ≠ [] →
      pattern (left.getLast?.or before) (right ++ back) = none) :
    pattern.replaceAfter write 0 before (front ++ back) =
      front ++ pattern.replaceAfter write 0 (front.getLast?.or before) back := by
  induction front generalizing before with
  | nil => rfl
  | cons c front ih =>
      have hhere : pattern before (c :: front ++ back) = none :=
        hnone [] (c :: front) rfl (List.cons_ne_nil c front)
      rw [List.cons_append] at hhere ⊢
      rw [replaceAfter, hhere, getLast?_cons_or]
      refine congrArg (c :: ·) (ih (some c) fun left right hcut => ?_)
      rw [← getLast?_cons_or c left before]
      exact hnone (c :: left) right (congrArg (c :: ·) hcut)

/-- A match of the whole text is all that is rewritten. -/
theorem replaceAll_of_match_all {write : α → List Char} {text : List Char} {found : α}
    (hne : text ≠ []) (hmatch : pattern none text = some (found, [])) :
    pattern.replaceAll write text = write found := by
  rw [← List.append_nil text] at hmatch ⊢
  rw [replaceAll, replaceAfter_of_match write hne hmatch]
  exact List.append_nil _

/-- A character where nothing is found stays. -/
theorem replaceAll_cons_of_none {write : α → List Char} {c : Char} {text : List Char}
    (hnone : pattern none (c :: text) = none)
    (hstart : ∀ text, pattern (some c) text = pattern none text) :
    pattern.replaceAll write (c :: text) = c :: pattern.replaceAll write text := by
  rw [replaceAll, replaceAfter, hnone]
  simp only [replaceAfter_congr hstart]
  rfl

/-- A pattern that is not found changes nothing. -/
theorem replaceAll_of_none {write : α → List Char} {text : List Char}
    (hnone : ∀ before front back, text = front ++ back → pattern before back = none) :
    pattern.replaceAll write text = text := by
  have hrest : ∀ left right, text = left ++ right → right ≠ [] →
      pattern (left.getLast?.or none) (right ++ []) = none := by
    intro left right hcut _
    rw [List.append_nil]
    exact hnone _ left right hcut
  have hkept := replaceAfter_append_of_none write none hrest
  rw [List.append_nil] at hkept
  rw [replaceAll, hkept]
  exact List.append_nil _

/-- A text that replacing leaves as it is has no match, unless a match might be written again. -/
theorem not_occursIn_of_replaceAll_eq {write : α → List Char}
    (hnil : ∀ before, pattern before [] = none)
    (hfresh : ∀ before found rest, pattern before (write found ++ rest) = none) {text : List Char}
    (hsame : pattern.replaceAll write text = text) : pattern.occursIn text = false := by
  have hafter : ∀ before, pattern.replaceAfter write 0 before text = text →
      pattern.occursAfter before text = false := by
    clear hsame
    induction text with
    | nil =>
        intro before _
        rw [occursAfter, hnil]
        rfl
    | cons c text ih =>
        intro before hsame
        rw [replaceAfter] at hsame
        cases hmatch : pattern before (c :: text) with
        | some part =>
            simp only [hmatch] at hsame
            rw [← hsame, hfresh] at hmatch
            cases hmatch
        | none =>
            simp only [hmatch] at hsame
            rw [occursAfter, hmatch, ih (some c) (List.cons.inj hsame).2]
            rfl
  exact hafter none hsame

/-- A match at the front is the one replaced. -/
theorem replaceFirstAfter_of_match (write : α → List Char) {before : Option Char}
    {text rest : List Char} {found : α} (hne : text ≠ [])
    (hmatch : pattern before text = some (found, rest)) :
    pattern.replaceFirstAfter write before text = write found ++ rest := by
  obtain ⟨c, text, rfl⟩ := List.exists_cons_of_ne_nil hne
  rw [replaceFirstAfter, hmatch]

/-- Replacing the first match leaves a front part as it is if no match starts in it; otherwise a
match that starts in it is the one replaced, and nothing before it changes. -/
theorem replaceFirstAfter_append (write : α → List Char) (before : Option Char)
    (front back : List Char) :
    pattern.replaceFirstAfter write before (front ++ back) =
        front ++ pattern.replaceFirstAfter write (front.getLast?.or before) back ∧
        (∀ left right, front = left ++ right → right ≠ [] →
          pattern (left.getLast?.or before) (right ++ back) = none) ∨
      ∃ left right found rest, front = left ++ right ∧ right ≠ [] ∧
        pattern (left.getLast?.or before) (right ++ back) = some (found, rest) ∧
        pattern.replaceFirstAfter write before (front ++ back) =
          left ++ (write found ++ rest) := by
  induction front generalizing before with
  | nil =>
      refine .inl ⟨rfl, fun left right hnil hne => ?_⟩
      exact absurd (List.append_eq_nil_iff.mp hnil.symm).2 hne
  | cons c front ih =>
      rw [List.cons_append, replaceFirstAfter]
      cases hmatch : pattern before (c :: (front ++ back)) with
      | some part =>
          exact .inr ⟨[], c :: front, part.1, part.2, rfl, by simp, hmatch, rfl⟩
      | none =>
          dsimp only
          rcases ih (some c) with ⟨hrest, hnone⟩ | ⟨left, right, found, rest, rfl, hne, hfound, hrest⟩
          · refine .inl ⟨by rw [hrest, getLast?_cons_or]; rfl, ?_⟩
            intro left right hcut hne
            cases left with
            | nil =>
                obtain rfl : c :: front = right := hcut
                exact hmatch
            | cons d left =>
                obtain ⟨rfl, rfl⟩ := List.cons.inj hcut
                rw [getLast?_cons_or]
                exact hnone left right rfl hne
          · refine .inr ⟨c :: left, right, found, rest, rfl, hne, ?_, by rw [hrest]; rfl⟩
            rwa [getLast?_cons_or]

/-! ## Replacing and one class of characters -/

section Class

variable {write : α → List Char} {keep : Char → Bool}

/-- What is written for a match has the same characters of a class as what was read, and something
was read. -/
def Preserves (pattern : Pattern α) (write : α → List Char) (keep : Char → Bool) : Prop :=
  ∀ before text found rest, pattern before text = some (found, rest) →
    ∃ front, text = front ++ rest ∧ front ≠ [] ∧ front.filter keep = (write found).filter keep

theorem Preserves.filter_replaceAfter (hpreserves : pattern.Preserves write keep) (skip : Nat)
    (before : Option Char) (text : List Char) :
    (pattern.replaceAfter write skip before text).filter keep = (text.drop skip).filter keep := by
  induction text generalizing skip before with
  | nil => simp [replaceAfter]
  | cons c text ih =>
      cases skip with
      | succ skip => exact ih skip (some c)
      | zero =>
          rw [replaceAfter]
          cases hmatch : pattern before (c :: text) with
          | none => simp only [List.filter_cons, ih, List.drop_zero]
          | some part =>
              obtain ⟨found, rest⟩ := part
              obtain ⟨front, htext, hne, hkept⟩ := hpreserves before _ found rest hmatch
              obtain ⟨d, front, rfl⟩ := List.exists_cons_of_ne_nil hne
              obtain ⟨rfl, rfl⟩ := List.cons.inj htext
              -- What is skipped is the front without its first character.
              have hskip : (front.append rest).length - rest.length = front.length := by
                rw [List.append_eq, List.length_append, Nat.add_sub_cancel]
              have hdrop : (front.append rest).drop front.length = rest := List.drop_left
              simp only [List.filter_append, ih, ← hkept, hskip, hdrop]
              exact (List.filter_append (c :: front) rest).symm

theorem Preserves.filter_replaceAll (hpreserves : pattern.Preserves write keep)
    (text : List Char) :
    (pattern.replaceAll write text).filter keep = text.filter keep :=
  hpreserves.filter_replaceAfter 0 none text

theorem Preserves.filter_replaceFirst (hpreserves : pattern.Preserves write keep)
    (text : List Char) :
    (pattern.replaceFirst write text).filter keep = text.filter keep := by
  have hafter : ∀ before, (pattern.replaceFirstAfter write before text).filter keep =
      text.filter keep := by
    induction text with
    | nil => exact fun _ => rfl
    | cons c text ih =>
        intro before
        rw [replaceFirstAfter]
        cases hmatch : pattern before (c :: text) with
        | none => simp only [List.filter_cons, ih]
        | some part =>
            obtain ⟨found, rest⟩ := part
            obtain ⟨front, htext, -, hkept⟩ := hpreserves before _ found rest hmatch
            rw [htext, List.filter_append, ← hkept, List.filter_append]
  exact hafter none

end Class

end Pattern

end QueryWarden.Text
