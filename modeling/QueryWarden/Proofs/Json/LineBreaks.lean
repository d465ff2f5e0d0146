import QueryWarden.Proofs.Json.Layout

/-!
# Line breaks in JSON texts

Between tokens a line break is as good as any other white space, but a text that a line is broken in
is no JSON. So when a text with its lines joined is a layout of some tokens, the text itself is one
if no break stands between quotes.
-/

namespace QueryWarden.Text

/-- The text with `line` in place of each line feed. -/
def breakLines (line text : List Char) : List Char :=
  text.flatMap fun c => if c = '\n' then line else [c]

section Breaking

variable {line text : List Char}

theorem breakLines_append (line front rest : List Char) :
    breakLines line (front ++ rest) = breakLines line front ++ breakLines line rest :=
  List.flatMap_append

theorem breakLines_line (line rest : List Char) :
    breakLines line ('\n' :: rest) = line ++ breakLines line rest := rfl

theorem breakLines_cons {c : Char} (hc : c ≠ '\n') (line rest : List Char) :
    breakLines line (c :: rest) = c :: breakLines line rest := by
  unfold breakLines
  rw [List.flatMap_cons, if_neg hc, List.singleton_append]

theorem breakLines_of_notMem (hclear : '\n' ∉ text) (line : List Char) :
    breakLines line text = text := by
  induction text with
  | nil => rfl
  | cons c text ih =>
      obtain ⟨hc, htext⟩ := List.ne_and_not_mem_of_not_mem_cons hclear
      rw [breakLines_cons hc.symm, ih htext]

theorem breakLines_self (text : List Char) : breakLines ['\n'] text = text := by
  induction text with
  | nil => rfl
  | cons c text ih =>
      by_cases hc : c = '\n'
      · subst hc
        rw [breakLines_line, ih, List.singleton_append]
      · rw [breakLines_cons hc, ih]

theorem mem_breakLines_iff {c : Char} :
    c ∈ breakLines line text ↔ '\n' ∈ text ∧ c ∈ line ∨ c ∈ text ∧ c ≠ '\n' := by
  unfold breakLines
  rw [List.mem_flatMap]
  constructor
  · rintro ⟨d, hd, hc⟩
    split at hc
    next hline => exact .inl ⟨hline ▸ hd, hc⟩
    next hline =>
      obtain rfl := List.mem_singleton.mp hc
      exact .inr ⟨hd, hline⟩
  · rintro (⟨hline, hc⟩ | ⟨hmem, hc⟩)
    · exact ⟨'\n', hline, hc⟩
    · refine ⟨c, hmem, ?_⟩
      rw [if_neg hc]
      exact List.mem_singleton_self c

theorem length_le_breakLines (hline : line ≠ []) (text : List Char) :
    text.length ≤ (breakLines line text).length := by
  induction text with
  | nil => exact Nat.zero_le _
  | cons c text ih =>
      by_cases hc : c = '\n'
      · subst hc
        have hlength := List.length_pos_iff.mpr hline
        rw [breakLines_line, List.length_append, List.length_cons]
        omega
      · rw [breakLines_cons hc, List.length_cons, List.length_cons]
        exact Nat.succ_le_succ ih

theorem breakLines_blank (text : List Char) :
    breakLines [' '] text = text.map fun c => if c = '\n' then ' ' else c := by
  induction text with
  | nil => rfl
  | cons c text ih =>
      rw [List.map_cons, ← ih]
      split
      next hc =>
        subst hc
        exact breakLines_line _ _
      next hc => exact breakLines_cons hc _ _

theorem reverse_breakLines (line text : List Char) :
    (breakLines line text).reverse = breakLines line.reverse text.reverse := by
  unfold breakLines
  rw [List.reverse_flatMap]
  congr 1
  funext c
  rw [Function.comp_apply, apply_ite List.reverse, List.reverse_singleton]

/-- Where the joined text is cut the text is cut as well. -/
theorem exists_of_breakLines_eq_append {front rest : List Char}
    (hjoined : breakLines [' '] text = front ++ rest) :
    ∃ before behind, text = before ++ behind ∧ breakLines [' '] before = front ∧
      breakLines [' '] behind = rest := by
  simp only [breakLines_blank] at hjoined ⊢
  exact List.map_eq_append_iff.mp hjoined

/-- A single character that stands for a line feed is one. -/
theorem eq_line_of_breakLines {c : Char} (hjoined : breakLines [' '] text = [c])
    (hmem : '\n' ∈ text) : text = ['\n'] := by
  rw [breakLines_blank] at hjoined
  obtain ⟨d, rfl, -⟩ := List.map_eq_singleton_iff.mp hjoined
  obtain rfl := List.mem_singleton.mp hmem
  rfl

/-- A text that has no blank when its lines are joined has no line feed. -/
theorem notMem_of_breakLines (hblank : ' ' ∉ breakLines [' '] text) : '\n' ∉ text := by
  intro hmem
  apply hblank
  exact mem_breakLines_iff.mpr (.inl ⟨hmem, List.mem_singleton_self _⟩)

end Breaking

end QueryWarden.Text

namespace QueryWarden.Json

open QueryWarden.Text

/-- A line feed stands between the quotes of a text; `isInside` tells whether the first character
does. What follows a backslash ends no text. -/
def breaksText : Bool → List Char → Bool
  | _, [] => false
  | false, c :: text => breaksText (c == '"') text
  | true, '\\' :: c :: text => c == '\n' || breaksText true text
  | true, c :: text => c == '\n' || breaksText (c != '"') text

/-! ## Breaks in layouts -/

theorem breaksText_append_of_notMem {front : List Char} (hquote : '"' ∉ front)
    (rest : List Char) : breaksText false (front ++ rest) = breaksText false rest := by
  induction front with
  | nil => rfl
  | cons c front ih =>
      obtain ⟨hc, hfront⟩ := List.ne_and_not_mem_of_not_mem_cons hquote
      rw [List.cons_append, breaksText, beq_eq_false_iff_ne.mpr hc.symm, ih hfront]

theorem breaksText_cons_plain {c : Char} (hbackslash : c ≠ '\\') (rest : List Char) :
    breaksText true (c :: rest) = (c == '\n' || breaksText (c != '"') rest) := by
  rw [breaksText]
  intro d back hc
  exact absurd hc hbackslash

/-- Most characters of a text break and end nothing. -/
theorem breaksText_cons_same {c : Char} (hbackslash : c ≠ '\\') (hline : c ≠ '\n')
    (hquote : c ≠ '"') (rest : List Char) : breaksText true (c :: rest) = breaksText true rest := by
  rw [breaksText_cons_plain hbackslash, beq_eq_false_iff_ne.mpr hline, bne_iff_ne.mpr hquote,
    Bool.false_or]

theorem SpellsUnit.breaksText_append {unit : Nat} {digits : List Char}
    (hdigits : SpellsUnit unit digits) (rest : List Char) :
    breaksText true (digits ++ rest) = breaksText true rest := by
  have hdigit : ∀ {value : Nat} {c : Char}, IsHexDigit value c → ∀ rest,
      breaksText true (c :: rest) = breaksText true rest := by
    intro value c hc rest
    have hmem : c ∈ lowerDigits ++ upperDigits := by
      apply List.mem_append.mpr
      exact hc.imp List.mem_of_getElem? List.mem_of_getElem?
    have hdiffers : ∀ {d}, d ∉ lowerDigits ++ upperDigits → c ≠ d := fun hd heq => hd (heq ▸ hmem)
    exact breaksText_cons_same (hdiffers (by decide)) (hdiffers (by decide))
      (hdiffers (by decide)) rest
  obtain ⟨ha, hb, hc, hd⟩ := hdigits
  simp only [List.cons_append, List.nil_append]
  rw [hdigit ha, hdigit hb, hdigit hc, hdigit hd]

theorem breaksText_escape {letter : Char} (hline : letter ≠ '\n') (rest : List Char) :
    breaksText true ('\\' :: letter :: rest) = breaksText true rest := by
  rw [breaksText, beq_eq_false_iff_ne.mpr hline, Bool.false_or]

/-- No spelling of a character breaks the text, and none ends it. -/
theorem SpellsChar.breaksText_append {c : Char} {piece : List Char} (hpiece : SpellsChar c piece)
    (rest : List Char) : breaksText true (piece ++ rest) = breaksText true rest := by
  cases hpiece with
  | plain hquote hbackslash hcontrol =>
      have hline : c ≠ '\n' := by
        rintro rfl
        exact absurd hcontrol (by decide)
      exact breaksText_cons_same hbackslash hline hquote rest
  | short hletter =>
      have hall : ∀ pair ∈ shortEscapes, pair.1 ≠ '\n' := by decide
      exact breaksText_escape (hall _ hletter) rest
  | numbered hdigits =>
      rw [List.cons_append, List.cons_append, breaksText_escape (by decide),
        hdigits.breaksText_append]
  | paired hhigh hlow hc hfirst hsecond =>
      rw [List.append_assoc, List.cons_append, List.cons_append, breaksText_escape (by decide),
        hfirst.breaksText_append, List.cons_append, List.cons_append,
        breaksText_escape (by decide), hsecond.breaksText_append]

theorem SpellsText.breaksText_append {value body : List Char} (hbody : SpellsText value body)
    (rest : List Char) : breaksText true (body ++ '"' :: rest) = breaksText false rest := by
  induction hbody with
  | nil =>
      rw [List.nil_append, breaksText_cons_plain (by decide)]
      rfl
  | cons hpiece _ ih => rw [List.append_assoc, hpiece.breaksText_append, ih]

theorem quote_notMem_of_spaces {gap : List Char} (hgap : ∀ c ∈ gap, c ∈ spaces) : '"' ∉ gap :=
  fun hmem => absurd (hgap _ hmem) (by decide)

theorem quote_notMem_mark {c : Char} (hc : c ∈ marks) : '"' ∉ [c] := by
  intro hmem
  obtain rfl := List.mem_singleton.mp hmem
  exact absurd hc (by decide)

/-- No layout has a break in a text. -/
theorem Laid.breaksText_eq_false {tokens : List Token} {text : List Char}
    (hlaid : Laid tokens text) : breaksText false text = false := by
  induction hlaid with
  | nil hgap =>
      rename_i gap
      have hclear := breaksText_append_of_notMem (quote_notMem_of_spaces hgap) []
      rw [List.append_nil] at hclear
      exact hclear
  | cons hgap hpiece _ ih =>
      rw [breaksText_append_of_notMem (quote_notMem_of_spaces hgap)]
      cases hpiece with
      | mark hc => rw [breaksText_append_of_notMem (quote_notMem_mark hc), ih]
      | text hbody =>
          rw [List.append_assoc, List.cons_append, breaksText]
          exact (hbody.breaksText_append _).trans ih

/-! ## Putting breaks back -/

/-- A text that is spelled once its lines are joined has no line feed, unless it is broken. -/
theorem SpellsText.notMem_of_breakLines {value joined : List Char}
    (hbody : SpellsText value joined) {body rest : List Char}
    (hjoined : breakLines [' '] body = joined)
    (hwhole : breaksText true (body ++ '"' :: rest) = false) : '\n' ∉ body := by
  induction hbody generalizing body with
  | nil =>
      apply Text.notMem_of_breakLines
      rw [hjoined]
      exact List.not_mem_nil
  | cons hpiece _ ih =>
      obtain ⟨piece, back, rfl, hfront, hback⟩ := exists_of_breakLines_eq_append hjoined
      rw [List.append_assoc] at hwhole
      have hclear : '\n' ∉ piece := by
        rcases hpiece.plain_or_escape with ⟨hplain, -⟩ | hescapes
        · intro hmem
          rw [hplain] at hfront
          rw [eq_line_of_breakLines hfront hmem] at hwhole
          cases hwhole
        · apply Text.notMem_of_breakLines
          rw [hfront]
          exact fun hmem => absurd (hescapes _ hmem) (by decide)
      rw [breakLines_of_notMem hclear] at hfront
      rw [hfront, hpiece.breaksText_append] at hwhole
      rw [List.mem_append, not_or]
      exact ⟨hclear, ih hback hwhole⟩

theorem eq_quote_of_breakLines {text : List Char} (hjoined : breakLines [' '] text = ['"']) :
    text = ['"'] := by
  have hclear : '\n' ∉ text := by
    apply Text.notMem_of_breakLines
    rw [hjoined]
    decide
  rwa [breakLines_of_notMem hclear] at hjoined

/-- A text between quotes that is not broken has no line feed, and nothing behind it is broken. -/
theorem SpellsText.quoted_of_breakLines {value body : List Char} (hbody : SpellsText value body)
    {piece back : List Char} (hjoined : breakLines [' '] piece = '"' :: body ++ ['"'])
    (hwhole : breaksText false (piece ++ back) = false) :
    '\n' ∉ piece ∧ breaksText false back = false := by
  obtain ⟨front, closing, rfl, hfront, hclosing⟩ := exists_of_breakLines_eq_append hjoined
  replace hfront : breakLines [' '] front = ['"'] ++ body := hfront
  obtain ⟨opening, middle, rfl, hopening, hmiddle⟩ := exists_of_breakLines_eq_append hfront
  obtain rfl := eq_quote_of_breakLines hopening
  obtain rfl := eq_quote_of_breakLines hclosing
  simp only [List.append_assoc, List.cons_append, List.nil_append] at hwhole
  replace hwhole : breaksText true (middle ++ '"' :: back) = false := hwhole
  have hclear := hbody.notMem_of_breakLines hmiddle hwhole
  rw [breakLines_of_notMem hclear] at hmiddle
  rw [hmiddle, hbody.breaksText_append] at hwhole
  exact ⟨by simp [hclear], hwhole⟩

/-- A layout of joined lines that no text is broken in stays one with any white space in place of
the line feeds. -/
theorem Laid.of_breakLines {tokens : List Token} {joined : List Char} (hlaid : Laid tokens joined)
    {text : List Char} (hjoined : breakLines [' '] text = joined)
    (hwhole : breaksText false text = false) {line : List Char} (hline : ∀ c ∈ line, c ∈ spaces) :
    Laid tokens (breakLines line text) := by
  have hspaces : ∀ {gap}, (∀ c ∈ breakLines [' '] gap, c ∈ spaces) →
      ∀ c ∈ breakLines line gap, c ∈ spaces := by
    intro gap hgap c hc
    rcases mem_breakLines_iff.mp hc with ⟨-, hc⟩ | hc
    · exact hline c hc
    · exact hgap c (mem_breakLines_iff.mpr (.inr hc))
  induction hlaid generalizing text with
  | nil hgap =>
      subst hjoined
      exact .nil (hspaces hgap)
  | cons hgap hpiece _ ih =>
      obtain ⟨gap, behind, rfl, rfl, hbehind⟩ := exists_of_breakLines_eq_append hjoined
      obtain ⟨piece, back, rfl, hspelled, hback⟩ := exists_of_breakLines_eq_append hbehind
      have hgapClear : '"' ∉ gap := fun hmem => quote_notMem_of_spaces hgap
        (mem_breakLines_iff.mpr (.inr ⟨hmem, by decide⟩))
      rw [breaksText_append_of_notMem hgapClear] at hwhole
      have hkept : '\n' ∉ piece ∧ breaksText false back = false := by
        cases hpiece with
        | mark hc =>
            have hclear : '\n' ∉ piece := by
              apply Text.notMem_of_breakLines
              rw [hspelled, List.mem_singleton]
              rintro rfl
              exact absurd hc (by decide)
            rw [breakLines_of_notMem hclear] at hspelled
            rw [hspelled, breaksText_append_of_notMem (quote_notMem_mark hc)] at hwhole
            exact ⟨hclear, hwhole⟩
        | text hbody => exact hbody.quoted_of_breakLines hspelled hwhole
      obtain ⟨hclear, hwhole⟩ := hkept
      rw [breakLines_of_notMem hclear] at hspelled
      rw [breakLines_append, breakLines_append, breakLines_of_notMem hclear, hspelled]
      exact .cons (hspaces hgap) hpiece (ih hback hwhole)

/-- With a carriage return before each line feed the same texts are broken. -/
theorem breaksText_returns (isInside : Bool) (text : List Char) :
    breaksText isInside (breakLines ['\r', '\n'] text) = breaksText isInside text := by
  fun_induction breaksText isInside text with
  | case1 => rfl
  | case2 c text ih =>
      by_cases hc : c = '\n'
      · subst hc
        exact ih
      · rw [breakLines_cons hc, breaksText, ih]
  | case3 c text ih =>
      rw [breakLines_cons (by decide)]
      by_cases hc : c = '\n'
      · subst hc
        rfl
      · rw [breakLines_cons hc, breaksText, ih]
  | case4 c text hescape ih =>
      by_cases hc : c = '\n'
      · subst hc
        rfl
      · rw [breakLines_cons hc, breaksText, ih]
        -- Nothing stands behind a last backslash, in the changed text neither.
        intro d back hbackslash hback
        cases text with
        | nil => cases hback
        | cons e text => exact hescape e text hbackslash rfl

end QueryWarden.Json
