import QueryWarden.Proofs.Generation.Recovery
import QueryWarden.Proofs.Json.LineBreaks
import QueryWarden.Proofs.Json.ListedTexts
import QueryWarden.Proofs.Text.Splitting

/-!
# Line breaks in replies

A reply may come with other line ends, or on a single line. Fences, blanks at the ends and brackets
are found in it all the same, so that what is cut out differs by its line breaks only. An answer is
read from joined lines and is not affected; a list of questions is read as it stands, and a line
break in one of its texts makes it unreadable.
-/

namespace QueryWarden.Generation

open QueryWarden.Json QueryWarden.Text

/-- The reply with `line` in place of each line feed. -/
def relined (line : List Char) (raw : String) : String :=
  String.ofList (breakLines line raw.toList)

theorem toList_relined (line : List Char) (raw : String) :
    (relined line raw).toList = breakLines line raw.toList :=
  String.toList_ofList

/-- White space that ends a line. It is joined to a single blank. -/
structure EndsLine (line : List Char) : Prop where
  ne_nil : line ≠ []
  mem_spaces : ∀ c ∈ line, c ∈ spaces
  joinLines_append : ∀ rest, joinLines (line ++ rest) = ' ' :: joinLines rest

theorem endsLine_feed : EndsLine ['\n'] :=
  ⟨List.cons_ne_nil _ _, by simp [spaces], fun _ => rfl⟩

theorem endsLine_return : EndsLine ['\r', '\n'] :=
  ⟨List.cons_ne_nil _ _, by simp [spaces], fun _ => rfl⟩

theorem endsLine_blank : EndsLine [' '] :=
  ⟨List.cons_ne_nil _ _, by simp [spaces], fun _ => rfl⟩

section Cutting

variable {line : List Char}

/-! ## Blanks at the ends -/

section Dropping

variable {drop : Char → Bool} (hdrop : ∀ c ∈ spaces, drop c = true)
  (hspaces : ∀ c ∈ line, c ∈ spaces)

include hdrop hspaces

theorem dropWhile_breakLines (text : List Char) :
    (breakLines line text).dropWhile drop = breakLines line (text.dropWhile drop) := by
  induction text with
  | nil => rfl
  | cons c text ih =>
      by_cases hc : c = '\n'
      · subst hc
        rw [breakLines_line, List.dropWhile_append_of_pos fun c hc => hdrop c (hspaces c hc), ih,
          List.dropWhile_cons_of_pos (hdrop '\n' (by decide))]
      · rw [breakLines_cons hc, List.dropWhile_cons, List.dropWhile_cons]
        split
        next => exact ih
        next => rw [breakLines_cons hc]

theorem dropEndWhile_breakLines (text : List Char) :
    dropEndWhile drop (breakLines line text) = breakLines line (dropEndWhile drop text) := by
  have hreverse : ∀ c ∈ line.reverse, c ∈ spaces :=
    fun c hc => hspaces c (List.mem_reverse.mp hc)
  unfold dropEndWhile
  rw [reverse_breakLines, dropWhile_breakLines hdrop hreverse, reverse_breakLines,
    List.reverse_reverse]

end Dropping

theorem isBlank_of_mem_spaces {c : Char} (hc : c ∈ spaces) : isBlank c = true := by
  have hall : spaces.all isBlank = true := by decide +kernel
  exact List.all_eq_true.mp hall c hc

theorem trim_breakLines (hspaces : ∀ c ∈ line, c ∈ spaces) (text : List Char) :
    trim (breakLines line text) = breakLines line (trim text) := by
  have hblank : ∀ c ∈ spaces, isBlank c = true := fun c hc => isBlank_of_mem_spaces hc
  unfold trim trimStart trimEnd
  rw [dropWhile_breakLines hblank hspaces, dropEndWhile_breakLines hblank hspaces]

/-! ## Fences -/

section Fences

variable {piece : List Char} (hpiece : piece ≠ []) (hclear : ∀ c ∈ spaces, c ∉ piece)

include hpiece hclear

theorem without_append_gap {gap : List Char} (hgap : ∀ c ∈ gap, c ∈ spaces) (hfilled : gap ≠ [])
    (front rest : List Char) :
    without piece (front ++ (gap ++ rest)) =
      without piece front ++ (gap ++ without piece rest) := by
  induction gap generalizing front with
  | nil => exact absurd rfl hfilled
  | cons c gap ih =>
      obtain ⟨hc, hspaces⟩ := List.forall_mem_cons.mp hgap
      rw [List.cons_append, without_append_cons hpiece (hclear c hc)]
      by_cases hempty : gap = []
      · rw [hempty]
        rfl
      · have hrest := ih hspaces hempty []
        rw [List.nil_append] at hrest
        rw [hrest]
        rfl

/-- No line break is taken away with a fence, and no fence stands across one. -/
theorem without_breakLines (hline : EndsLine line) (text : List Char) :
    without piece (breakLines line text) = breakLines line (without piece text) := by
  have hfeed : '\n' ∉ piece := hclear '\n' (by decide)
  -- What stands on one line is not changed.
  have hpart : ∀ part, IsClear (· == '\n') part → breakLines line part = part ∧
      breakLines line (without piece part) = without piece part := by
    intro part hpart
    have hmem : '\n' ∉ part := fun hmem => beq_eq_false_iff_ne.mp (hpart _ hmem) rfl
    exact ⟨breakLines_of_notMem hmem line,
      breakLines_of_notMem (fun h => hmem (mem_of_mem_without hpiece hfeed h)) line⟩
  induction text using cutInduction (· == '\n') with
  | clear text htext =>
      obtain ⟨hkept, hwithout⟩ := hpart text htext
      rw [hkept, hwithout]
  | part part c rest hclean hc ih =>
      obtain rfl := beq_iff_eq.mp hc
      obtain ⟨hkept, hwithout⟩ := hpart part hclean
      rw [breakLines_append, breakLines_line, hkept,
        without_append_gap hpiece hclear hline.mem_spaces hline.ne_nil, ih,
        without_append_cons hpiece hfeed, breakLines_append, breakLines_line, hwithout]

end Fences

theorem notMem_fence_of_mem_spaces {c : Char} (hc : c ∈ spaces) : c ∉ fence ∧ c ∉ jsonFence := by
  have hall : spaces.all (fun c => c ∉ fence ∧ c ∉ jsonFence) = true := by decide +kernel
  exact of_decide_eq_true (List.all_eq_true.mp hall c hc)

theorem stripFences_breakLines (hline : EndsLine line) (raw : List Char) :
    stripFences (breakLines line raw) = breakLines line (stripFences raw) := by
  have hjson : jsonFence ≠ [] := by decide +kernel
  have hfence : fence ≠ [] := by decide
  rw [stripFences_eq, stripFences_eq,
    without_breakLines hjson (fun c hc => (notMem_fence_of_mem_spaces hc).2) hline,
    without_breakLines hfence (fun c hc => (notMem_fence_of_mem_spaces hc).1) hline,
    trim_breakLines hline.mem_spaces]

/-! ## Brackets -/

theorem notMem_of_length_le_one {c : Char} {text : List Char} (hshort : text.length ≤ 1)
    (hlast : c ∉ text.getLast?) : c ∉ text := by
  intro hmem
  cases text with
  | nil => cases hmem
  | cons d text =>
      obtain rfl : text = [] := List.length_eq_zero_iff.mp
        (Nat.le_zero.mp (Nat.le_of_succ_le_succ hshort))
      obtain rfl := List.mem_singleton.mp hmem
      exact hlast rfl

theorem outermost_breakLines (hline : EndsLine line) {opening closing : Char}
    (hopening : opening ∈ brackets) (hclosing : closing ∈ brackets) (text : List Char) :
    outermost opening closing (breakLines line text) =
      breakLines line (outermost opening closing text) := by
  have hdiffers : ∀ {bracket}, bracket ∈ brackets → ∀ c ∈ spaces, (c != bracket) = true := by
    intro bracket hbracket c hc
    apply bne_iff_ne.mpr
    rintro rfl
    exact (not_mem_of_mem_brackets hbracket).1 hc
  have hlast := drop_getLast?_dropEndWhile (· != closing) (text.dropWhile (· != opening))
  unfold outermost
  simp only [dropWhile_breakLines (hdiffers hopening) hline.mem_spaces,
    dropEndWhile_breakLines (hdiffers hclosing) hline.mem_spaces]
  generalize dropEndWhile (· != closing) (text.dropWhile (· != opening)) = inner at hlast ⊢
  have hlength : (breakLines line inner).length ≤ 1 ↔ inner.length ≤ 1 := by
    refine ⟨(length_le_breakLines hline.ne_nil inner).trans, ?_⟩
    intro hshort
    -- All that is found is the closing bracket, which is no line feed.
    have hclear : '\n' ∉ inner := by
      apply notMem_of_length_le_one hshort
      intro hmem
      have hdropped := hdiffers hclosing '\n' (by decide)
      rw [hlast '\n' hmem] at hdropped
      cases hdropped
    rwa [breakLines_of_notMem hclear]
  simp only [hlength]
  split
  next => rfl
  next => rfl

theorem suggestionCandidate_breakLines (hline : EndsLine line) (raw : List Char) :
    suggestionCandidate (breakLines line raw) = breakLines line (suggestionCandidate raw) := by
  unfold suggestionCandidate
  rw [stripFences_breakLines hline, outermost_breakLines hline (by decide) (by decide)]

end Cutting

/-! ## Answers -/

theorem mem_of_mem_outermost {opening closing c : Char} {text : List Char}
    (hmem : c ∈ outermost opening closing text) : c ∈ text := by
  unfold outermost at hmem
  dsimp only at hmem
  split at hmem
  next => exact hmem
  next =>
    obtain ⟨dropped, hkept, -⟩ :=
      exists_dropEndWhile (· != closing) (text.dropWhile (· != opening))
    apply (List.dropWhile_suffix _).subset
    rw [hkept]
    exact List.mem_append_left _ hmem

theorem mem_of_mem_stripFences {c : Char} (hfence : c ∉ fence) (hjson : c ∉ jsonFence)
    {raw : List Char} (hmem : c ∈ stripFences raw) : c ∈ raw := by
  obtain ⟨left, right, htext, -⟩ := isTrimmed_trim (without fence (without jsonFence raw))
  rw [stripFences_eq] at hmem
  apply mem_of_mem_without (by decide +kernel) hjson
  apply mem_of_mem_without (by decide) hfence
  rw [htext]
  exact List.mem_append_left _ (List.mem_append_right _ hmem)

/-- It makes no difference to joined lines which way they ended. -/
theorem joinLines_breakLines {line : List Char} (hline : EndsLine line) {text : List Char}
    (hreturn : '\r' ∉ text) : joinLines (breakLines line text) = breakLines [' '] text := by
  induction text with
  | nil => rfl
  | cons c text ih =>
      obtain ⟨hc, htext⟩ := List.ne_and_not_mem_of_not_mem_cons hreturn
      by_cases hfeed : c = '\n'
      · subst hfeed
        rw [breakLines_line, breakLines_line, hline.joinLines_append, ih htext,
          List.singleton_append]
      · have hpiece : '\n' ∉ [c] ∧ '\r' ∉ [c] :=
          ⟨mt List.mem_singleton.mp (Ne.symm hfeed), mt List.mem_singleton.mp hc⟩
        rw [breakLines_cons hfeed, breakLines_cons hfeed, ← ih htext]
        exact joinLines_append hpiece _

theorem answerCandidate_breakLines {line : List Char} (hline : EndsLine line) {raw : List Char}
    (hreturn : '\r' ∉ raw) :
    answerCandidate (breakLines line raw) =
      breakLines [' '] (outermost '\x7b' '\x7d' (stripFences raw)) := by
  have hclear : '\r' ∉ outermost '\x7b' '\x7d' (stripFences raw) := fun hmem => hreturn
    (mem_of_mem_stripFences (by decide) (by decide +kernel) (mem_of_mem_outermost hmem))
  unfold answerCandidate
  rw [stripFences_breakLines hline, outermost_breakLines hline (by decide) (by decide),
    joinLines_breakLines hline hclear]

/-- The answer in a reply is the same whatever ends its lines. -/
theorem recoverAnswer_relined {line : List Char} (hline : EndsLine line) {raw : String}
    (hreturn : '\r' ∉ raw.toList) : recoverAnswer (relined line raw) = recoverAnswer raw := by
  have hself := answerCandidate_breakLines endsLine_feed hreturn
  rw [breakLines_self] at hself
  unfold recoverAnswer
  rw [toList_relined, answerCandidate_breakLines hline hreturn, hself]

/-! ## Questions -/

theorem length_le_of_text_mem {tokens : List Token} {text value : List Char}
    (hlaid : Laid tokens text) (hmem : .text value ∈ tokens) : value.length ≤ text.length := by
  induction hlaid with
  | nil => cases hmem
  | cons _ hpiece _ ih =>
      simp only [List.length_append]
      rcases List.mem_cons.mp hmem with rfl | hmem
      · cases hpiece with
        | text hbody =>
            have hlength := hbody.length_le
            simp only [List.length_append, List.length_cons]
            omega
      · have hlength := ih hmem
        omega

/-- Questions are recovered exactly from their layouts: a diagnosis quotes what it is about, so it
is too long to be one of them. -/
theorem recoverSuggestions_eq_iff {raw : String} {questions : List String} {text : List Char}
    (hlaid : Laid (listTokens questions) text)
    (hlength : text.length ≤ (suggestionCandidate raw.toList).length) :
    recoverSuggestions raw = questions ↔
      Laid (listTokens questions) (suggestionCandidate raw.toList) := by
  rw [← document_eq_ok_iff]
  unfold recoverSuggestions
  cases hread : (listDecoder stringDecoder).document (suggestionCandidate raw.toList) with
  | ok found => simp only [hread, Except.ok.injEq]
  | error fault =>
      simp only [hread, reduceCtorEq, iff_false]
      rintro rfl
      have hshort := length_le_of_text_mem hlaid (.tail _ (.head _))
      simp only [String.toList_append, String.toList_ofList, List.length_append] at hshort
      have hprefix : 0 < "Failed to generate suggestions. Raw: ".toList.length := by decide +kernel
      omega

/-- A list of questions that can be read once its lines are joined can be read with its line ends
exactly if no text in it is broken. -/
theorem recoverSuggestions_relined_iff {raw : String} {questions : List String}
    (hflat : (listDecoder stringDecoder).document
      (suggestionCandidate (relined [' '] raw).toList) = .ok questions)
    {line : List Char} (hline : EndsLine line)
    (hbreaks : ∀ text, breaksText false (breakLines line text) = breaksText false text) :
    recoverSuggestions (relined line raw) = questions ↔
      breaksText false (suggestionCandidate raw.toList) = false := by
  have hlaid := document_eq_ok_iff.mp hflat
  rw [toList_relined, suggestionCandidate_breakLines endsLine_blank] at hlaid
  have hcut : suggestionCandidate (relined line raw).toList =
      breakLines line (suggestionCandidate raw.toList) := by
    rw [toList_relined, suggestionCandidate_breakLines hline]
  rw [recoverSuggestions_eq_iff hlaid, hcut]
  · constructor
    · intro hlaid
      rw [← hbreaks]
      exact hlaid.breaksText_eq_false
    · intro hwhole
      exact hlaid.of_breakLines rfl hwhole hline.mem_spaces
  · rw [hcut, breakLines_blank, List.length_map]
    exact length_le_breakLines hline.ne_nil _

/-- A reply without carriage returns gives the same answer with blanks or with carriage returns and
line feeds in place of its line feeds. Questions that it gives with blanks it gives with line ends
of either kind exactly if none of these stands in the text of a question. -/
theorem recover_relined {raw : String} (hreturn : '\r' ∉ raw.toList) :
    recoverAnswer (relined [' '] raw) = recoverAnswer raw ∧
      recoverAnswer (relined ['\r', '\n'] raw) = recoverAnswer raw ∧
      ∀ questions, (listDecoder stringDecoder).document
          (suggestionCandidate (relined [' '] raw).toList) = .ok questions →
        recoverSuggestions (relined [' '] raw) = questions ∧
        (recoverSuggestions raw = questions ↔
          breaksText false (suggestionCandidate raw.toList) = false) ∧
        (recoverSuggestions (relined ['\r', '\n'] raw) = questions ↔
          breaksText false (suggestionCandidate raw.toList) = false) := by
  refine ⟨recoverAnswer_relined endsLine_blank hreturn,
    recoverAnswer_relined endsLine_return hreturn, ?_⟩
  intro questions hflat
  refine ⟨?_, ?_, recoverSuggestions_relined_iff hflat endsLine_return (breaksText_returns false)⟩
  · unfold recoverSuggestions
    simp only [hflat]
  · have hself : relined ['\n'] raw = raw := by
      rw [relined, breakLines_self, String.ofList_toList]
    have hraw := recoverSuggestions_relined_iff hflat endsLine_feed fun text => by
      rw [breakLines_self]
    rwa [hself] at hraw

/-- Line ends between the questions of a fenced list are of no account. -/
theorem recover_relined_listed :
    let raw := "Ask:\n\x60\x60\x60json\n[\"How many customers?\",\n \"Top\\ncities?\"]\n\x60\x60\x60"
    let questions := ["How many customers?", "Top\ncities?"]
    '\r' ∉ raw.toList ∧
      (listDecoder stringDecoder).document
        (suggestionCandidate (relined [' '] raw).toList) = .ok questions ∧
      recoverSuggestions raw = questions ∧
      recoverSuggestions (relined ['\r', '\n'] raw) = questions := by
  intro raw questions
  have hreturn : '\r' ∉ raw.toList := by decide +kernel
  have hflat : (listDecoder stringDecoder).document
      (suggestionCandidate (relined [' '] raw).toList) = .ok questions := by
    apply toOption_eq_some_iff.mp
    decide +kernel
  obtain ⟨-, hraw, hdos⟩ := (recover_relined hreturn).2.2 questions hflat
  have hwhole : breaksText false (suggestionCandidate raw.toList) = false := by decide +kernel
  exact ⟨hreturn, hflat, hraw.mpr hwhole, hdos.mpr hwhole⟩

/-- A question that is broken in two lines is lost. -/
theorem recover_broken_question :
    let raw := "[\"How many\ncustomers?\"]"
    '\r' ∉ raw.toList ∧
      (listDecoder stringDecoder).document
        (suggestionCandidate (relined [' '] raw).toList) = .ok ["How many customers?"] ∧
      recoverSuggestions raw ≠ ["How many customers?"] ∧
      recoverSuggestions (relined ['\r', '\n'] raw) ≠ ["How many customers?"] := by
  intro raw
  refine ⟨by decide +kernel, ?_, by decide +kernel, by decide +kernel⟩
  apply toOption_eq_some_iff.mp
  decide +kernel

end QueryWarden.Generation
