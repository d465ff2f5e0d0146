import QueryWarden.Proofs.Generation.Reports
import QueryWarden.Proofs.Json.Reading
import QueryWarden.Proofs.Json.Writing
import QueryWarden.Proofs.Text.Trimming

/-!
# Answers survive their recovery

A model may write its answer in any JSON layout, put it in a code fence and talk before and after
it. Taking away fences, trimming and cutting out the outermost brackets leaves exactly the layout, as
long as no text of the answer holds a fence; joining lines then changes white space between tokens
only, since no token holds a line break; and the layout is read back as the answer.
-/

namespace QueryWarden.Generation

open QueryWarden.Json QueryWarden.Text

/-! ## Reading answers -/

theorem chartDecoder_reads (chart : Chart) : chartDecoder.Reads 0 (.text chart.name) chart := by
  have hreads := (stringDecoder_reads chart.name).option.map
    fun name? => (name?.map Chart.ofName).getD default
  rw [Option.map_some, Option.getD_some, Chart.ofName_name] at hreads
  exact hreads

theorem allTexts?_texts (texts : List String) : allTexts? (texts.map .text) = some texts := by
  induction texts with
  | nil => rfl
  | cons text texts ih => simp [allTexts?, ih]

theorem columnsDecoder_reads (columns : List String) :
    columnsDecoder.Reads 2 (.ofTexts columns) columns := by
  have hreads := (anyDecoder_reads columns).map columnsOfValue
  rw [Value.ofTexts, columnsOfValue, allTexts?_texts, Option.getD_some] at hreads
  exact hreads

/-- A proposed chart agrees with the wanted one in the field at an index. -/
def Visualization.AgreesAt (goal : Visualization) : Nat → Visualization → Prop
  | 0, record => record.chart = goal.chart
  | 1, record => record.xAxisColumn = goal.xAxisColumn
  | 2, record => record.yAxisColumns = goal.yAxisColumns
  | 3, record => record.title = goal.title
  | _, _ => True

theorem Visualization.eq_of_agreesAt (goal : Visualization) {record : Visualization}
    (hagrees : ∀ index < 4, goal.AgreesAt index record) : record = goal := by
  obtain ⟨_, _, _, _⟩ := record
  obtain rfl := hagrees 0 (by decide)
  obtain rfl := hagrees 1 (by decide)
  obtain rfl := hagrees 2 (by decide)
  obtain rfl := hagrees 3 (by decide)
  rfl

theorem Visualization.decoder_reads (visualization : Visualization) :
    (visualizationShape.decoder default).Reads 3 visualization.toValue visualization := by
  have hnames : fieldIndex? visualizationShape.fields "chartType".toList = some 0 ∧
      fieldIndex? visualizationShape.fields "xAxisColumn".toList = some 1 ∧
      fieldIndex? visualizationShape.fields "yAxisColumns".toList = some 2 ∧
      fieldIndex? visualizationShape.fields "title".toList = some 3 := by
    decide +kernel
  obtain ⟨hchart, hxAxis, hyAxis, htitle⟩ := hnames
  refine visualizationShape.decoder_reads visualization.AgreesAt default ?_ (show 1 ≤ 2 by decide) ?_
  · exact fun record => visualization.eq_of_agreesAt
  · refine .cons (settles_of_reads hchart rfl
        (Field.optional_reads ((chartDecoder_reads _).mono (by decide)) _ _ _) ?_) <|
      .cons (settles_of_reads hxAxis rfl
        (Field.optional_reads ((stringDecoder_reads _).mono (by decide)) _ _ _) ?_) <|
      .cons (settles_of_reads hyAxis rfl
        (Field.optional_reads (columnsDecoder_reads _) _ _ _) ?_) <|
      .cons (settles_of_reads htitle rfl
        (Field.optional_reads ((stringDecoder_reads _).mono (by decide)) _ _ _) ?_) .nil
    -- Each member writes its own field of the record and no other.
    all_goals rintro record (_ | _ | _ | _ | _) (⟨⟨⟩⟩ | hagrees) <;> first | rfl | exact hagrees

/-- An answer agrees with the wanted one in the field at an index. -/
def Answer.AgreesAt (goal : Answer) : Nat → Answer → Prop
  | 0, record => record.sqlQuery = goal.sqlQuery
  | 1, record => record.explanation = goal.explanation
  | 2, record => record.visualization = goal.visualization
  | _, _ => True

theorem Answer.eq_of_agreesAt (goal : Answer) {record : Answer}
    (hagrees : ∀ index < 3, goal.AgreesAt index record) : record = goal := by
  obtain ⟨_, _, _⟩ := record
  obtain rfl := hagrees 0 (by decide)
  obtain rfl := hagrees 1 (by decide)
  obtain rfl := hagrees 2 (by decide)
  rfl

theorem Answer.decoder_reads (answer : Answer) : answerDecoder.Reads 4 answer.toValue answer := by
  have hnames : fieldIndex? answerShape.fields "sqlQuery".toList = some 0 ∧
      fieldIndex? answerShape.fields "explanation".toList = some 1 ∧
      fieldIndex? answerShape.fields "visualization".toList = some 2 := by
    decide +kernel
  obtain ⟨hsqlQuery, hexplanation, hvisualization⟩ := hnames
  refine answerShape.decoder_reads answer.AgreesAt default ?_ (show 1 ≤ 3 by decide) ?_
  · exact fun record => answer.eq_of_agreesAt
  · refine .cons (settles_of_reads hsqlQuery rfl
        (Field.required_reads ((stringDecoder_reads _).mono (by decide)) _ _ _) ?_) <|
      .cons (settles_of_reads hexplanation rfl
        (Field.optional_reads ((stringDecoder_reads _).default.mono (by decide)) _ _ _) ?_) <|
      .cons (settles_of_reads hvisualization rfl
        (Field.optional_reads (answer.visualization.decoder_reads).default _ _ _) ?_) .nil
    all_goals rintro record (_ | _ | _ | _) (⟨⟨⟩⟩ | hagrees) <;> first | rfl | exact hagrees

/-! ## Fences -/

/-- Three back quotes, which open and close a block of code. -/
def fence : List Char := ['\x60', '\x60', '\x60']

/-- The fence of a block that is said to hold JSON. -/
def jsonFence : List Char := fence ++ "json".toList

/-- The text without any occurrence of a piece. -/
def without (piece text : List Char) : List Char :=
  (exactly piece).replaceAll (fun _ => []) text

theorem stripFences_eq (raw : List Char) :
    stripFences raw = trim (without fence (without jsonFence raw)) := rfl

section Without

variable {piece : List Char} (hne : piece ≠ [])

theorem dropExact_append_cons {c : Char} (hc : c ∉ piece) (text rest : List Char) :
    dropExact piece (text ++ c :: rest) = (dropExact piece text).map (· ++ c :: rest) := by
  induction piece generalizing text with
  | nil => rfl
  | cons wanted piece ih =>
      obtain ⟨hwanted, hpiece⟩ := List.ne_and_not_mem_of_not_mem_cons hc
      cases text with
      | nil => simp [dropExact, hwanted]
      | cons d text =>
          rw [List.cons_append, dropExact, dropExact, ih hpiece]
          split <;> rfl

include hne

theorem exactly_stopsAt {c : Char} (hc : c ∉ piece) : (exactly piece).StopsAt c where
  nil before := by
    obtain ⟨wanted, piece, rfl⟩ := List.exists_cons_of_ne_nil hne
    rfl
  append before text rest := by
    rw [exactly, exactly, dropExact_append_cons hc]
    cases dropExact piece text <;> rfl

theorem without_append_cons {c : Char} (hc : c ∉ piece) (front rest : List Char) :
    without piece (front ++ c :: rest) = without piece front ++ c :: without piece rest :=
  (exactly_stopsAt hne hc).replaceAll_append (fun _ => rfl) _ front rest

omit hne in
theorem without_of_not_infix {text : List Char} (hclear : ¬ piece <:+: text) :
    without piece text = text := by
  refine Pattern.replaceAll_of_none ?_
  rintro before front back rfl
  rw [exactly, Option.map_eq_none_iff, Option.eq_none_iff_forall_ne_some]
  intro rest hrest
  rw [dropExact_eq_some_iff.mp hrest] at hclear
  exact hclear ⟨front, rest, by rw [List.append_assoc]⟩

/-- Nothing new appears when a piece is taken away. -/
theorem mem_of_mem_without {c : Char} (hc : c ∉ piece) {text : List Char}
    (hmem : c ∈ without piece text) : c ∈ text := by
  have hpreserves : (exactly piece).Preserves (fun _ => []) (· == c) := by
    intro before text found rest hmatch
    obtain ⟨rest, hrest, heq⟩ := Option.map_eq_some_iff.mp hmatch
    obtain ⟨-, rfl⟩ := Prod.mk.inj heq
    refine ⟨piece, dropExact_eq_some_iff.mp hrest, hne, ?_⟩
    rw [List.filter_nil, List.filter_eq_nil_iff]
    intro d hd heq
    exact hc (beq_iff_eq.mp heq ▸ hd)
  have hkept : c ∈ (without piece text).filter (· == c) :=
    List.mem_filter.mpr ⟨hmem, beq_self_eq_true c⟩
  rw [without, hpreserves.filter_replaceAll] at hkept
  exact (List.mem_filter.mp hkept).1

end Without

/-! ## Cutting out the JSON -/

/-- A reply with a JSON text in it: prose before and after, and perhaps a fence around the text. The
prose before holds no opening bracket and the prose after no closing one. -/
inductive Wraps (opening closing : Char) (json : List Char) : List Char → Prop
  | bare {before after : List Char} (hbefore : opening ∉ before) (hafter : closing ∉ after) :
      Wraps opening closing json (before ++ json ++ after)
  | fenced {before after mark : List Char} (hmark : mark = fence ∨ mark = jsonFence)
      (hbefore : opening ∉ before) (hafter : closing ∉ after) :
      Wraps opening closing json (before ++ (mark ++ json ++ fence) ++ after)

/-- The brackets around objects and lists. -/
def brackets : List Char := ['[', ']', '\x7b', '\x7d']

theorem not_mem_of_mem_brackets {c : Char} (hc : c ∈ brackets) :
    c ∉ spaces ∧ c ∉ fence ∧ c ∉ jsonFence ∧ isBlank c = false := by
  simp only [brackets, List.mem_cons, List.not_mem_nil, or_false] at hc
  rcases hc with rfl | rfl | rfl | rfl <;> decide +kernel

section Cutting

variable {opening closing : Char} {left middle right : List Char}

/-- The outermost brackets are found from both ends. -/
theorem outermost_append (hleft : opening ∉ left) (hright : closing ∉ right) :
    outermost opening closing (left ++ opening :: (middle ++ closing :: right)) =
      opening :: (middle ++ [closing]) := by
  have hopening : (opening != opening) = false := by simp
  have hclosing : (closing != closing) = false := by simp
  have hnil : dropEndWhile (· != closing) right = [] :=
    dropEndWhile_eq_nil fun c hc => bne_iff_ne.mpr fun heq => hright (heq ▸ hc)
  have hend : dropEndWhile (· != closing) (opening :: middle ++ closing :: right) =
      opening :: (middle ++ [closing]) := by
    rw [@dropEndWhile_append_cons (· != closing) closing hclosing, hnil]
    rfl
  rw [List.cons_append] at hend
  simp only [outermost, @dropWhile_append_cons (· != opening) opening hopening,
    dropWhile_ne_of_not_mem hleft, List.nil_append, hend]
  rw [if_neg (by simp)]

variable (hopening : opening ∈ brackets) (hclosing : closing ∈ brackets)

include hopening hclosing

/-- Taking fences and blanks away touches only what stands around the brackets. -/
theorem exists_stripFences (hleft : opening ∉ left) (hright : closing ∉ right)
    (hclear : ¬ fence <:+: middle) :
    ∃ front back, stripFences (left ++ opening :: (middle ++ closing :: right)) =
        front ++ opening :: (middle ++ closing :: back) ∧
      opening ∉ front ∧ closing ∉ back := by
  obtain ⟨-, hopenFence, hopenJson, hopenBlank⟩ := not_mem_of_mem_brackets hopening
  obtain ⟨-, hcloseFence, hcloseJson, hcloseBlank⟩ := not_mem_of_mem_brackets hclosing
  have hclearJson : ¬ jsonFence <:+: middle := fun hoccurs =>
    hclear ((List.prefix_append fence _).isInfix.trans hoccurs)
  have hfence : fence ≠ [] := by decide
  have hjson : jsonFence ≠ [] := by decide +kernel
  refine ⟨trimStart (without fence (without jsonFence left)),
    trimEnd (without fence (without jsonFence right)), ?_, ?_, ?_⟩
  · rw [stripFences_eq, without_append_cons hjson hopenJson, without_append_cons hjson hcloseJson,
      without_of_not_infix hclearJson, without_append_cons hfence hopenFence,
      without_append_cons hfence hcloseFence, without_of_not_infix hclear, trim, trimStart,
      dropWhile_append_cons hopenBlank, trimEnd, ← List.cons_append, ← List.append_assoc,
      dropEndWhile_append_cons hcloseBlank, List.append_assoc]
    rfl
  · intro hmem
    have hmem := (List.dropWhile_suffix _).subset hmem
    exact hleft (mem_of_mem_without hjson hopenJson (mem_of_mem_without hfence hopenFence hmem))
  · intro hmem
    obtain ⟨dropped, hkept, -⟩ :=
      exists_dropEndWhile isBlank (without fence (without jsonFence right))
    have hmem : closing ∈ without fence (without jsonFence right) := by
      rw [hkept]
      exact List.mem_append_left _ hmem
    exact hright (mem_of_mem_without hjson hcloseJson (mem_of_mem_without hfence hcloseFence hmem))

/-- The brackets of the JSON are the outermost ones of the reply. -/
theorem Wraps.exists_append {json reply : List Char} (hwraps : Wraps opening closing json reply)
    (hjson : json = left ++ opening :: (middle ++ closing :: right))
    (hleft : ∀ c ∈ left, c ∈ spaces) (hright : ∀ c ∈ right, c ∈ spaces) :
    ∃ front back, reply = front ++ opening :: (middle ++ closing :: back) ∧
      opening ∉ front ∧ closing ∉ back := by
  obtain ⟨hopenSpace, hopenFence, hopenJson, -⟩ := not_mem_of_mem_brackets hopening
  obtain ⟨hcloseSpace, hcloseFence, -, -⟩ := not_mem_of_mem_brackets hclosing
  have hleft : opening ∉ left := fun hmem => hopenSpace (hleft _ hmem)
  have hright : closing ∉ right := fun hmem => hcloseSpace (hright _ hmem)
  subst hjson
  cases hwraps with
  | bare hbefore hafter =>
      rename_i before after
      refine ⟨before ++ left, right ++ after, by simp, ?_, ?_⟩
      · simp [hbefore, hleft]
      · simp [hafter, hright]
  | fenced hmark hbefore hafter =>
      rename_i before after mark
      have hmarkClear : opening ∉ mark := by
        rcases hmark with rfl | rfl
        · exact hopenFence
        · exact hopenJson
      refine ⟨before ++ mark ++ left, right ++ fence ++ after, by simp, ?_, ?_⟩
      · simp [hbefore, hleft, hmarkClear]
      · simp [hafter, hright, hcloseFence]

/-- What is cut out of a reply is the JSON in it, without the white space around. -/
theorem laid_outermost {isFirst : Bool} {parts : List (List Token)} {json reply : List Char}
    (hlaid : Laid (.mark opening :: parted closing isFirst parts) json)
    (hclear : ∀ text, .text text ∈ Token.mark opening :: parted closing isFirst parts →
      ¬ fence <:+: text)
    (hwraps : Wraps opening closing json reply) :
    Laid (.mark opening :: parted closing isFirst parts)
      (outermost opening closing (stripFences reply)) := by
  obtain ⟨tokens, heq⟩ := exists_parted_eq closing isFirst parts
  rw [heq] at hlaid hclear ⊢
  obtain ⟨left, middle, right, hjson, hleft, hright, hmiddle⟩ := hlaid.exists_enclosed
  obtain ⟨front, back, rfl, hfront, hback⟩ :=
    hwraps.exists_append hopening hclosing hjson hleft hright
  -- A fence between the brackets would stand in one of the texts there.
  have hmiddleClear : ¬ fence <:+: middle := by
    intro hoccurs
    have hquotes : ∀ c ∈ fence, c = '\x60' := by simp [fence]
    obtain ⟨text, htext, hoccurs⟩ := Laid.exists_infix hquotes (by decide) hmiddle
      (List.infix_cons (hoccurs.trans (List.prefix_append middle _).isInfix))
    exact hclear text htext hoccurs
  obtain ⟨front, back, hstripped, hfront, hback⟩ :=
    exists_stripFences hopening hclosing hfront hback hmiddleClear
  rw [hstripped, outermost_append hfront hback]
  exact hmiddle

end Cutting

/-! ## Joining lines -/

theorem joinLines_append_cons {c : Char} (hc : c ≠ '\n') (front rest : List Char) :
    joinLines (front ++ c :: rest) = joinLines front ++ joinLines (c :: rest) := by
  fun_induction joinLines front with
  | case1 => rfl
  | case2 text ih => rw [List.cons_append, List.cons_append, joinLines, ih, List.cons_append]
  | case3 d text hpair ih =>
      rw [List.cons_append, joinLines, ih, List.cons_append]
      -- A carriage return at the end of the front does not join with what follows: that is no line
      -- feed.
      rintro back rfl hback
      cases text with
      | nil => exact hc (List.cons.inj hback).1
      | cons e text =>
          obtain ⟨rfl, -⟩ := List.cons.inj hback
          exact hpair text rfl rfl

theorem joinLines_append {piece : List Char} (hpiece : '\n' ∉ piece ∧ '\r' ∉ piece)
    (rest : List Char) : joinLines (piece ++ rest) = piece ++ joinLines rest := by
  induction piece with
  | nil => rfl
  | cons c piece ih =>
      obtain ⟨hline, hlines⟩ := List.ne_and_not_mem_of_not_mem_cons hpiece.1
      obtain ⟨hreturn, hreturns⟩ := List.ne_and_not_mem_of_not_mem_cons hpiece.2
      rw [List.cons_append, joinLines, ih ⟨hlines, hreturns⟩]
      · simp [hline.symm, hreturn.symm]
      · exact fun back heq => absurd heq hreturn.symm

theorem mem_spaces_joinLines {gap : List Char} (hgap : ∀ c ∈ gap, c ∈ spaces) :
    ∀ c ∈ joinLines gap, c ∈ spaces := by
  fun_induction joinLines gap with
  | case1 => exact hgap
  | case2 text ih =>
      simp only [List.forall_mem_cons] at hgap ⊢
      exact ⟨by decide, ih hgap.2.2⟩
  | case3 c text _ ih =>
      simp only [List.forall_mem_cons] at hgap ⊢
      refine ⟨?_, ih hgap.2⟩
      split
      · decide
      · exact hgap.1

/-- Joining lines changes white space between tokens and nothing else. -/
theorem laid_joinLines {tokens : List Token} {text : List Char} (hlaid : Laid tokens text) :
    Laid tokens (joinLines text) := by
  induction hlaid with
  | nil hgap => exact .nil (mem_spaces_joinLines hgap)
  | cons hgap hpiece _ ih =>
      have hbreaks := hpiece.not_mem_breaks
      obtain ⟨c, piece, rfl, -⟩ := hpiece.exists_cons
      obtain ⟨hc, -⟩ := List.ne_and_not_mem_of_not_mem_cons hbreaks.1
      rw [List.cons_append, joinLines_append_cons hc.symm, ← List.cons_append,
        joinLines_append hbreaks]
      exact .cons (mem_spaces_joinLines hgap) hpiece ih

/-! ## Recovery -/

/-- The texts of an answer that a model is free in. -/
def Answer.texts (answer : Answer) : List String :=
  answer.sqlQuery :: answer.explanation :: answer.visualization.xAxisColumn ::
    answer.visualization.title :: answer.visualization.yAxisColumns

/-- The names of members and charts, which every answer is written with. -/
def fixedNames : List String :=
  ["sqlQuery", "explanation", "visualization", "chartType", "xAxisColumn", "yAxisColumns", "title",
    "Table", "Bar", "Line", "Pie"]

/-- That no text of a list holds a fence can be computed. -/
theorem not_infix_of_all {texts : List String}
    (hall : texts.all (fun text => !hasInfix fence text.toList) = true) :
    ∀ text ∈ texts, ¬ fence <:+: text.toList := by
  intro text htext hoccurs
  have hclear := List.all_eq_true.mp hall text htext
  rw [(hasInfix_iff _ _).mpr hoccurs] at hclear
  cases hclear

theorem not_infix_of_mem_fixedNames {name : String} (hname : name ∈ fixedNames) :
    ¬ fence <:+: name.toList :=
  not_infix_of_all (by decide +kernel) name hname

theorem Visualization.not_infix_of_mentions {visualization : Visualization}
    (hxAxis : ¬ fence <:+: visualization.xAxisColumn.toList)
    (hyAxis : ∀ column ∈ visualization.yAxisColumns, ¬ fence <:+: column.toList)
    (htitle : ¬ fence <:+: visualization.title.toList) {text : List Char}
    (hmentions : visualization.toValue.Mentions text) : ¬ fence <:+: text := by
  rw [toValue] at hmentions
  cases hmentions with
  | name hmember =>
      simp only [List.mem_cons, List.not_mem_nil, or_false] at hmember
      rcases hmember with rfl | rfl | rfl | rfl <;>
        exact not_infix_of_mem_fixedNames (by simp [fixedNames])
  | member hmember htext =>
      simp only [List.mem_cons, List.not_mem_nil, or_false] at hmember
      rcases hmember with rfl | rfl | rfl | rfl
      · cases htext
        exact not_infix_of_mem_fixedNames (by cases visualization.chart <;> decide)
      · cases htext
        exact hxAxis
      · cases htext with
        | item hitem htext =>
            obtain ⟨column, hcolumn, rfl⟩ := List.mem_map.mp hitem
            cases htext
            exact hyAxis column hcolumn
      · cases htext
        exact htitle

/-- An answer mentions its texts, the name of its chart and the names of its members. -/
theorem Answer.not_infix_of_mentions {answer : Answer}
    (htexts : ∀ text ∈ answer.texts, ¬ fence <:+: text.toList) {text : List Char}
    (hmentions : answer.toValue.Mentions text) : ¬ fence <:+: text := by
  simp only [texts, List.forall_mem_cons] at htexts
  obtain ⟨hsqlQuery, hexplanation, hxAxis, htitle, hyAxis⟩ := htexts
  rw [toValue] at hmentions
  cases hmentions with
  | name hmember =>
      simp only [List.mem_cons, List.not_mem_nil, or_false] at hmember
      rcases hmember with rfl | rfl | rfl <;>
        exact not_infix_of_mem_fixedNames (by simp [fixedNames])
  | member hmember htext =>
      simp only [List.mem_cons, List.not_mem_nil, or_false] at hmember
      rcases hmember with rfl | rfl | rfl
      · cases htext
        exact hsqlQuery
      · cases htext
        exact hexplanation
      · exact Visualization.not_infix_of_mentions hxAxis hyAxis htitle htext

theorem recoverAnswer_of_wraps {answer : Answer}
    (htexts : ∀ text ∈ answer.texts, ¬ fence <:+: text.toList) {tokens : List Token}
    (hwritten : Written answer.toValue tokens) {json : List Char} (hlaid : Laid tokens json)
    {reply : String} (hwraps : Wraps '\x7b' '\x7d' json reply.toList) :
    recoverAnswer reply = answer := by
  have hclear : ∀ text, .text text ∈ tokens → ¬ fence <:+: text := fun text htext =>
    Answer.not_infix_of_mentions htexts (hwritten.mentions htext)
  have hdocument : answerDecoder.document (answerCandidate reply.toList) = .ok answer := by
    refine answer.decoder_reads.document (by decide) hwritten (laid_joinLines ?_)
    cases hwritten with
    | object => exact laid_outermost (by decide) (by decide) hlaid hclear hwraps
  rw [recoverAnswer]
  simp only [hdocument]

theorem recoverSuggestions_of_wraps {questions : List String}
    (htexts : ∀ text ∈ questions, ¬ fence <:+: text.toList) {tokens : List Token}
    (hwritten : Written (.ofTexts questions) tokens) {json : List Char} (hlaid : Laid tokens json)
    {reply : String} (hwraps : Wraps '[' ']' json reply.toList) :
    recoverSuggestions reply = questions := by
  have hclear : ∀ text, .text text ∈ tokens → ¬ fence <:+: text := by
    intro text htext
    cases hwritten.mentions htext with
    | item hitem hmentions =>
        obtain ⟨question, hquestion, rfl⟩ := List.mem_map.mp hitem
        cases hmentions
        exact htexts question hquestion
  have hitems : List.Forall₂ (stringDecoder.Reads 1) (questions.map .text) questions := by
    rw [List.forall₂_map_left_iff, List.forall₂_same]
    exact fun question _ => (stringDecoder_reads question).mono (Nat.zero_le 1)
  have hdocument : (listDecoder stringDecoder).document (suggestionCandidate reply.toList) =
      .ok questions := by
    refine (listDecoder_reads (le_refl 1) hitems).document (by decide) hwritten ?_
    cases hwritten with
    | list => exact laid_outermost (by decide) (by decide) hlaid hclear hwraps
  rw [recoverSuggestions]
  simp only [hdocument]

/-- An answer is recovered from every reply that wraps one of its layouts, and so are questions, as
long as no text holds a fence. -/
theorem recover_wrapped :
    (∀ (answer : Answer) (tokens : List Token) (json : List Char) (reply : String),
      (∀ text ∈ answer.texts, ¬ fence <:+: text.toList) → Written answer.toValue tokens →
      Laid tokens json → Wraps '\x7b' '\x7d' json reply.toList → recoverAnswer reply = answer) ∧
    ∀ (questions : List String) (tokens : List Token) (json : List Char) (reply : String),
      (∀ text ∈ questions, ¬ fence <:+: text.toList) → Written (.ofTexts questions) tokens →
      Laid tokens json → Wraps '[' ']' json reply.toList → recoverSuggestions reply = questions :=
  ⟨fun _ _ _ _ htexts hwritten hlaid hwraps => recoverAnswer_of_wraps htexts hwritten hlaid hwraps,
    fun _ _ _ _ htexts hwritten hlaid hwraps =>
      recoverSuggestions_of_wraps htexts hwritten hlaid hwraps⟩

/-! ## Compact answers -/

theorem isTextual_ofTexts (texts : List String) : (Value.ofTexts texts).IsTextual := by
  refine .list fun item hitem => ?_
  obtain ⟨text, -, rfl⟩ := List.mem_map.mp hitem
  exact .text text

theorem Visualization.isTextual_toValue (visualization : Visualization) :
    visualization.toValue.IsTextual := by
  refine .object ?_
  simp only [List.forall_mem_cons, List.not_mem_nil, false_implies, implies_true, and_true]
  exact ⟨.text _, .text _, isTextual_ofTexts _, .text _⟩

theorem Answer.isTextual_toValue (answer : Answer) : answer.toValue.IsTextual := by
  refine .object ?_
  simp only [List.forall_mem_cons, List.not_mem_nil, false_implies, implies_true, and_true]
  exact ⟨.text _, .text _, answer.visualization.isTextual_toValue⟩

/-- An answer comes back from its fence, and questions from the talk around them, though their texts
hold brackets, quotes, escapes and line breaks. -/
theorem recover_wrapped_compact :
    let answer : Answer := ⟨"SELECT \"NAME\"\nFROM CUSTOMER -- \x7b\x60\x60\x7d", "]\r\n\t\\u0041",
      ⟨.bar, "\x00", ["count(*)", "\x7d"], ""⟩⟩
    let questions : List String := ["How many [customers]?", "Top \"cities\"?\n"]
    recoverAnswer ("Sure:\n\x60\x60\x60json" ++ answer.toValue.compact ++
        "\x60\x60\x60\nAnything else?") = answer ∧
      recoverSuggestions ("Ask this: " ++ (Value.ofTexts questions).compact ++ " \x60\x60\x60") =
        questions := by
  intro answer questions
  obtain ⟨tokens, hwritten, hlaid⟩ := answer.isTextual_toValue.isLaid
  obtain ⟨listTokens, hlistWritten, hlistLaid⟩ := (isTextual_ofTexts questions).isLaid
  constructor
  · refine recover_wrapped.1 answer tokens answer.toValue.render _
      (not_infix_of_all (by decide +kernel)) hwritten hlaid ?_
    have hreply : ("Sure:\n\x60\x60\x60json" ++ answer.toValue.compact ++
        "\x60\x60\x60\nAnything else?").toList = "Sure:\n".toList ++
          (jsonFence ++ answer.toValue.render ++ fence) ++ "\nAnything else?".toList := by
      simp [Value.compact, jsonFence, fence]
    rw [hreply]
    exact .fenced (.inr rfl) (by decide +kernel) (by decide +kernel)
  · refine recover_wrapped.2 questions listTokens (Value.ofTexts questions).render _
      (not_infix_of_all (by decide +kernel)) hlistWritten hlistLaid ?_
    have hreply : ("Ask this: " ++ (Value.ofTexts questions).compact ++
        " \x60\x60\x60").toList = "Ask this: ".toList ++ (Value.ofTexts questions).render ++
          " \x60\x60\x60".toList := by
      simp [Value.compact]
    rw [hreply]
    exact .bare (by decide +kernel) (by decide +kernel)

end QueryWarden.Generation
