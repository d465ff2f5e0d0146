import QueryWarden.Proofs.Text.Readers
import QueryWarden.Proofs.Text.Trimming
import QueryWarden.Sql.Adaptation

/-!
# Date parts of nested expressions

The rule for date parts takes an expression only up to its first closing parenthesis and leaves the
rest where it is. All the same each call is replaced by one of the function named after the part,
with the whole expression as its argument: what is written ends with a closing parenthesis where one
was read, so that the rest continues the expression.
-/

namespace QueryWarden.Sql

open QueryWarden.Text

/-! ## Calls -/

/-- Somewhere in the text an extraction opens, in any case. -/
def HasExtract (text : List Char) : Prop :=
  "extract(".toList <:+: text.map simpleFold

instance (text : List Char) : Decidable (HasExtract text) :=
  decidable_of_iff _ (hasInfix_iff _ _)

/-- A call that extracts a date part, as it may be written: its words in any case, the blanks around
the part and before the expression, and the expression, in which nothing is extracted. Whether the
parentheses of the expression are balanced plays no role. -/
structure Extraction where
  name : List Char
  opening : List Char
  part : List Char
  before : List Char
  link : List Char
  after : List Char
  expression : List Char
  name_eq : name.map simpleFold = "extract".toList
  blank_opening : ∀ c ∈ opening, isBlank c = true
  part_mem : part.map simpleFold ∈ dateParts
  before_ne_nil : before ≠ []
  blank_before : ∀ c ∈ before, isBlank c = true
  link_eq : link.map simpleFold = "from".toList
  after_ne_nil : after ≠ []
  blank_after : ∀ c ∈ after, isBlank c = true
  expression_ne_nil : expression ≠ []
  starts_expression : ∀ c ∈ expression.head?, isBlank c = false ∧ c ≠ ')'
  not_hasExtract : ¬ HasExtract expression

namespace Extraction

/-- The text of the call. -/
def text (call : Extraction) : List Char :=
  call.name ++ '(' :: (call.opening ++ (call.part ++ (call.before ++ (call.link ++
    (call.after ++ (call.expression ++ [')']))))))

/-- The call of the function named after the part. -/
def partCall (call : Extraction) : List Char :=
  call.part ++ '(' :: (call.expression ++ [')'])

end Extraction

/-! ## Where nothing is extracted -/

section Clear

theorem HasExtract.mono {piece text : List Char} (hextract : HasExtract piece)
    (hpiece : piece <:+: text) : HasExtract text := by
  obtain ⟨left, right, rfl⟩ := hpiece
  refine List.IsInfix.trans hextract ⟨left.map simpleFold, right.map simpleFold, ?_⟩
  simp only [List.map_append]

theorem hasExtract_name {name : List Char} (hname : name.map simpleFold = "extract".toList)
    (rest : List Char) : HasExtract (name ++ '(' :: rest) := by
  have hopening : simpleFold '(' = '(' := by decide
  refine ⟨[], rest.map simpleFold, ?_⟩
  rw [List.map_append, hname, List.map_cons, hopening]
  rfl

theorem not_hasExtract_concat {text : List Char} (hclear : ¬ HasExtract text) :
    ¬ HasExtract (text ++ [')']) := by
  have hclosing : simpleFold ')' = ')' := by decide
  rw [HasExtract, List.map_append, List.map_singleton, hclosing]
  intro hextract
  rcases infix_of_notMem (by decide) hextract with htext | hnil
  · exact hclear htext
  · exact absurd (List.infix_nil.mp hnil) (by decide)

theorem exists_name_of_extractCall {before : Option Char} {text : List Char}
    {found : (List Char × List Char) × List Char} (hfound : extractCall before text = some found) :
    ∃ name rest, text = name ++ '(' :: rest ∧ name.map simpleFold = "extract".toList := by
  simp only [extractCall, Option.bind_eq_bind, Option.bind_eq_some_iff, dropChar_eq_some_iff,
    dropWord_eq_some_iff (show IsPlainWord "extract".toList by decide).ascii] at hfound
  obtain ⟨-, -, -, ⟨name, rfl, hname⟩, rest, rfl, -⟩ := hfound
  exact ⟨name, rest, rfl, hname⟩

variable {segment left right : List Char}

/-- No call starts in a text where nothing is extracted, even if more follows, unless the text ends
within a word. -/
theorem extractCall_append_eq_none (hclear : ¬ HasExtract segment)
    (hlast : ∀ c ∈ segment.getLast?, isWordChar c = false) (hcut : segment = left ++ right)
    (hne : right ≠ []) (before : Option Char) (back : List Char) :
    extractCall before (right ++ back) = none := by
  rw [Option.eq_none_iff_forall_ne_some]
  intro found hfound
  obtain ⟨name, rest, htext, hname⟩ := exists_name_of_extractCall hfound
  rw [hcut, List.getLast?_append_of_ne_nil _ hne] at hlast
  have hword : IsPlainWord "extract".toList := by decide
  obtain ⟨more, hright, -⟩ := hword.exists_of_append_eq hname hne hlast htext
  refine hclear ((hasExtract_name hname more).mono ?_)
  rw [← hright, hcut]
  exact (List.suffix_append left right).isInfix

theorem replaceAfter_of_not_hasExtract (hclear : ¬ HasExtract segment) (before : Option Char) :
    extractCall.replaceAfter datePartCall 0 before segment = segment := by
  have hnone : ∀ left right, segment = left ++ right → right ≠ [] →
      extractCall (left.getLast?.or before) (right ++ []) = none := by
    intro left right hcut _
    rw [List.append_nil, Option.eq_none_iff_forall_ne_some]
    intro found hfound
    obtain ⟨name, rest, rfl, hname⟩ := exists_name_of_extractCall hfound
    refine hclear ((hasExtract_name hname rest).mono ?_)
    rw [hcut]
    exact (List.suffix_append left _).isInfix
  have hkept := Pattern.replaceAfter_append_of_none datePartCall before hnone
  rw [List.append_nil] at hkept
  rw [hkept]
  exact List.append_nil _

/-- A text where nothing is extracted stays in front of what follows, unless it ends within a
word. -/
theorem replaceAfter_append_of_not_hasExtract (hclear : ¬ HasExtract segment)
    (hlast : ∀ c ∈ segment.getLast?, isWordChar c = false) (before : Option Char)
    (back : List Char) :
    extractCall.replaceAfter datePartCall 0 before (segment ++ back) =
      segment ++ extractCall.replaceAfter datePartCall 0 (segment.getLast?.or before) back :=
  Pattern.replaceAfter_append_of_none datePartCall before fun _ _ hcut hne =>
    extractCall_append_eq_none hclear hlast hcut hne _ back

end Clear

/-! ## What the rule finds -/

theorem dropWord_spelled {word spelled : List Char} (hword : IsPlainWord word)
    (hspelled : spelled.map simpleFold = word) (rest : List Char) :
    dropWord word (spelled ++ rest) = some rest :=
  (dropWord_eq_some_iff hword.ascii _ _).mpr ⟨spelled, rfl, hspelled⟩

/-- Of words that start with different letters the one that was written is read. -/
theorem dropAnyWord_spelled {words : List (List Char)} (hwords : ∀ word ∈ words, IsPlainWord word)
    (hheads : words.Pairwise fun word other => word.head? ≠ other.head?) {spelled : List Char}
    (hspelled : spelled.map simpleFold ∈ words) (rest : List Char) :
    dropAnyWord words (spelled ++ rest) = some rest := by
  induction words with
  | nil => cases hspelled
  | cons word words ih =>
      obtain ⟨hword, hwords⟩ := List.forall_mem_cons.mp hwords
      obtain ⟨hdiffers, hheads⟩ := List.pairwise_cons.mp hheads
      rw [dropAnyWord, List.findSome?_cons]
      rcases List.mem_cons.mp hspelled with hhere | hlater
      · rw [dropWord_spelled hword hhere]
      · have hmissed : dropWord word (spelled ++ rest) = none := by
          rw [Option.eq_none_iff_forall_ne_some]
          intro after hread
          obtain ⟨read, htext, hfold⟩ := (dropWord_eq_some_iff hword.ascii _ _).mp hread
          obtain ⟨hne, -⟩ := hword.of_fold hfold
          obtain ⟨hne', -⟩ := (hwords _ hlater).of_fold rfl
          obtain ⟨c, read, rfl⟩ := List.exists_cons_of_ne_nil hne
          obtain ⟨d, spelled, rfl⟩ := List.exists_cons_of_ne_nil hne'
          obtain ⟨rfl, -⟩ := List.cons.inj htext
          refine hdiffers _ hlater ?_
          rw [← hfold]
          rfl
        rw [hmissed]
        exact ih hwords hheads hlater

/-- The argument runs from behind the blanks to the first closing parenthesis. -/
theorem takeArgument_append {gap argument : List Char} (hgap : gap ≠ [])
    (hblank : ∀ c ∈ gap, isBlank c = true) (hne : argument ≠ [])
    (hstart : ∀ c ∈ argument.head?, isBlank c = false) (hclosing : ')' ∉ argument)
    (rest : List Char) :
    takeArgument (gap ++ (argument ++ ')' :: rest)) = some (argument, rest) := by
  have hclear := forall_bne_of_notMem hclosing
  obtain ⟨c, argument, rfl⟩ := List.exists_cons_of_ne_nil hne
  obtain ⟨d, gap, rfl⟩ := List.exists_cons_of_ne_nil hgap
  have hc : isBlank c = false := hstart c rfl
  have htake : ((d :: gap) ++ (c :: argument ++ ')' :: rest)).takeWhile isBlank = d :: gap := by
    rw [List.takeWhile_append_of_pos hblank]
    simp [hc]
  have hdrop : ((d :: gap) ++ (c :: argument ++ ')' :: rest)).dropWhile isBlank =
      c :: argument ++ ')' :: rest := by
    exact dropWhile_append_of_forall hblank hc (argument ++ ')' :: rest)
  have hread : (c :: argument ++ ')' :: rest).takeWhile (· != ')') = c :: argument := by
    rw [List.takeWhile_append_of_pos hclear]
    simp
  have hleft : (c :: argument ++ ')' :: rest).dropWhile (· != ')') = ')' :: rest :=
    dropWhile_append_of_forall hclear rfl rest
  rw [takeArgument]
  simp only [htake, hdrop, hread, hleft]

namespace Extraction

variable (call : Extraction)

/-- Blanks are dropped up to a part that starts with none. -/
theorem dropBlanks_append {gap part : List Char} (hgap : ∀ c ∈ gap, isBlank c = true)
    (hne : part ≠ []) (hstart : ∀ c ∈ part.head?, isBlank c = false) (rest : List Char) :
    dropBlanks (gap ++ (part ++ rest)) = part ++ rest := by
  obtain ⟨c, part, rfl⟩ := List.exists_cons_of_ne_nil hne
  exact dropWhile_append_of_forall hgap (hstart c rfl) (part ++ rest)

/-- The call is found, with the part as written and the expression up to its first closing
parenthesis. -/
theorem extractCall_eq {before : Option Char} (hbefore : atWordStart before = true)
    {argument rest : List Char} (hclosing : ')' ∉ argument)
    (hcut : call.expression ++ [')'] = argument ++ ')' :: rest) (more : List Char) :
    extractCall before (call.text ++ more) = some ((call.part, argument), rest ++ more) := by
  have hplain : IsPlainWord "extract".toList ∧ IsPlainWord "from".toList ∧
      ∀ word ∈ dateParts, IsPlainWord word := by decide
  obtain ⟨hextract, hfrom, hparts⟩ := hplain
  have hstart : ∀ {word spelled : List Char}, IsPlainWord word → spelled.map simpleFold = word →
      ∀ c ∈ spelled.head?, isBlank c = false := fun hword hspelled c hc =>
    isBlank_of_isWordChar ((hword.of_fold hspelled).2 c (List.mem_of_mem_head? hc))
  have hargument : argument ≠ [] ∧ ∀ c ∈ argument.head?, isBlank c = false := by
    obtain ⟨c, expression, hexpression⟩ := List.exists_cons_of_ne_nil call.expression_ne_nil
    have hc := call.starts_expression c (by rw [hexpression]; rfl)
    rw [hexpression] at hcut
    cases argument with
    | nil => exact absurd (List.cons.inj hcut).1 hc.2
    | cons d argument =>
        obtain ⟨rfl, -⟩ := List.cons.inj hcut
        simpa using hc.1
  have hback : call.expression ++ ')' :: more = argument ++ ')' :: (rest ++ more) := by
    simpa using congrArg (· ++ more) hcut
  have htext : call.text ++ more = call.name ++ '(' :: (call.opening ++ (call.part ++
      (call.before ++ (call.link ++ (call.after ++ (argument ++ ')' :: (rest ++ more))))))) := by
    simp only [text, List.append_assoc, List.cons_append, List.nil_append, hback]
  have hpart := (hparts _ call.part_mem).of_fold rfl
  have hlink := hfrom.of_fold call.link_eq
  have hgap := dropBlanks_append call.blank_opening hpart.1 (hstart (hparts _ call.part_mem) rfl)
    (call.before ++ (call.link ++ (call.after ++ (argument ++ ')' :: (rest ++ more)))))
  have hread := dropAnyWord_spelled hparts (by decide) call.part_mem
    (call.before ++ (call.link ++ (call.after ++ (argument ++ ')' :: (rest ++ more)))))
  have hskip : dropSomeBlanks
      (call.before ++ (call.link ++ (call.after ++ (argument ++ ')' :: (rest ++ more))))) =
        some (call.link ++ (call.after ++ (argument ++ ')' :: (rest ++ more)))) := by
    refine (dropSomeBlanks_eq_some_iff _ _).mpr
      ⟨call.before, call.before_ne_nil, call.blank_before, rfl, fun c hc => ?_⟩
    rw [List.head?_append_of_ne_nil _ hlink.1] at hc
    exact hstart hfrom call.link_eq c hc
  have htake := takeArgument_append call.after_ne_nil call.blank_after hargument.1 hargument.2
    hclosing (rest ++ more)
  rw [htext]
  simp only [extractCall, Option.bind_eq_bind, Option.bind_eq_some_iff, Option.guard_eq_some']
  refine ⟨(), hbefore, _, dropWord_spelled hextract call.name_eq _, _,
    dropChar_eq_some_iff.mpr rfl, _, by rw [hgap, hread], _, hskip, _,
    dropWord_spelled hfrom call.link_eq _, _, htake, ?_⟩
  simp [hgap]

/-- A call is replaced as a whole, and the search goes on behind it. -/
theorem replaceAfter_text {before : Option Char} (hbefore : atWordStart before = true)
    (more : List Char) :
    extractCall.replaceAfter datePartCall 0 before (call.text ++ more) =
      call.partCall ++ extractCall.replaceAfter datePartCall 0 (some ')') more := by
  obtain ⟨argument, rest, hcut, hclosing⟩ :=
    List.eq_append_cons_of_mem (show ')' ∈ call.expression ++ [')'] by simp)
  have hmatch := call.extractCall_eq hbefore hclosing hcut more
  -- The match ends with the parenthesis in front of the rest.
  obtain ⟨front, hfront⟩ : ∃ front, call.text = front ++ [')'] ++ rest :=
    ⟨call.name ++ '(' :: (call.opening ++ (call.part ++ (call.before ++ (call.link ++
      (call.after ++ argument))))), by simp [text, hcut]⟩
  have hend : rest.getLast?.or (some ')') = some ')' := by
    have hlast := congrArg List.getLast? hcut
    rw [List.getLast?_concat, List.getLast?_append_cons] at hlast
    rw [← getLast?_cons_or, Option.or_none, ← hlast]
  have hlast : ∀ c ∈ rest.getLast?, isWordChar c = false := by
    intro c hc
    rw [Option.mem_def.mp hc] at hend
    obtain rfl : c = ')' := Option.some.inj hend
    decide
  have hclear : ¬ HasExtract rest := by
    refine fun hextract => not_hasExtract_concat call.not_hasExtract (hextract.mono ?_)
    rw [hcut]
    exact ((List.suffix_cons ')' rest).trans (List.suffix_append argument _)).isInfix
  rw [hfront, List.append_assoc] at hmatch ⊢
  rw [Pattern.replaceAfter_of_match datePartCall (by simp) hmatch, List.getLast?_concat,
    Option.some_or, replaceAfter_append_of_not_hasExtract hclear hlast, hend, ← List.append_assoc]
  simp [datePartCall, partCall, hcut]

end Extraction

/-! ## Texts with calls in them -/

/-- Behind the start of a text or a character of no word, every call is replaced and what stands
between the calls stays. -/
theorem replaceAfter_pieces {pieces : List (List Char × Extraction)} {last : List Char}
    (hsegments : ∀ piece ∈ pieces, ¬ HasExtract piece.1)
    (hstarts : ∀ piece ∈ pieces, ∀ c ∈ piece.1.getLast?, isWordChar c = false)
    (hlast : ¬ HasExtract last) {before : Option Char} (hbefore : atWordStart before = true) :
    extractCall.replaceAfter datePartCall 0 before
        (pieces.flatMap (fun piece => piece.1 ++ piece.2.text) ++ last) =
      pieces.flatMap (fun piece => piece.1 ++ piece.2.partCall) ++ last := by
  induction pieces generalizing before with
  | nil => exact replaceAfter_of_not_hasExtract hlast before
  | cons piece pieces ih =>
      obtain ⟨hsegment, hsegments⟩ := List.forall_mem_cons.mp hsegments
      obtain ⟨hstart, hstarts⟩ := List.forall_mem_cons.mp hstarts
      have hcall : atWordStart (piece.1.getLast?.or before) = true := by
        cases hend : piece.1.getLast? with
        | none => exact hbefore
        | some c =>
            rw [hend] at hstart
            exact (atWordStart_iff _).mpr hstart
      simp only [List.flatMap_cons, List.append_assoc]
      rw [replaceAfter_append_of_not_hasExtract hsegment hstart, piece.2.replaceAfter_text hcall,
        ih hsegments hstarts (by decide)]

/-- Every call that extracts a date part becomes one of the function named after the part, with the
whole expression as its argument, and what stands between the calls stays as it is. -/
theorem extractions_rewritten (pieces : List (List Char × Extraction)) (last : List Char)
    (hsegments : ∀ piece ∈ pieces, ¬ HasExtract piece.1)
    (hstarts : ∀ piece ∈ pieces, ∀ c ∈ piece.1.getLast?, isWordChar c = false)
    (hlast : ¬ HasExtract last) :
    Adjustment.extractDatePart.apply
        (pieces.flatMap (fun piece => piece.1 ++ piece.2.text) ++ last) =
      pieces.flatMap (fun piece => piece.1 ++ piece.2.partCall) ++ last :=
  replaceAfter_pieces hsegments hstarts hlast rfl

/-- Calls whose expressions are calls themselves, written in different ways. -/
theorem extractions_rewritten_nested :
    Adjustment.extractDatePart.apply
        "SELECT EXTRACT( year FROM COALESCE(a, NOW())), Extract(MONTH\tfrom b) FROM t".toList =
      "SELECT year(COALESCE(a, NOW())), MONTH(b) FROM t".toList := by
  let nested : Extraction := {
    name := "EXTRACT".toList
    opening := [' ']
    part := "year".toList
    before := [' ']
    link := "FROM".toList
    after := [' ']
    expression := "COALESCE(a, NOW())".toList
    name_eq := by decide
    blank_opening := by simp; decide
    part_mem := by decide
    before_ne_nil := by simp
    blank_before := by simp; decide
    link_eq := by decide
    after_ne_nil := by simp
    blank_after := by simp; decide
    expression_ne_nil := by simp
    starts_expression := by simp; decide
    not_hasExtract := by decide +kernel }
  let plain : Extraction := {
    name := "Extract".toList
    opening := []
    part := "MONTH".toList
    before := ['\t']
    link := "from".toList
    after := [' ']
    expression := ['b']
    name_eq := by decide
    blank_opening := by simp
    part_mem := by decide
    before_ne_nil := by simp
    blank_before := by simp; decide
    link_eq := by decide
    after_ne_nil := by simp
    blank_after := by simp; decide
    expression_ne_nil := by simp
    starts_expression := by simp; decide
    not_hasExtract := by decide +kernel }
  exact extractions_rewritten [("SELECT ".toList, nested), (", ".toList, plain)] " FROM t".toList
    (by simp; decide +kernel) (by simp; decide) (by decide +kernel)

end QueryWarden.Sql
