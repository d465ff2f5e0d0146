import QueryWarden.Proofs.Text.Replacement
import QueryWarden.Proofs.Text.Splitting
import QueryWarden.Proofs.Text.Trimming
import QueryWarden.Sql.Adaptation

/-!
# Concatenations written as sums

When the rule for concatenations makes the sum of the arguments out of a call. The rule cuts the
call at the first closing parenthesis and what is cut out at its commas, wherever they stand. So a
comma inside an argument is taken for one between arguments, and of a call whose earlier arguments
have a closing parenthesis only a part is rewritten.
-/

namespace QueryWarden.Sql

open QueryWarden.Text

/-! ## Arguments -/

/-- How a text is read as an argument: whether a literal is open, and in how many parentheses. A
comma outside of both ends the argument, and so does a parenthesis that was not opened in it. -/
def argumentEnd : Bool → Nat → List Char → Option (Bool × Nat)
  | inside, depth, [] => some (inside, depth)
  | inside, depth, c :: text =>
      if c = '\'' then argumentEnd (!inside) depth text
      else if inside then argumentEnd inside depth text
      else if c = '(' then argumentEnd inside (depth + 1) text
      else if c = ')' then
        match depth with
        | 0 => none
        | depth + 1 => argumentEnd inside depth text
      else if c = ',' ∧ depth = 0 then none
      else argumentEnd inside depth text

/-- An argument of a call: trimmed, its literals closed and its parentheses balanced, with commas
only inside of these. -/
structure IsArgument (text : List Char) : Prop where
  ne_nil : text ≠ []
  trimmed : trim text = text
  closed : argumentEnd false 0 text = some (false, 0)

instance (text : List Char) : Decidable (IsArgument text) :=
  decidable_of_iff (text ≠ [] ∧ trim text = text ∧ argumentEnd false 0 text = some (false, 0))
    ⟨fun ⟨hne, htrim, hclosed⟩ => ⟨hne, htrim, hclosed⟩, fun h => ⟨h.ne_nil, h.trimmed, h.closed⟩⟩

theorem IsArgument.head?_ne {text : List Char} (hargument : IsArgument text) :
    text.head? ≠ some ')' := by
  intro hhead
  obtain ⟨rest, rfl⟩ := List.head?_eq_some_iff.mp hhead
  exact absurd hargument.closed (by simp [argumentEnd])

/-- A concatenation of the arguments. -/
def concatOf (arguments : List (List Char)) : List Char :=
  "CONCAT(".toList ++ joinWith ", ".toList arguments ++ [')']

/-- The sum of the arguments. -/
def sumOf (arguments : List (List Char)) : List Char :=
  '(' :: joinWith " + ".toList arguments ++ [')']

/-- Somewhere in the text a concatenation is called with at least one character as its argument. -/
def HasConcat (text : List Char) : Prop :=
  ∃ front name back, text = front ++ name ++ '(' :: back ∧ name.map simpleFold = "concat".toList ∧
    (∀ c ∈ front.getLast?, isWordChar c = false) ∧ back.head? ≠ some ')'

/-- Up to the first closing parenthesis of all the arguments, each comma stands between two of
them, and that parenthesis, if there is one, stands in the last of them and behind no blank. -/
def IsSummable : List (List Char) → Prop
  | [] => True
  | [last] => ',' ∉ last.takeWhile (· != ')') ∧
      ∀ c ∈ (last.takeWhile (· != ')')).getLast?, isBlank c = false
  | argument :: arguments => ',' ∉ argument ∧ ')' ∉ argument ∧ IsSummable arguments

instance decidableIsSummable : ∀ arguments, Decidable (IsSummable arguments)
  | [] => .isTrue trivial
  | [last] =>
      have := Option.decidableForallMem (p := (isBlank · = false))
        (last.takeWhile (· != ')')).getLast?
      inferInstanceAs (Decidable (_ ∧ _))
  | _ :: next :: arguments =>
      have := decidableIsSummable (next :: arguments)
      inferInstanceAs (Decidable (_ ∧ _ ∧ IsSummable (next :: arguments)))

theorem not_hasConcat_of_notMem {text : List Char} (hopening : '(' ∉ text) : ¬ HasConcat text := by
  rintro ⟨front, name, back, rfl, -⟩
  exact hopening (by simp)

/-! ## What the rule makes of the arguments -/

/-- The pieces between the commas, trimmed and added up. -/
def sumOfPieces (text : List Char) : List Char :=
  joinWith " + ".toList ((splitWhere (· == ',') text).map trim)

/-- What becomes of the text between the parentheses of a call: a sum up to the first closing
parenthesis in it, and from there on what it was. -/
def summed (text : List Char) : List Char :=
  sumOfPieces (text.takeWhile (· != ')')) ++ text.dropWhile (· != ')')

theorem mem_sumOfPieces {text : List Char} {c : Char} (hc : c ∈ sumOfPieces text) :
    c ∈ " + ".toList ∨ c ∈ text ∧ c ≠ ',' := by
  rcases mem_joinWith hc with hplus | ⟨summand, hsummand, hmem⟩
  · exact .inl hplus
  · obtain ⟨piece, hpiece, rfl⟩ := List.mem_map.mp hsummand
    obtain ⟨left, right, hcut, -⟩ := isTrimmed_trim piece
    have hmem' : c ∈ piece := by
      rw [hcut]
      exact List.mem_append_left _ (List.mem_append_right _ hmem)
    obtain ⟨htext, hcomma⟩ := mem_of_mem_splitWhere hpiece hmem'
    exact .inr ⟨htext, beq_eq_false_iff_ne.mp hcomma⟩

/-- Of a text without commas there is one piece. -/
theorem sumOfPieces_clear {text : List Char} (hcomma : ',' ∉ text) :
    sumOfPieces text = trim text := by
  rw [sumOfPieces, splitWhere_clear (isClear_of_notMem hcomma)]
  rfl

/-- The piece in front of the first comma is the first summand. A blank behind the comma is trimmed
away from the second. -/
theorem sumOfPieces_append {piece : List Char} (htrim : trim piece = piece) (hcomma : ',' ∉ piece)
    (text : List Char) :
    sumOfPieces (piece ++ ", ".toList ++ text) = piece ++ " + ".toList ++ sumOfPieces text := by
  obtain ⟨next, pieces, hsplit, hblank⟩ :=
    exists_splitWhere_cons (· == ',') (c := ' ') rfl text
  have hcut : splitWhere (· == ',') (piece ++ ", ".toList ++ text) =
      piece :: (' ' :: next) :: pieces := by
    rw [List.append_assoc, ← hblank]
    exact splitWhere_append_cons (isClear_of_notMem hcomma) rfl (' ' :: text)
  rw [sumOfPieces, sumOfPieces, hcut, hsplit, List.map_cons, joinWith_cons (by simp), htrim]
  simp only [List.map_cons, trim_cons (c := ' ') rfl]

section Summed

variable (text : List Char)

theorem closing_not_mem_sumOfPieces : ')' ∉ sumOfPieces (text.takeWhile (· != ')')) := by
  intro hmem
  rcases mem_sumOfPieces hmem with hplus | ⟨htext, -⟩
  · exact absurd hplus (by decide)
  · exact absurd (List.mem_takeWhile_imp htext) (by simp)

/-- The sum ends where the first closing parenthesis stood. -/
theorem takeWhile_summed :
    (summed text).takeWhile (· != ')') = sumOfPieces (text.takeWhile (· != ')')) := by
  have hclear := forall_bne_of_notMem (closing_not_mem_sumOfPieces text)
  have hrest : (text.dropWhile (· != ')')).takeWhile (· != ')') = [] := by
    cases hdrop : text.dropWhile (· != ')') with
    | nil => rfl
    | cons c rest =>
        obtain rfl := eq_of_dropWhile_ne hdrop
        rfl
  rw [summed, List.takeWhile_append_of_pos hclear, hrest, List.append_nil]

theorem dropWhile_summed :
    (summed text).dropWhile (· != ')') = text.dropWhile (· != ')') := by
  have hclear := forall_bne_of_notMem (closing_not_mem_sumOfPieces text)
  rw [summed, List.dropWhile_append_of_pos hclear, List.dropWhile_idempotent]

end Summed

/-- An argument with neither a comma nor a closing parenthesis becomes the first summand. -/
theorem summed_append {argument : List Char} (htrim : trim argument = argument)
    (hcomma : ',' ∉ argument) (hclosing : ')' ∉ argument) (text : List Char) :
    summed (argument ++ ", ".toList ++ text) = argument ++ " + ".toList ++ summed text := by
  have hmem : ')' ∉ argument ++ ", ".toList := by simp [hclosing]
  have hclear := forall_bne_of_notMem hmem
  rw [summed, List.takeWhile_append_of_pos hclear, List.dropWhile_append_of_pos hclear,
    sumOfPieces_append htrim hcomma, List.append_assoc, summed]

/-- Behind a closing parenthesis a comma is left where a plus sign should stand. -/
theorem summed_ne_of_closing {argument : List Char} (hclosing : ')' ∈ argument)
    (text other : List Char) :
    summed (argument ++ ", ".toList ++ text) ≠ argument ++ " + ".toList ++ other := by
  have hkept : ∀ back, (argument ++ back).dropWhile (· != ')') =
      argument.dropWhile (· != ')') ++ back := by
    intro back
    have hne : argument.dropWhile (· != ')') ≠ [] :=
      fun hnil => absurd (List.dropWhile_eq_nil_iff.mp hnil _ hclosing) (by simp)
    rw [List.dropWhile_append, List.isEmpty_eq_false_iff.mpr hne]
    rfl
  intro hsum
  have hdrop := dropWhile_summed (argument ++ ", ".toList ++ text)
  rw [hsum, List.append_assoc, List.append_assoc, hkept, hkept, List.append_cancel_left_eq] at hdrop
  exact absurd (List.cons.inj hdrop).1 (by decide)

/-- In front of a closing parenthesis no comma is left. -/
theorem summed_ne_of_comma {argument : List Char} (hcomma : ',' ∈ argument)
    (hclosing : ')' ∉ argument) (text other : List Char) :
    summed text ≠ argument ++ other := by
  have hclear := forall_bne_of_notMem hclosing
  intro hsum
  have hpart := takeWhile_summed text
  rw [hsum, List.takeWhile_append_of_pos hclear] at hpart
  rcases mem_sumOfPieces (hpart ▸ List.mem_append_left _ hcomma) with hplus | ⟨-, hne⟩
  · exact absurd hplus (by decide)
  · exact hne rfl

/-- The last argument stays as it is when its part up to a closing parenthesis is one summand. -/
theorem summed_eq_self_iff {last : List Char} (htrim : trim last = last)
    (hhead : last.head? ≠ some ')') :
    summed last = last ↔ ',' ∉ last.takeWhile (· != ')') ∧
      ∀ c ∈ (last.takeWhile (· != ')')).getLast?, isBlank c = false := by
  constructor
  · intro hself
    have hpart := takeWhile_summed last
    rw [hself] at hpart
    have hcomma : ',' ∉ last.takeWhile (· != ')') := by
      intro hmem
      rw [hpart] at hmem
      rcases mem_sumOfPieces hmem with hplus | ⟨-, hne⟩
      · exact absurd hplus (by decide)
      · exact hne rfl
    rw [sumOfPieces_clear hcomma] at hpart
    obtain ⟨-, -, -, -, -, -, hlast⟩ := isTrimmed_trim (last.takeWhile (· != ')'))
    rw [← hpart] at hlast
    exact ⟨hcomma, hlast⟩
  · rintro ⟨hcomma, hlast⟩
    have hstart : ∀ c ∈ (last.takeWhile (· != ')')).head?, isBlank c = false := by
      obtain ⟨-, -, -, -, -, hfirst, -⟩ := isTrimmed_trim last
      rw [htrim] at hfirst
      cases last with
      | nil => simp
      | cons c rest =>
          have hc : (c != ')') = true := by simpa using hhead
          rw [List.takeWhile_cons, if_pos hc]
          exact hfirst
    have hpart : trim (last.takeWhile (· != ')')) = last.takeWhile (· != ')') :=
      (isTrimmed_iff _ _).mp ⟨[], [], by simp, by simp, by simp, hstart, hlast⟩
    rw [summed, sumOfPieces_clear hcomma, hpart, List.takeWhile_append_dropWhile]

/-- What the rule makes of the arguments is their sum exactly when they are summable. -/
theorem summed_joinWith_iff {arguments : List (List Char)}
    (htrim : ∀ argument ∈ arguments, trim argument = argument)
    (hheads : ∀ argument ∈ arguments, argument.head? ≠ some ')') :
    summed (joinWith ", ".toList arguments) = joinWith " + ".toList arguments ↔
      IsSummable arguments := by
  induction arguments with
  | nil => simp [joinWith, summed, sumOfPieces, splitWhere, trim, trimStart, trimEnd, dropEndWhile,
      IsSummable]
  | cons argument arguments ih =>
      obtain ⟨hargument, htrim⟩ := List.forall_mem_cons.mp htrim
      obtain ⟨hhead, hheads⟩ := List.forall_mem_cons.mp hheads
      by_cases hne : arguments = []
      · subst hne
        exact summed_eq_self_iff hargument hhead
      · have hsummable : IsSummable (argument :: arguments) ↔
            ',' ∉ argument ∧ ')' ∉ argument ∧ IsSummable arguments := by
          obtain ⟨next, arguments, rfl⟩ := List.exists_cons_of_ne_nil hne
          rfl
        rw [hsummable, joinWith_cons hne, joinWith_cons hne]
        by_cases hclosing : ')' ∈ argument
        · simp only [summed_ne_of_closing hclosing, hclosing, not_true_eq_false, false_and, and_false]
        · by_cases hcomma : ',' ∈ argument
          · rw [List.append_assoc argument " + ".toList]
            simp only [summed_ne_of_comma hcomma hclosing, hcomma, not_true_eq_false, false_and]
          · rw [summed_append hargument hcomma hclosing, List.append_cancel_left_eq,
              ih htrim hheads]
            simp only [hcomma, hclosing, not_false_eq_true, true_and]

/-! ## What the rule finds -/

theorem isPlainWord_concat : IsPlainWord "concat".toList := by decide

theorem concatCall_eq_some_iff (before : Option Char) (text inner rest : List Char) :
    concatCall before text = some (inner, rest) ↔
      atWordStart before = true ∧ ∃ name, text = name ++ '(' :: (inner ++ ')' :: rest) ∧
        name.map simpleFold = "concat".toList ∧ inner ≠ [] ∧ ')' ∉ inner := by
  simp only [concatCall, Option.bind_eq_bind, Option.bind_eq_some_iff, Option.guard_eq_some',
    dropChar_eq_some_iff, dropWord_eq_some_iff isPlainWord_concat.ascii]
  constructor
  · rintro ⟨-, hstart, -, ⟨name, rfl, hname⟩, afterOpening, rfl, hfound⟩
    split at hfound
    next c read d after hread hafter =>
      obtain ⟨rfl, rfl⟩ := Prod.mk.inj (Option.some.inj hfound)
      obtain rfl := eq_of_dropWhile_ne hafter
      have hcut : (c :: read) ++ ')' :: after = afterOpening := by
        rw [← hread, ← hafter, List.takeWhile_append_dropWhile]
      refine ⟨hstart, name, by rw [hcut], hname, List.cons_ne_nil c read, fun hmem => ?_⟩
      rw [← hread] at hmem
      exact absurd (List.mem_takeWhile_imp hmem) (by simp)
    next => cases hfound
  · rintro ⟨hstart, name, rfl, hname, hne, hclosing⟩
    have hclear := forall_bne_of_notMem hclosing
    obtain ⟨c, inner, rfl⟩ := List.exists_cons_of_ne_nil hne
    refine ⟨(), hstart, _, ⟨name, rfl, hname⟩, _, rfl, ?_⟩
    rw [List.takeWhile_append_of_pos hclear, List.dropWhile_append_of_pos hclear]
    simp

/-- Where the name and an opening parenthesis stand a call is found unless its closing parenthesis
follows at once. -/
theorem exists_concatCall {before : Option Char} (hstart : atWordStart before = true)
    {name : List Char} (hname : name.map simpleFold = "concat".toList) {text : List Char}
    (hhead : text.head? ≠ some ')') (hclosing : ')' ∈ text) :
    ∃ inner rest, text = inner ++ ')' :: rest ∧ ')' ∉ inner ∧
      concatCall before (name ++ '(' :: text) = some (inner, rest) := by
  obtain ⟨inner, rest, rfl, hclear⟩ := List.eq_append_cons_of_mem hclosing
  refine ⟨inner, rest, rfl, hclear, (concatCall_eq_some_iff _ _ _ _).mpr ?_⟩
  refine ⟨hstart, name, rfl, hname, ?_, hclear⟩
  rintro rfl
  exact hhead rfl

/-- No call starts in a text and ends behind it, its name cut in two, unless the text ends within a
word. -/
theorem hasConcat_of_concatCall {left right back inner rest : List Char} (hne : right ≠ [])
    (hlast : ∀ c ∈ (left ++ right).getLast?, isWordChar c = false)
    (hfound : concatCall left.getLast? (right ++ back) = some (inner, rest)) :
    HasConcat (left ++ right) := by
  obtain ⟨hstart, name, htext, hname, hinner, hclosing⟩ := (concatCall_eq_some_iff _ _ _ _).mp hfound
  rw [List.getLast?_append_of_ne_nil _ hne] at hlast
  obtain ⟨more, rfl, harguments⟩ := isPlainWord_concat.exists_of_append_eq hname hne hlast htext
  refine ⟨left, name, more, by rw [List.append_assoc], hname, (atWordStart_iff _).mp hstart,
    fun hhead => hclosing ?_⟩
  obtain ⟨more, rfl⟩ := List.head?_eq_some_iff.mp hhead
  obtain ⟨c, inner, rfl⟩ := List.exists_cons_of_ne_nil hinner
  obtain ⟨rfl, -⟩ := List.cons.inj harguments
  exact List.mem_cons_self

/-- A call in a text is found with a closing parenthesis behind the text. -/
theorem exists_of_hasConcat {text : List Char} (hconcat : HasConcat text) {back : List Char}
    (hhead : back.head? ≠ some ')') (hclosing : ')' ∈ back) :
    ∃ left right, text = left ++ right ∧ right ≠ [] ∧
      (concatCall left.getLast? (right ++ back)).isSome = true := by
  obtain ⟨front, name, more, rfl, hname, hstart, hmore⟩ := hconcat
  have hmore' : (more ++ back).head? ≠ some ')' := by
    cases more with
    | nil => exact hhead
    | cons c more => exact hmore
  obtain ⟨inner, rest, -, -, hfound⟩ := exists_concatCall ((atWordStart_iff _).mpr hstart) hname hmore'
    (List.mem_append_right more hclosing)
  refine ⟨front, name ++ '(' :: more, by simp, by simp, ?_⟩
  rw [List.append_assoc, List.cons_append, hfound]
  rfl

/-- What becomes of a call at the front of a text. -/
theorem replaceFirstAfter_call {before : Option Char} (hstart : atWordStart before = true)
    {name : List Char} (hname : name.map simpleFold = "concat".toList) {text : List Char}
    (post : List Char) (hhead : (text ++ ')' :: post).head? ≠ some ')') :
    concatCall.replaceFirstAfter sumOfArguments before (name ++ '(' :: (text ++ ')' :: post)) =
      '(' :: (summed text ++ ')' :: post) := by
  obtain ⟨inner, rest, hcut, hclosing, hfound⟩ := exists_concatCall hstart hname hhead (by simp)
  have hclear := forall_bne_of_notMem hclosing
  have hinner : text.takeWhile (· != ')') = inner := by
    have htake := congrArg (List.takeWhile (· != ')')) hcut
    rw [takeWhile_append_cons rfl, List.takeWhile_append_of_pos hclear] at htake
    simpa using htake
  have hrest : text.dropWhile (· != ')') ++ ')' :: post = ')' :: rest := by
    have hdrop := congrArg (List.dropWhile (· != ')')) hcut
    rwa [dropWhile_append_cons rfl, dropWhile_append_of_forall hclear rfl] at hdrop
  rw [Pattern.replaceFirstAfter_of_match _ (by simp) hfound, summed, hinner,
    List.append_assoc, hrest]
  simp [sumOfArguments, sumOfPieces]

/-- No call starts with a parenthesis. -/
theorem concatCall_opening (before : Option Char) (text : List Char) :
    concatCall before ('(' :: text) = none := by
  rw [Option.eq_none_iff_forall_ne_some]
  rintro ⟨inner, rest⟩ hfound
  obtain ⟨-, name, htext, hname, -⟩ := (concatCall_eq_some_iff _ _ _ _).mp hfound
  obtain ⟨hne, hword⟩ := isPlainWord_concat.of_fold hname
  obtain ⟨c, name, rfl⟩ := List.exists_cons_of_ne_nil hne
  obtain ⟨rfl, -⟩ := List.cons.inj htext
  exact absurd (hword _ List.mem_cons_self) (by decide)

/-- A call that starts earlier is the one rewritten, and its name does not stay. -/
theorem replaceFirst_ne_of_hasConcat {pre : List Char} (hconcat : HasConcat pre) {back : List Char}
    (hhead : back.head? ≠ some ')') (hclosing : ')' ∈ back) (other : List Char) :
    concatCall.replaceFirst sumOfArguments (pre ++ back) ≠ pre ++ '(' :: other := by
  rcases concatCall.replaceFirstAfter_append sumOfArguments none pre back with
    ⟨-, hnone⟩ | ⟨left, right, found, rest, rfl, hright, hfound, hwritten⟩
  · obtain ⟨left, right, hcut, hright, hfound⟩ := exists_of_hasConcat hconcat hhead hclosing
    have hmissed := hnone left right hcut hright
    rw [Option.or_none] at hmissed
    rw [hmissed] at hfound
    cases hfound
  · obtain ⟨c, right, rfl⟩ := List.exists_cons_of_ne_nil hright
    have hc : c ≠ '(' := by
      rintro rfl
      rw [List.cons_append, concatCall_opening] at hfound
      cases hfound
    rw [Pattern.replaceFirst, hwritten, List.append_assoc, Ne, List.append_cancel_left_eq]
    simp [sumOfArguments, hc.symm]

/-- With no call before it a call is the one rewritten. -/
theorem replaceFirst_of_not_hasConcat {pre : List Char} (hconcat : ¬ HasConcat pre)
    (hstart : ∀ c ∈ pre.getLast?, isWordChar c = false) {name : List Char}
    (hname : name.map simpleFold = "concat".toList) {text : List Char} (post : List Char)
    (hhead : (text ++ ')' :: post).head? ≠ some ')') :
    concatCall.replaceFirst sumOfArguments (pre ++ (name ++ '(' :: (text ++ ')' :: post))) =
      pre ++ '(' :: (summed text ++ ')' :: post) := by
  rcases concatCall.replaceFirstAfter_append sumOfArguments none pre
    (name ++ '(' :: (text ++ ')' :: post)) with
    ⟨hwritten, -⟩ | ⟨left, right, found, rest, rfl, hright, hfound, -⟩
  · rw [Pattern.replaceFirst, hwritten, Option.or_none,
      replaceFirstAfter_call ((atWordStart_iff _).mpr hstart) hname post hhead]
  · rw [Option.or_none] at hfound
    exact absurd (hasConcat_of_concatCall hright hstart hfound) hconcat

/-! ## Sums of arguments -/

theorem head?_joinWith {arguments : List (List Char)} (hne : arguments ≠ [])
    (harguments : ∀ argument ∈ arguments, IsArgument argument) (separator post : List Char) :
    (joinWith separator arguments ++ post).head? ≠ some ')' := by
  obtain ⟨first, others, rfl⟩ := List.exists_cons_of_ne_nil hne
  have hfirst := harguments first List.mem_cons_self
  obtain ⟨c, rest, rfl⟩ := List.exists_cons_of_ne_nil hfirst.ne_nil
  have hhead := hfirst.head?_ne
  cases others <;> exact hhead

/-- A call of a concatenation behind a text that does not end within a word becomes the sum of its
arguments exactly when no concatenation is called in that text and the arguments are summable. -/
theorem concatenation_summed_iff (pre post : List Char) {arguments : List (List Char)}
    (hne : arguments ≠ []) (harguments : ∀ argument ∈ arguments, IsArgument argument)
    (hstart : ∀ c ∈ pre.getLast?, isWordChar c = false) :
    Adjustment.concatToPlus.apply (pre ++ concatOf arguments ++ post) =
        pre ++ sumOf arguments ++ post ↔
      ¬ HasConcat pre ∧ IsSummable arguments := by
  have hhead := head?_joinWith hne harguments ", ".toList (')' :: post)
  obtain ⟨name, hname, hconcatOf⟩ : ∃ name, name.map simpleFold = "concat".toList ∧
      concatOf arguments = name ++ '(' :: joinWith ", ".toList arguments ++ [')'] :=
    ⟨"CONCAT".toList, by decide, rfl⟩
  have hcall : pre ++ concatOf arguments ++ post =
      pre ++ (name ++ '(' :: (joinWith ", ".toList arguments ++ ')' :: post)) := by
    simp [hconcatOf]
  have hsum : pre ++ sumOf arguments ++ post =
      pre ++ '(' :: (joinWith " + ".toList arguments ++ ')' :: post) := by simp [sumOf]
  rw [hcall, hsum, Adjustment.apply]
  by_cases hconcat : HasConcat pre
  · have hback : (name ++ '(' :: (joinWith ", ".toList arguments ++ ')' :: post)).head? ≠
        some ')' := by
      obtain ⟨hletters, hword⟩ := isPlainWord_concat.of_fold hname
      obtain ⟨c, letters, rfl⟩ := List.exists_cons_of_ne_nil hletters
      intro hfirst
      obtain rfl : c = ')' := Option.some.inj hfirst
      exact absurd (hword _ List.mem_cons_self) (by decide)
    simp only [replaceFirst_ne_of_hasConcat hconcat hback (by simp), hconcat, not_true_eq_false,
      false_and]
  · rw [replaceFirst_of_not_hasConcat hconcat hstart hname post hhead,
      List.append_cancel_left_eq, List.cons_inj_right, List.append_cancel_right_eq,
      summed_joinWith_iff (fun argument h => (harguments argument h).trimmed)
        fun argument h => (harguments argument h).head?_ne]
    simp only [hconcat, not_false_eq_true, true_and]

/-- A call whose last argument is a call becomes the sum of its arguments. -/
theorem concatenation_summed_upper :
    Adjustment.concatToPlus.apply ("SELECT ".toList ++
        concatOf ["first".toList, "' '".toList, "UPPER(last)".toList] ++ " FROM p".toList) =
      "SELECT ".toList ++ sumOf ["first".toList, "' '".toList, "UPPER(last)".toList] ++
        " FROM p".toList :=
  (concatenation_summed_iff "SELECT ".toList " FROM p".toList (by simp) (by decide +kernel)
    (by simp; decide)).mpr ⟨not_hasConcat_of_notMem (by decide), by decide +kernel⟩

/-- A separator with a comma in it is taken apart. -/
theorem separator_taken_apart :
    (∀ argument ∈ ["last".toList, "', '".toList, "first".toList], IsArgument argument) ∧
      ¬ HasConcat "SELECT ".toList ∧ (∀ c ∈ "SELECT ".toList.getLast?, isWordChar c = false) ∧
      Adjustment.concatToPlus.apply ("SELECT ".toList ++
          concatOf ["last".toList, "', '".toList, "first".toList] ++ " FROM p".toList) =
        "SELECT (last + ' + ' + first) FROM p".toList ∧
      "SELECT (last + ' + ' + first) FROM p".toList ≠ "SELECT ".toList ++
        sumOf ["last".toList, "', '".toList, "first".toList] ++ " FROM p".toList := by
  refine ⟨?_, not_hasConcat_of_notMem (by decide), by simp; decide, ?_, ?_⟩ <;> decide +kernel

/-- Of a call whose first argument is a call only the name is taken away. -/
example : Adjustment.concatToPlus.apply "SELECT CONCAT(UPPER(a), b) FROM p".toList =
    "SELECT (UPPER(a), b) FROM p".toList := by
  decide +kernel

end QueryWarden.Sql
