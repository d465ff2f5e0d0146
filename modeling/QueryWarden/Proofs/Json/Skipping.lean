import QueryWarden.Proofs.Json.Grammar
import QueryWarden.Proofs.Json.Reading

/-!
# Values are passed over

Whatever text of the grammar stands in front, passing over one value leaves what follows it.
-/

namespace QueryWarden.Json

/-! ## Texts -/

/-- What writes a character is passed over in one step, or in two if it is a pair of escapes. -/
theorem skipTextFrom_spelling {c : Char} {piece : List Char} (hpiece : SpellsChar c piece) :
    ∃ steps ≤ piece.length, ∀ fuel rest,
      skipTextFrom (fuel + steps) (piece ++ rest) = skipTextFrom fuel rest := by
  have hunit : ∀ {unit digits}, SpellsUnit unit digits → ∀ fuel rest,
      skipTextFrom (fuel + 1) ('\\' :: 'u' :: (digits ++ rest)) = skipTextFrom fuel rest := by
    intro unit digits hdigits fuel rest
    have hletter : simpleEscape? 'u' = none := by decide
    simp [skipTextFrom, skipEscape, hletter, scanHex_append hdigits, Except.map]
  cases hpiece with
  | plain hquote hbackslash hcontrol =>
      refine ⟨1, Nat.le_refl 1, fun fuel rest => ?_⟩
      simp [skipTextFrom, hquote, hbackslash, Nat.not_lt.mpr hcontrol]
  | short hletter =>
      refine ⟨1, Nat.le_succ 1, fun fuel rest => ?_⟩
      simp [skipTextFrom, skipEscape, simpleEscape?_of_mem hletter]
  | numbered hdigits => exact ⟨1, Nat.le_add_left .., fun fuel rest => hunit hdigits fuel rest⟩
  | paired hhigh hlow hc hfirst hsecond =>
      rename_i high low first second
      refine ⟨2, ?_, fun fuel rest => ?_⟩
      · simp only [List.length_cons, List.length_append]
        omega
      · rw [List.append_assoc]
        exact (hunit hfirst (fuel + 1) _).trans (hunit hsecond fuel rest)

theorem skipTextFrom_append {value body : List Char} (hbody : SpellsText value body) {fuel : Nat}
    (hfuel : body.length < fuel) (rest : List Char) :
    skipTextFrom fuel (body ++ '"' :: rest) = .ok rest := by
  induction hbody generalizing fuel with
  | nil =>
      obtain ⟨fuel, rfl⟩ := Nat.exists_eq_succ_of_ne_zero (Nat.ne_of_gt hfuel)
      simp [skipTextFrom]
  | cons hpiece _ ih =>
      obtain ⟨steps, hsteps, hskip⟩ := skipTextFrom_spelling hpiece
      rw [List.length_append] at hfuel
      obtain ⟨less, rfl⟩ : ∃ less, fuel = less + steps := ⟨fuel - steps, by omega⟩
      rw [List.append_assoc, hskip]
      exact ih (by omega)

theorem skipText_append {value body : List Char} (hbody : SpellsText value body)
    (rest : List Char) : skipText (body ++ '"' :: rest) = .ok rest := by
  refine skipTextFrom_append hbody ?_ rest
  simp only [List.length_append]
  omega

/-! ## Numbers -/

section Numbers

variable {digits rest : List Char}

theorem startsWithDigit_eq_false_iff :
    startsWithDigit rest = false ↔ ∀ c ∈ rest.head?, c.isDigit = false := by
  cases rest <;> simp [startsWithDigit]

theorem Follows.startsWithDigit_eq_false (hrest : Follows rest) : startsWithDigit rest = false := by
  have hall : followers.all (fun c => !c.isDigit) = true := by decide
  refine startsWithDigit_eq_false_iff.mpr fun c hc => ?_
  simpa using List.all_eq_true.mp hall c (hrest c hc)

theorem Follows.ne_head (hrest : Follows rest) {c : Char} (hc : c ∉ followers) :
    rest.head? ≠ some c :=
  fun hhead => hc (hrest c hhead)

theorem dropDigits_append (hdigits : ∀ d ∈ digits, d.isDigit = true)
    (hrest : startsWithDigit rest = false) : dropDigits (digits ++ rest) = rest := by
  rw [dropDigits, List.dropWhile_append_of_pos hdigits]
  cases rest with
  | nil => rfl
  | cons c rest =>
      have hc : c.isDigit = false := by simpa [startsWithDigit] using hrest
      exact List.dropWhile_cons_of_neg (by simp [hc])

theorem IsDigits.all_isDigit (hdigits : IsDigits digits) : ∀ d ∈ digits, d.isDigit = true := by
  obtain ⟨hc, hdigits⟩ := hdigits
  exact List.forall_mem_cons.mpr ⟨hc, hdigits⟩

theorem IsDigits.dropDigits_append (hdigits : IsDigits digits)
    (hrest : startsWithDigit rest = false) : dropDigits (digits ++ rest) = rest :=
  Json.dropDigits_append hdigits.all_isDigit hrest

theorem IsDigits.startsWithDigit_append (hdigits : IsDigits digits) (rest : List Char) :
    startsWithDigit (digits ++ rest) = true := by
  obtain ⟨hc, -⟩ := hdigits
  simpa [startsWithDigit] using hc

theorem skipExponent_append {sign : List Char} (hsign : sign ∈ [[], ['+'], ['-']])
    (hdigits : IsDigits digits) (hrest : Follows rest) :
    skipExponent (sign ++ (digits ++ rest)) = .ok rest := by
  have hdigit := hdigits.startsWithDigit_append rest
  have hdrop := hdigits.dropDigits_append hrest.startsWithDigit_eq_false
  obtain ⟨hc, -⟩ := hdigits
  rename_i c digits
  have hplus : c ≠ '+' := by rintro rfl; exact absurd hc (by decide)
  have hminus : c ≠ '-' := by rintro rfl; exact absurd hc (by decide)
  simp only [List.mem_cons, List.not_mem_nil, or_false] at hsign
  simp only [List.cons_append] at hdigit hdrop ⊢
  rcases hsign with rfl | rfl | rfl
  · simp [skipExponent, hplus, hminus, hdigit, hdrop]
  · simp [skipExponent, hdigit, hdrop]
  · simp [skipExponent, hdigit, hdrop]

/-- Passes over the exponent, if one follows. -/
def skipScale (text : List Char) : Except Fault (List Char) :=
  match text with
  | c :: rest => if c = 'e' || c = 'E' then skipExponent rest else .ok text
  | [] => .ok text

/-- Passes over what follows a whole part. -/
def skipFraction (text : List Char) : Except Fault (List Char) :=
  match text with
  | c :: rest =>
      if c = '.' then
        if startsWithDigit rest then skipScale (dropDigits rest) else failAt .invalidNumber rest
      else skipScale text
  | [] => .ok text

theorem skipNumber_cons (c : Char) (rest : List Char) :
    skipNumber (c :: rest) =
      if c = '0' then
        if startsWithDigit rest then failAt .invalidNumber rest else skipFraction rest
      else if c.isDigit then skipFraction (dropDigits rest)
      else failAt .invalidNumber (c :: rest) := rfl

theorem skipScale_append {exponent : List Char} (hexponent : IsExponent exponent)
    (hrest : Follows rest) : skipScale (exponent ++ rest) = .ok rest := by
  cases hexponent with
  | none =>
      cases rest with
      | nil => rfl
      | cons c rest =>
          have hlower : c ≠ 'e' := fun hc => hrest.ne_head (by decide) (congrArg some hc)
          have hupper : c ≠ 'E' := fun hc => hrest.ne_head (by decide) (congrArg some hc)
          simp [skipScale, hlower, hupper]
  | some hmark hsign hdigits =>
      have hskip := skipExponent_append hsign hdigits hrest
      simp only [List.mem_cons, List.not_mem_nil, or_false] at hmark
      simp [skipScale, hmark, hskip]

/-- Neither a digit nor a point stands where an exponent may stand. -/
theorem IsExponent.head_append {exponent : List Char} (hexponent : IsExponent exponent)
    (hrest : Follows rest) :
    ∀ c ∈ (exponent ++ rest).head?, c.isDigit = false ∧ c ≠ '.' := by
  cases hexponent with
  | none =>
      have hall : followers.all (fun c => !c.isDigit && c != '.') = true := by decide
      intro c hc
      simpa using List.all_eq_true.mp hall c (hrest c hc)
  | some hmark hsign hdigits =>
      have hall : ['e', 'E'].all (fun c => !c.isDigit && c != '.') = true := by decide
      intro c hc
      obtain rfl := Option.some.inj hc
      simpa using List.all_eq_true.mp hall _ hmark

theorem skipFraction_append {fraction exponent : List Char} (hfraction : IsFraction fraction)
    (hexponent : IsExponent exponent) (hrest : Follows rest) :
    skipFraction (fraction ++ (exponent ++ rest)) = .ok rest := by
  have hscale := skipScale_append hexponent hrest
  cases hfraction with
  | none =>
      rw [List.nil_append]
      have hhead := hexponent.head_append hrest
      cases htail : exponent ++ rest with
      | nil =>
          rw [htail] at hscale
          exact hscale
      | cons c tail =>
          rw [htail] at hscale hhead
          rw [skipFraction, if_neg (hhead c rfl).2]
          exact hscale
  | some hdigits =>
      have hdigit := startsWithDigit_eq_false_iff.mpr fun c hc =>
        (hexponent.head_append hrest c hc).1
      rw [List.cons_append, skipFraction, if_pos rfl, if_pos (hdigits.startsWithDigit_append _),
        hdigits.dropDigits_append hdigit]
      exact hscale

theorem IsFraction.startsWithDigit_append {fraction exponent : List Char}
    (hfraction : IsFraction fraction) (hexponent : IsExponent exponent) (hrest : Follows rest) :
    startsWithDigit (fraction ++ (exponent ++ rest)) = false := by
  cases hfraction with
  | none =>
      exact startsWithDigit_eq_false_iff.mpr fun c hc => (hexponent.head_append hrest c hc).1
  | some hdigits => rfl

/-- A number is passed over together with its fraction and its exponent. -/
theorem skipNumber_append {number : List Char} (hnumber : IsMagnitude number)
    (hrest : Follows rest) : skipNumber (number ++ rest) = .ok rest := by
  obtain ⟨hwhole, hfraction, hexponent⟩ := hnumber
  rename_i whole fraction exponent
  have htail := skipFraction_append hfraction hexponent hrest
  have hdigit := hfraction.startsWithDigit_append hexponent hrest
  rw [List.append_assoc, List.append_assoc]
  cases hwhole with
  | zero =>
      rw [List.cons_append, List.nil_append, skipNumber_cons, if_pos rfl, hdigit]
      exact htail
  | digits hc hzero hdigits =>
      rw [List.cons_append, skipNumber_cons, if_neg hzero, if_pos hc,
        dropDigits_append hdigits hdigit]
      exact htail

end Numbers

/-! ## Values -/

theorem scanWord_append (word rest : List Char) : scanWord word (word ++ rest) = .ok rest := by
  induction word with
  | nil => rw [List.nil_append, scanWord]
  | cons c word ih => rw [List.cons_append, scanWord, if_pos rfl, ih]

theorem IsMagnitude.exists_digit {number : List Char} (hnumber : IsMagnitude number) :
    ∃ c rest, number = c :: rest ∧ c.isDigit = true := by
  obtain ⟨hwhole, -, -⟩ := hnumber
  cases hwhole with
  | zero => exact ⟨'0', _, rfl, rfl⟩
  | digits hc => exact ⟨_, _, rfl, hc⟩

/-- No digit is white space or a closing bracket. -/
theorem startsValue_of_isDigit {c : Char} (hc : c.isDigit = true) (rest : List Char) :
    StartsValue (c :: rest) := by
  have hall : (']' :: '\x7d' :: spaces).all (fun c => !c.isDigit) = true := by decide
  have hother : ∀ d ∈ ']' :: '\x7d' :: spaces, c ≠ d := by
    rintro d hd rfl
    have hdigit := List.all_eq_true.mp hall c hd
    simp [hc] at hdigit
  refine startsValue_cons (fun hspace => hother c ?_ rfl) (hother _ (by simp)) (hother _ (by simp))
    rest
  exact List.mem_cons_of_mem _ (List.mem_cons_of_mem _ hspace)

theorem IsValue.startsValue {text : List Char} (hvalue : IsValue text) : StartsValue text := by
  cases hvalue with
  | null => exact startsValue_cons (by decide) (by decide) (by decide) _
  | true => exact startsValue_cons (by decide) (by decide) (by decide) _
  | false => exact startsValue_cons (by decide) (by decide) (by decide) _
  | positive hnumber =>
      obtain ⟨c, rest, rfl, hc⟩ := hnumber.exists_digit
      exact startsValue_of_isDigit hc rest
  | negative hnumber => exact startsValue_cons (by decide) (by decide) (by decide) _
  | text hbody => exact startsValue_cons (by decide) (by decide) (by decide) _
  | list hparts hrest => exact startsValue_cons (by decide) (by decide) (by decide) _
  | object hmembers hrest => exact startsValue_cons (by decide) (by decide) (by decide) _

/-- The text is passed over as a value, whatever white space stands before it and whatever
follows. -/
structure Skips (text : List Char) : Prop where
  starts : StartsValue text
  skip : ∀ fuel gap rest, text.length ≤ fuel → IsGap gap → Follows rest →
    skipValueFrom fuel (gap ++ (text ++ rest)) = .ok rest

section Skipping

variable {parts : List (List Char)} {text gap : List Char}

theorem skipToItem_closed (hgap : IsGap gap) (more : List Char) :
    skipToItem (gap ++ ']' :: more) = .ok (.ended more) := by
  have hdrop := dropSpace_append hgap (show ']' ∉ spaces by decide) more
  simp [skipToItem, hdrop]

theorem skipToItem_next (hgap : IsGap gap) (more : List Char) :
    skipToItem (gap ++ ',' :: more) = .ok (.another more) := by
  have hdrop := dropSpace_append hgap (show ',' ∉ spaces by decide) more
  simp [skipToItem, hdrop]

theorem skipToMember_closed (hgap : IsGap gap) (more : List Char) :
    skipToMember (gap ++ '\x7d' :: more) = .ok (.ended more) := by
  have hdrop := dropSpace_append hgap (show '\x7d' ∉ spaces by decide) more
  simp [skipToMember, hdrop]

theorem skipToMember_next (hgap : IsGap gap) (more : List Char) :
    skipToMember (gap ++ ',' :: more) = .ok (.another more) := by
  have hdrop := dropSpace_append hgap (show ',' ∉ spaces by decide) more
  simp [skipToMember, hdrop]

/-- The items of a list are passed over from the first of them on. -/
theorem skipItemsFrom_joined (hjoined : Joined ']' false parts text)
    (hparts : ∀ part ∈ parts, Skips part) {part : List Char} (hpart : Skips part)
    (hgap : IsGap gap) {fuel : Nat} (hfuel : part.length + text.length ≤ fuel) (more : List Char) :
    skipItemsFrom fuel (gap ++ (part ++ (text ++ more))) = .ok more := by
  induction parts generalizing part text gap fuel with
  | nil =>
      have hfollows := hjoined.follows (by decide) more
      cases hjoined with
      | closed hclosing =>
          rw [List.length_append, List.length_singleton] at hfuel
          obtain ⟨fuel, rfl⟩ : ∃ less, fuel = less + 1 := ⟨fuel - 1, by omega⟩
          rw [skipItemsFrom, hpart.skip fuel gap _ (by omega) hgap hfollows]
          simp only [List.append_assoc, List.cons_append, List.nil_append,
            skipToItem_closed hclosing]
  | cons next parts ih =>
      have hfollows := hjoined.follows (by decide) more
      obtain ⟨hnext, hparts⟩ := List.forall_mem_cons.mp hparts
      cases hjoined with
      | next hbefore hafter hrest =>
          simp only [List.length_append, List.length_cons] at hfuel
          obtain ⟨fuel, rfl⟩ : ∃ less, fuel = less + 1 := ⟨fuel - 1, by omega⟩
          rw [skipItemsFrom, hpart.skip fuel gap _ (by omega) hgap hfollows]
          simp only [List.append_assoc, List.cons_append, skipToItem_next hbefore]
          exact ih hrest hparts hnext hafter (by omega)

theorem skipName_text (member : Member) (hgap : IsGap gap) (more : List Char) :
    skipName (gap ++ (member.text ++ more)) = .ok (member.after ++ (member.value ++ more)) := by
  have hquote := dropSpace_append hgap (show '"' ∉ spaces by decide)
    (member.body ++ '"' :: (member.before ++ ':' :: (member.after ++ (member.value ++ more))))
  have hcolon := dropSpace_append member.isGap_before (show ':' ∉ spaces by decide)
    (member.after ++ (member.value ++ more))
  simp [Member.text, skipName, hquote, skipText_append member.spells, ok_bind, scanColon, hcolon]

theorem skipMember_text {member : Member} (hvalue : Skips member.value) (hgap : IsGap gap)
    {fuel : Nat} (hfuel : member.value.length ≤ fuel) {rest : List Char} (hrest : Follows rest) :
    (skipName (gap ++ (member.text ++ rest))).bind (skipValueFrom fuel) = .ok rest := by
  rw [skipName_text member hgap]
  exact hvalue.skip fuel _ _ hfuel member.isGap_after hrest

theorem Member.length_value_le (member : Member) : member.value.length ≤ member.text.length := by
  simp only [Member.text, List.length_cons, List.length_append]
  omega

/-- The members of an object are passed over from the first of them on. -/
theorem skipMembersFrom_joined {members : List Member}
    (hjoined : Joined '\x7d' false (members.map Member.text) text)
    (hmembers : ∀ member ∈ members, Skips member.value) {member : Member}
    (hmember : Skips member.value) (hgap : IsGap gap) {fuel : Nat}
    (hfuel : member.value.length + text.length ≤ fuel) (more : List Char) :
    skipMembersFrom fuel (gap ++ (member.text ++ (text ++ more))) = .ok more := by
  induction members generalizing member text gap fuel with
  | nil =>
      have hfollows := hjoined.follows (by decide) more
      cases hjoined with
      | closed hclosing =>
          rw [List.length_append, List.length_singleton] at hfuel
          obtain ⟨fuel, rfl⟩ : ∃ less, fuel = less + 1 := ⟨fuel - 1, by omega⟩
          rw [skipMembersFrom, skipMember_text hmember hgap (by omega) hfollows]
          simp only [List.append_assoc, List.cons_append, List.nil_append,
            skipToMember_closed hclosing]
  | cons next members ih =>
      have hfollows := hjoined.follows (by decide) more
      obtain ⟨hnext, hmembers⟩ := List.forall_mem_cons.mp hmembers
      rw [List.map_cons] at hjoined
      cases hjoined with
      | next hbefore hafter hrest =>
          have hlength := next.length_value_le
          simp only [List.length_append, List.length_cons] at hfuel
          obtain ⟨fuel, rfl⟩ : ∃ less, fuel = less + 1 := ⟨fuel - 1, by omega⟩
          rw [skipMembersFrom, skipMember_text hmember hgap (by omega) hfollows]
          simp only [List.append_assoc, List.cons_append, skipToMember_next hbefore]
          exact ih hrest hmembers hnext hafter (by omega)

theorem dropSpace_cons {c : Char} (hc : c ∉ spaces) (rest : List Char) :
    dropSpace (c :: rest) = c :: rest :=
  dropSpace_append IsGap.nil hc rest

theorem Skips.of_cons {c : Char} {back : List Char} (hstarts : StartsValue (c :: back))
    (hskip : ∀ fuel rest, back.length ≤ fuel → Follows rest →
      skipValueFrom (fuel + 1) (c :: (back ++ rest)) = .ok rest) : Skips (c :: back) := by
  refine ⟨hstarts, ?_⟩
  intro fuel gap rest hfuel hgap hrest
  rw [List.length_cons] at hfuel
  obtain ⟨fuel, rfl⟩ : ∃ less, fuel = less + 1 := ⟨fuel - 1, by omega⟩
  obtain ⟨_, _, ⟨-, -⟩, hc, -⟩ := hstarts
  have hback := hskip fuel rest (by omega) hrest
  rw [skipValueFrom, dropSpace_cons hc] at hback
  rw [List.cons_append, skipValueFrom, dropSpace_append hgap hc]
  exact hback

theorem skips_word {c : Char} {word : List Char} (hstarts : StartsValue (c :: word))
    (hskip : ∀ fuel rest, skipValueFrom (fuel + 1) (c :: rest) = scanWord word rest) :
    Skips (c :: word) :=
  .of_cons hstarts fun fuel rest _ _ => (hskip fuel _).trans (scanWord_append word rest)

/-- A number is passed over from its first digit or its sign on. -/
theorem IsMagnitude.skips {number : List Char} (hnumber : IsMagnitude number) :
    Skips number ∧ Skips ('-' :: number) := by
  have hskips : ∀ rest, Follows rest → skipNumber (number ++ rest) = .ok rest :=
    fun rest hrest => skipNumber_append hnumber hrest
  obtain ⟨c, back, rfl, hc⟩ := hnumber.exists_digit
  have hstarts := startsValue_of_isDigit hc back
  constructor
  · refine .of_cons hstarts fun fuel rest _ hrest => ?_
    obtain ⟨_, _, ⟨-, -⟩, hspace, -⟩ := hstarts
    have hother : ∀ d, d.isDigit = false → c ≠ d := by
      rintro d hd rfl
      simp [hc] at hd
    rw [skipValueFrom, dropSpace_cons hspace, ← hskips rest hrest]
    simp [hother 'n' rfl, hother 't' rfl, hother 'f' rfl, hother '-' rfl, hc]
  · refine .of_cons (startsValue_cons (by decide) (by decide) (by decide) _)
      fun fuel rest _ hrest => ?_
    rw [skipValueFrom, dropSpace_cons (by decide)]
    simpa using hskips rest hrest

theorem skipList_joined (hjoined : Joined ']' true parts text)
    (hparts : ∀ part ∈ parts, Skips part) {fuel : Nat} (hfuel : text.length ≤ fuel)
    (more : List Char) : skipValueFrom (fuel + 1) ('[' :: (text ++ more)) = .ok more := by
  rw [skipValueFrom, dropSpace_cons (by decide)]
  cases hjoined with
  | closed hgap =>
      have hdrop := dropSpace_append hgap (show ']' ∉ spaces by decide) more
      simp [hdrop]
  | first hgap hrest =>
      rename_i part rest gap parts
      obtain ⟨hpart, hparts⟩ := List.forall_mem_cons.mp hparts
      rw [List.length_append, List.length_append] at hfuel
      have hskip := skipItemsFrom_joined hrest hparts hpart hgap
        (show part.length + rest.length ≤ fuel by omega) more
      have hdrop := dropSpace_gap_append hgap hpart.starts (rest ++ more)
      obtain ⟨c, back, rfl, -, hend, -⟩ := hpart.starts
      rw [List.cons_append] at hdrop hskip
      simp [hdrop, hskip, hend]

theorem skipObject_joined {members : List Member}
    (hjoined : Joined '\x7d' true (members.map Member.text) text)
    (hmembers : ∀ member ∈ members, Skips member.value) {fuel : Nat} (hfuel : text.length ≤ fuel)
    (more : List Char) : skipValueFrom (fuel + 1) ('\x7b' :: (text ++ more)) = .ok more := by
  rw [skipValueFrom, dropSpace_cons (by decide)]
  cases members with
  | nil =>
      cases hjoined with
      | closed hgap =>
          have hdrop := dropSpace_append hgap (show '\x7d' ∉ spaces by decide) more
          simp [hdrop]
  | cons member members =>
      obtain ⟨hmember, hmembers⟩ := List.forall_mem_cons.mp hmembers
      rw [List.map_cons] at hjoined
      cases hjoined with
      | first hgap hrest =>
          rename_i rest gap
          have hlength := member.length_value_le
          rw [List.length_append, List.length_append] at hfuel
          have hskip := skipMembersFrom_joined hrest hmembers hmember hgap
            (show member.value.length + rest.length ≤ fuel by omega) more
          have hdrop := dropSpace_append hgap (show '"' ∉ spaces by decide)
            ((member.body ++ '"' :: (member.before ++ ':' :: (member.after ++ member.value))) ++
              (rest ++ more))
          simp only [Member.text, List.cons_append, List.append_assoc] at hdrop hskip ⊢
          simp [hdrop, hskip]

/-- Every value of the grammar is passed over. -/
theorem IsValue.skips {text : List Char} (hvalue : IsValue text) : Skips text := by
  have hstarts := hvalue.startsValue
  induction hvalue with
  | null =>
      refine skips_word hstarts fun fuel rest => ?_
      rw [skipValueFrom, dropSpace_cons (by decide)]
      rfl
  | true =>
      refine skips_word hstarts fun fuel rest => ?_
      rw [skipValueFrom, dropSpace_cons (by decide)]
      rfl
  | false =>
      refine skips_word hstarts fun fuel rest => ?_
      rw [skipValueFrom, dropSpace_cons (by decide)]
      rfl
  | positive hnumber => exact hnumber.skips.1
  | negative hnumber => exact hnumber.skips.2
  | text hbody =>
      refine .of_cons hstarts fun fuel rest _ _ => ?_
      rw [skipValueFrom, dropSpace_cons (by decide), List.append_assoc]
      exact skipText_append hbody rest
  | list hparts hrest ih =>
      refine .of_cons hstarts fun fuel rest hfuel _ => ?_
      exact skipList_joined hrest (fun part hpart => ih part hpart (hparts part hpart).startsValue)
        hfuel rest
  | object hmembers hrest ih =>
      refine .of_cons hstarts fun fuel rest hfuel _ => ?_
      exact skipObject_joined hrest
        (fun member hmember => ih member hmember (hmembers member hmember).startsValue) hfuel rest

/-- A value of the grammar is passed over, with white space before it. -/
theorem IsValue.skipValue_append {text : List Char} (hvalue : IsValue text) (hgap : IsGap gap)
    {rest : List Char} (hrest : Follows rest) : skipValue (gap ++ (text ++ rest)) = .ok rest := by
  refine hvalue.skips.skip _ gap rest ?_ hgap hrest
  simp only [List.length_append]
  omega

end Skipping

end QueryWarden.Json
