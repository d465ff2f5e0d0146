import QueryWarden.Proofs.Json.Records

/-!
# Readers take one value each

A reader may refuse a value of the grammar. If it takes one, it takes just that value: what it
leaves is what follows. So a reader of objects meets every member of an object that it takes, and it
takes none that gives a field twice.
-/

namespace QueryWarden.Json

variable {α β σ : Type}

/-! ## What is left -/

/-- If the reader takes something, it leaves just this rest. -/
def Leaves (rest : List Char) (outcome : Except Fault (α × List Char)) : Prop :=
  ∀ ⦃result left⦄, outcome = .ok (result, left) → left = rest

section Leaving

variable {rest middle : List Char}

theorem leaves_error (fault : Fault) : Leaves rest (.error fault : Except Fault (α × List Char)) :=
  nofun

theorem leaves_ok (result : α) (rest : List Char) : Leaves rest (.ok (result, rest)) := by
  rintro _ _ ⟨⟩
  rfl

theorem leaves_floatOfParts (isPositive : Bool) (significand : Nat) (exponent : Int) :
    Leaves rest (floatOfParts isPositive significand exponent rest) := by
  rw [floatOfParts]
  split
  next => exact leaves_ok _ _
  next => exact leaves_error _

theorem Leaves.bind {outcome : Except Fault (α × List Char)}
    {next : α × List Char → Except Fault (β × List Char)} (houtcome : Leaves middle outcome)
    (hnext : ∀ value, Leaves rest (next (value, middle))) : Leaves rest (outcome >>= next) := by
  intro result left hread
  obtain ⟨⟨value, between⟩, htaken, hread⟩ := bind_eq_ok_iff.mp hread
  rw [houtcome htaken] at hread
  exact hnext value hread

theorem Leaves.map {outcome : Except Fault (α × List Char)} (houtcome : Leaves rest outcome)
    (f : α → β) : Leaves rest (outcome.map fun (found, rest) => (f found, rest)) := by
  intro result left hread
  obtain ⟨⟨value, between⟩, htaken, hread⟩ := map_eq_ok_iff.mp hread
  obtain ⟨-, rfl⟩ := Prod.mk.inj hread
  exact houtcome htaken

theorem Leaves.placedIn {outcome : Except Fault (α × List Char)} (houtcome : Leaves rest outcome)
    (step : Step) : Leaves rest (placedIn step outcome) := by
  cases outcome with
  | error fault => exact leaves_error _
  | ok value => exact houtcome

/-- A refusal takes nothing. -/
theorem leaves_refuse (expected : String) (text : List Char) :
    Leaves rest (refuse expected text : Except Fault (α × List Char)) := by
  intro result left hread
  cases text with
  | nil => cases hread
  | cons c text =>
      simp only [refuse, failHere, failAt] at hread
      split_ifs at hread <;>
        simp only [bind_eq_ok_iff, reduceCtorEq, and_false, exists_false] at hread
      -- What is left are the numbers, which are refused as whole or as floating.
      all_goals obtain ⟨⟨_ | _, _⟩, -, hread⟩ := hread
      all_goals cases hread

theorem leaves_scanText {value body : List Char} (hbody : SpellsText value body)
    (rest : List Char) : Leaves rest (scanText (body ++ '"' :: rest)) := by
  rw [scanText_append hbody]
  exact leaves_ok _ _

end Leaving

/-! ## Numbers -/

section Numbers

variable {digits fraction exponent rest : List Char}

theorem gatherDigits_append (hdigits : ∀ d ∈ digits, d.isDigit = true)
    (hrest : startsWithDigit rest = false) (limit value : Nat) :
    ∃ gathered extra, gatherDigits limit value (digits ++ rest) = (gathered, extra ++ rest) ∧
      ∀ d ∈ extra, d.isDigit = true := by
  induction digits generalizing value with
  | nil =>
      refine ⟨value, [], ?_, List.forall_mem_nil _⟩
      cases rest with
      | nil => rfl
      | cons c rest =>
          have hc : c.isDigit = false := by simpa [startsWithDigit] using hrest
          simp [gatherDigits, Text.digitValue?, hc]
  | cons d digits ih =>
      obtain ⟨hd, hdigits'⟩ := List.forall_mem_cons.mp hdigits
      simp only [List.cons_append, gatherDigits, Text.digitValue?, hd, if_true]
      split
      next => exact ih hdigits' _
      next => exact ⟨value, d :: digits, rfl, hdigits⟩

/-- Behind the digits that were gathered there are others, or there is the rest. -/
theorem eq_nil_of_startsWithDigit {extra : List Char} (hextra : ∀ d ∈ extra, d.isDigit = true)
    (hstarts : startsWithDigit (extra ++ rest) = false) : extra = [] := by
  cases extra with
  | nil => rfl
  | cons d extra => simp [startsWithDigit, hextra d List.mem_cons_self] at hstarts

/-- After the digits that count, the others are passed over. -/
theorem leaves_scanExponent {sign : List Char} (hsign : sign ∈ [[], ['+'], ['-']])
    (hdigits : IsDigits digits) (hrest : Follows rest) (isPositive : Bool) (significand : Nat)
    (start : Int) :
    Leaves rest (scanExponent isPositive significand start (sign ++ (digits ++ rest))) := by
  have hend := hrest.startsWithDigit_eq_false
  obtain ⟨gathered, extra, hgather, hextra⟩ :=
    gatherDigits_append hdigits.all_isDigit hend (Nat.pow 2 31) 0
  obtain ⟨hc, -⟩ := hdigits
  rename_i c digits
  have hplus : c ≠ '+' := by rintro rfl; exact absurd hc (by decide)
  have hminus : c ≠ '-' := by rintro rfl; exact absurd hc (by decide)
  -- The sign only decides whether the exponent is raised.
  have hunsigned : ∀ isRaised : Bool, Leaves rest (
      if startsWithDigit (extra ++ rest) then
        if significand != 0 && isRaised then failAt .outOfRange (extra ++ rest)
        else .ok (if isPositive then 0.0 else -0.0, dropDigits (extra ++ rest))
      else
        floatOfParts isPositive significand
          (if isRaised then start + gathered else start - gathered) (extra ++ rest)) := by
    intro isRaised
    cases hstarts : startsWithDigit (extra ++ rest) with
    | false =>
        obtain rfl := eq_nil_of_startsWithDigit hextra hstarts
        exact leaves_floatOfParts _ _ _
    | true =>
        rw [if_pos rfl, dropDigits_append hextra hend]
        split
        next => exact leaves_error _
        next => exact leaves_ok _ _
  simp only [List.mem_cons, List.not_mem_nil, or_false] at hsign
  rw [List.cons_append] at hgather
  rcases hsign with rfl | rfl | rfl
  · simpa [scanExponent, hplus, hminus, hc, hgather] using hunsigned true
  · simpa [scanExponent, hc, hgather] using hunsigned true
  · simpa [scanExponent, hc, hgather] using hunsigned false

theorem Leaves.float {outcome : Except Fault (Float × List Char)} (houtcome : Leaves rest outcome) :
    Leaves rest (outcome >>= fun (value, rest) => .ok (Number.float value, rest)) :=
  houtcome.bind fun value => leaves_ok (Number.float value) rest

theorem leaves_scanScale (hexponent : IsExponent exponent) (hrest : Follows rest)
    (isPositive : Bool) (significand : Nat) (start : Int) :
    Leaves rest (scanScale isPositive significand start (exponent ++ rest)) := by
  cases hexponent with
  | none =>
      cases rest with
      | nil => exact leaves_floatOfParts _ _ _
      | cons c rest =>
          have hlower : c ≠ 'e' := fun hc => hrest.ne_head (by decide) (congrArg some hc)
          have hupper : c ≠ 'E' := fun hc => hrest.ne_head (by decide) (congrArg some hc)
          simpa [scanScale, hlower, hupper] using leaves_floatOfParts isPositive significand start
  | some hmark hsign hdigits =>
      have hleaves := leaves_scanExponent hsign hdigits hrest isPositive significand start
      simp only [List.mem_cons, List.not_mem_nil, or_false] at hmark
      simpa [scanScale, hmark] using hleaves

/-- The digits behind the point count as long as they fit. -/
theorem leaves_scanFraction (hdigits : IsDigits digits) (hexponent : IsExponent exponent)
    (hrest : Follows rest) (isPositive : Bool) (significand : Nat) (start : Int) :
    Leaves rest (scanFraction isPositive significand start (digits ++ (exponent ++ rest))) := by
  have hend : startsWithDigit (exponent ++ rest) = false :=
    startsWithDigit_eq_false_iff.mpr fun c hc => (hexponent.head_append hrest c hc).1
  have hscale := leaves_scanScale hexponent hrest isPositive
  obtain ⟨gathered, extra, hgather, hextra⟩ :=
    gatherDigits_append hdigits.all_isDigit hend (Nat.pow 2 64) significand
  simp only [scanFraction, hgather]
  cases hstarts : startsWithDigit (extra ++ (exponent ++ rest)) with
  | false =>
      obtain rfl := eq_nil_of_startsWithDigit hextra hstarts
      simp only [Bool.false_eq_true, if_false, List.nil_append]
      split
      next =>
          split
          next => exact leaves_error _
          next => exact leaves_error _
      next => exact hscale _ _
  | true =>
      rw [if_pos rfl, dropDigits_append hextra hend]
      exact hscale _ _

theorem leaves_finishNumber (hfraction : IsFraction fraction) (hexponent : IsExponent exponent)
    (hrest : Follows rest) (isPositive : Bool) (significand : Nat) :
    Leaves rest (finishNumber isPositive significand (fraction ++ (exponent ++ rest))) := by
  cases hfraction with
  | some hdigits =>
      have hleaves := leaves_scanFraction hdigits hexponent hrest isPositive significand 0
      simp only [finishNumber, List.cons_append, if_true]
      exact hleaves.float
  | none =>
      cases hexponent with
      | none =>
          cases rest with
          | nil => exact leaves_ok _ _
          | cons c rest =>
              have hother : ∀ mark ∉ followers, c ≠ mark := fun mark hmark hc =>
                hrest.ne_head hmark (congrArg some hc)
              simpa [finishNumber, hother '.' (by decide), hother 'e' (by decide),
                hother 'E' (by decide)] using leaves_ok _ _
      | some hmark hsign hdigits =>
          have hleaves := leaves_scanExponent hsign hdigits hrest isPositive significand 0
          simp only [List.mem_cons, List.not_mem_nil, or_false] at hmark
          rw [List.nil_append, List.cons_append, List.append_assoc]
          rcases hmark with rfl | rfl
          · exact hleaves.float
          · exact hleaves.float

theorem leaves_finishLongNumber {extra : List Char} (hextra : ∀ d ∈ extra, d.isDigit = true)
    (hfraction : IsFraction fraction) (hexponent : IsExponent exponent) (hrest : Follows rest)
    (isPositive : Bool) (significand : Nat) :
    Leaves rest
      (finishLongNumber isPositive significand (extra ++ (fraction ++ (exponent ++ rest)))) := by
  have hend := hfraction.startsWithDigit_append hexponent hrest
  rw [finishLongNumber, dropDigits_append hextra hend]
  cases hfraction with
  | some hdigits =>
      exact (leaves_scanFraction hdigits hexponent hrest isPositive significand _).float
  | none =>
      have hscale := leaves_scanScale hexponent hrest isPositive significand
      have hhead := hexponent.head_append hrest
      rw [List.nil_append]
      cases htail : exponent ++ rest with
      | nil =>
          rw [htail] at hscale
          exact (hscale _).float
      | cons c tail =>
          rw [htail] at hscale hhead
          simp only [if_neg (hhead c rfl).2]
          exact (hscale _).float

/-- A number is taken together with its fraction and its exponent. -/
theorem leaves_scanNumber {number : List Char} (hnumber : IsMagnitude number)
    (hrest : Follows rest) (isPositive : Bool) :
    Leaves rest (scanNumber isPositive (number ++ rest)) := by
  obtain ⟨hwhole, hfraction, hexponent⟩ := hnumber
  rename_i whole fraction exponent
  have hfinish := leaves_finishNumber hfraction hexponent hrest isPositive
  have hend := hfraction.startsWithDigit_append hexponent hrest
  rw [List.append_assoc, List.append_assoc]
  cases hwhole with
  | zero =>
      simp only [scanNumber, List.cons_append, List.nil_append, if_true, hend]
      exact hfinish 0
  | digits hc hzero hdigits =>
      have hall := (IsDigits.mk hc hdigits).all_isDigit
      obtain ⟨gathered, extra, hgather, hextra⟩ := gatherDigits_append hall hend (Nat.pow 2 64) 0
      simp only [List.cons_append] at hgather
      simp only [scanNumber, List.cons_append, if_neg hzero, if_pos hc, hgather]
      cases hstarts : startsWithDigit (extra ++ (fraction ++ (exponent ++ rest))) with
      | false =>
          obtain rfl := eq_nil_of_startsWithDigit hextra hstarts
          exact hfinish _
      | true =>
          rw [if_pos rfl]
          exact leaves_finishLongNumber hextra hfraction hexponent hrest isPositive gathered

end Numbers

/-! ## Any value -/

/-- Read as any value, the text is taken as a whole, whatever white space stands before it and
whatever follows. -/
def ReadsAlone (text : List Char) : Prop :=
  ∀ fuel depth gap rest, IsGap gap → Follows rest →
    Leaves rest (readValueFrom fuel depth (gap ++ (text ++ rest)))

section Reading

variable {parts : List (List Char)} {text : List Char} {isFirst : Bool}

theorem leaves_readItemsFrom (hjoined : Joined ']' isFirst parts text)
    (hparts : ∀ part ∈ parts, StartsValue part ∧ ReadsAlone part) (fuel depth : Nat)
    (more : List Char) (items : List Value) :
    Leaves more (readItemsFrom fuel depth isFirst (text ++ more) items) := by
  induction parts generalizing fuel isFirst text items with
  | nil =>
      cases fuel with
      | zero => exact leaves_error _
      | succ fuel =>
          rw [readItemsFrom, nextItem_closed hjoined]
          exact leaves_ok _ _
  | cons part parts ih =>
      cases fuel with
      | zero => exact leaves_error _
      | succ fuel =>
          obtain ⟨⟨hstarts, hpart⟩, hparts⟩ := List.forall_mem_cons.mp hparts
          obtain ⟨rest, hrest, hnext⟩ := nextItem_part hstarts hjoined
          have hread := hpart fuel depth [] _ .nil (hrest.follows (by decide) more)
          rw [List.nil_append] at hread
          simp only [readItemsFrom, hnext]
          split
          next => exact leaves_error _
          next item left hitem =>
              obtain rfl := hread hitem
              exact ih hrest hparts _ _

theorem leaves_readMembersFrom {members : List Member}
    (hjoined : Joined '\x7d' isFirst (members.map Member.text) text)
    (hmembers : ∀ member ∈ members, ReadsAlone member.value) (fuel depth : Nat)
    (more : List Char) (found : List (String × Value)) :
    Leaves more (readMembersFrom fuel depth isFirst (text ++ more) found) := by
  induction members generalizing fuel isFirst text found with
  | nil =>
      cases fuel with
      | zero => exact leaves_error _
      | succ fuel =>
          rw [readMembersFrom, nextMember_closed hjoined]
          exact leaves_ok _ _
  | cons member members ih =>
      cases fuel with
      | zero => exact leaves_error _
      | succ fuel =>
          obtain ⟨hmember, hmembers⟩ := List.forall_mem_cons.mp hmembers
          obtain ⟨rest, hrest, hnext⟩ := nextMember_part hjoined
          obtain ⟨unread, colon, hanother, hname, hcolon⟩ := hnext more
          have hread := hmember fuel depth _ _ member.isGap_after (hrest.follows (by decide) more)
          simp only [readMembersFrom, hanother, scanName, hname, ok_bind, hcolon]
          split
          next => exact leaves_error _
          next value left hvalue =>
              obtain rfl := hread hvalue
              exact ih hrest hmembers _ _

theorem ReadsAlone.of_cons {c : Char} {back : List Char} (hc : c ∉ spaces)
    (hread : ∀ fuel depth rest, Follows rest →
      Leaves rest (readValueFrom (fuel + 1) depth (c :: (back ++ rest)))) :
    ReadsAlone (c :: back) := by
  intro fuel depth gap rest hgap hrest
  cases fuel with
  | zero => exact leaves_error _
  | succ fuel =>
      have hback := hread fuel depth rest hrest
      rw [readValueFrom, dropSpace_cons hc] at hback
      rw [List.cons_append, readValueFrom, dropSpace_append hgap hc]
      exact hback

theorem readsAlone_word (value : Value) {c : Char} {word : List Char} (hc : c ∉ spaces)
    (hread : ∀ fuel depth rest, readValueFrom (fuel + 1) depth (c :: rest) =
      (scanWord word rest).map fun rest => (value, rest)) : ReadsAlone (c :: word) :=
  .of_cons hc fun fuel depth rest _ => by
    rw [hread, scanWord_append]
    exact leaves_ok _ _

theorem IsMagnitude.readsAlone {number : List Char} (hnumber : IsMagnitude number) :
    ReadsAlone number ∧ ReadsAlone ('-' :: number) := by
  have hleaves : ∀ isPositive rest, Follows rest →
      Leaves rest (scanNumber isPositive (number ++ rest)) :=
    fun isPositive rest hrest => leaves_scanNumber hnumber hrest isPositive
  obtain ⟨c, back, rfl, hc⟩ := hnumber.exists_digit
  constructor
  · obtain ⟨_, _, ⟨-, -⟩, hspace, -⟩ := startsValue_of_isDigit hc back
    refine .of_cons hspace fun fuel depth rest hrest => ?_
    have hother : ∀ d, d.isDigit = false → c ≠ d := by
      rintro d hd rfl
      simp [hc] at hd
    have hread := (hleaves true rest hrest).map Number.toValue
    rw [readValueFrom, dropSpace_cons hspace]
    simpa [hother 'n' rfl, hother 't' rfl, hother 'f' rfl, hother '-' rfl, hc] using hread
  · refine .of_cons (by decide) fun fuel depth rest hrest => ?_
    have hread := (hleaves false rest hrest).map Number.toValue
    rw [readValueFrom, dropSpace_cons (by decide)]
    simpa using hread

/-- Every value of the grammar is taken as a whole, if it is taken. -/
theorem IsValue.readsAlone {text : List Char} (hvalue : IsValue text) : ReadsAlone text := by
  induction hvalue with
  | null =>
      refine readsAlone_word .null (by decide) fun fuel depth rest => ?_
      rw [readValueFrom, dropSpace_cons (by decide)]
      rfl
  | true =>
      refine readsAlone_word (.bool Bool.true) (by decide) fun fuel depth rest => ?_
      rw [readValueFrom, dropSpace_cons (by decide)]
      rfl
  | false =>
      refine readsAlone_word (.bool Bool.false) (by decide) fun fuel depth rest => ?_
      rw [readValueFrom, dropSpace_cons (by decide)]
      rfl
  | positive hnumber => exact hnumber.readsAlone.1
  | negative hnumber => exact hnumber.readsAlone.2
  | text hbody =>
      refine .of_cons (by decide) fun fuel depth rest _ => ?_
      have hread := (leaves_scanText hbody rest).map fun text => Value.text (String.ofList text)
      rw [readValueFrom, dropSpace_cons (by decide)]
      simpa using hread
  | list hparts hrest ih =>
      rename_i parts unread
      refine .of_cons (by decide) fun fuel depth rest _ => ?_
      rw [readValueFrom, dropSpace_cons (by decide)]
      cases henter : enter depth ('[' :: (unread ++ rest)) with
      | error fault => simpa [henter] using leaves_error fault
      | ok depth =>
          have hitems := leaves_readItemsFrom hrest
            (fun part hpart => ⟨(hparts part hpart).startsValue, ih part hpart⟩) fuel depth rest []
          simpa [henter] using hitems
  | object hmembers hrest ih =>
      rename_i members unread
      refine .of_cons (by decide) fun fuel depth rest _ => ?_
      rw [readValueFrom, dropSpace_cons (by decide)]
      cases henter : enter depth ('\x7b' :: (unread ++ rest)) with
      | error fault => simpa [henter] using leaves_error fault
      | ok depth =>
          have hread := leaves_readMembersFrom hrest ih fuel depth rest []
          simpa [henter] using hread

end Reading

/-! ## Decoders -/

section Values

variable {back : List Char}

theorem not_isMagnitude_cons {c : Char} (hc : c.isDigit = false) : ¬ IsMagnitude (c :: back) := by
  intro hnumber
  obtain ⟨d, rest, heq, hd⟩ := hnumber.exists_digit
  obtain ⟨rfl, -⟩ := List.cons.inj heq
  simp [hc] at hd

theorem IsValue.eq_null (hvalue : IsValue ('n' :: back)) : back = "ull".toList := by
  generalize htext : 'n' :: back = text at hvalue
  cases hvalue with
  | null => exact (List.cons.inj htext).2
  | positive hnumber => exact absurd (htext ▸ hnumber) (not_isMagnitude_cons (by decide))
  | _ => cases htext

theorem IsValue.exists_spells (hvalue : IsValue ('"' :: back)) :
    ∃ value body, SpellsText value body ∧ back = body ++ ['"'] := by
  generalize htext : '"' :: back = text at hvalue
  cases hvalue with
  | text hbody => exact ⟨_, _, hbody, (List.cons.inj htext).2⟩
  | positive hnumber => exact absurd (htext ▸ hnumber) (not_isMagnitude_cons (by decide))
  | _ => cases htext

theorem IsValue.exists_items (hvalue : IsValue ('[' :: back)) :
    ∃ parts, (∀ part ∈ parts, IsValue part) ∧ Joined ']' Bool.true parts back := by
  generalize htext : '[' :: back = text at hvalue
  cases hvalue with
  | list hparts hrest =>
      obtain ⟨-, rfl⟩ := List.cons.inj htext
      exact ⟨_, hparts, hrest⟩
  | positive hnumber => exact absurd (htext ▸ hnumber) (not_isMagnitude_cons (by decide))
  | _ => cases htext

theorem IsValue.exists_members (hvalue : IsValue ('\x7b' :: back)) :
    ∃ members : List Member, (∀ member ∈ members, IsValue member.value) ∧
      Joined '\x7d' Bool.true (members.map Member.text) back := by
  generalize htext : '\x7b' :: back = text at hvalue
  cases hvalue with
  | object hmembers hrest =>
      obtain ⟨-, rfl⟩ := List.cons.inj htext
      exact ⟨_, hmembers, hrest⟩
  | positive hnumber => exact absurd (htext ▸ hnumber) (not_isMagnitude_cons (by decide))
  | _ => cases htext

end Values

/-- Whatever value of the grammar stands in front, the decoder takes just that or nothing. -/
def Decoder.TakesOne (decoder : Decoder α) : Prop :=
  ∀ ⦃text⦄, IsValue text → ∀ ⦃gap rest⦄, IsGap gap → Follows rest → ∀ depth,
    Leaves rest (decoder depth (gap ++ (text ++ rest)))

theorem stringDecoder_takesOne : stringDecoder.TakesOne := by
  intro text hvalue gap rest hgap hrest depth
  refine Leaves.bind ?_ fun value => leaves_ok _ _
  have hstarts := hvalue.startsValue
  obtain ⟨c, back, rfl, hc, -⟩ := hstarts
  rw [List.cons_append, textDecoder, atToken_append hgap hc, ok_bind]
  by_cases hquote : c = '"'
  · subst hquote
    obtain ⟨value, body, hbody, rfl⟩ := hvalue.exists_spells
    rw [List.append_assoc]
    exact leaves_scanText hbody rest
  · split
    next heq => exact absurd (List.cons.inj heq).1 hquote
    next => exact leaves_refuse _ _

theorem anyDecoder_takesOne : anyDecoder.TakesOne :=
  fun _ hvalue _ _ hgap hrest _ => hvalue.readsAlone _ _ _ _ hgap hrest

namespace Decoder.TakesOne

variable {decoder : Decoder α}

theorem map (htakes : decoder.TakesOne) (f : α → β) : Decoder.TakesOne fun depth text =>
    (decoder depth text).map fun (found, rest) => (f found, rest) :=
  fun _ hvalue _ _ hgap hrest depth => (htakes hvalue hgap hrest depth).map f

theorem option (htakes : decoder.TakesOne) : (optionDecoder decoder).TakesOne := by
  intro text hvalue gap rest hgap hrest depth
  have hdrop := dropSpace_gap_append hgap hvalue.startsValue rest
  have hread := (htakes hvalue .nil hrest depth).map some
  obtain ⟨c, back, rfl, hc, -⟩ := hvalue.startsValue
  rw [optionDecoder, hdrop, List.cons_append]
  by_cases hnull : c = 'n'
  · subst hnull
    obtain rfl := hvalue.eq_null
    simp only [scanWord_append]
    exact leaves_ok _ _
  · split
    next heq => exact absurd (List.cons.inj heq).1 hnull
    next => exact hread

theorem default [Inhabited α] (htakes : decoder.TakesOne) : (defaultDecoder decoder).TakesOne :=
  htakes.option.map fun found => found.getD Inhabited.default

end Decoder.TakesOne

/-! ## Records -/

/-- The members give no field that was seen, and each other field at most once. -/
inductive GivesOnce (fields : List (Field σ)) : List Nat → List Member → Prop
  | nil {seen : List Nat} : GivesOnce fields seen []
  | unknown {seen : List Nat} {member : Member} {members : List Member}
      (hindex : fieldIndex? fields member.name = none) (hrest : GivesOnce fields seen members) :
      GivesOnce fields seen (member :: members)
  | known {seen : List Nat} {member : Member} {members : List Member} {index : Nat}
      (hindex : fieldIndex? fields member.name = some index) (hfresh : index ∉ seen)
      (hrest : GivesOnce fields (index :: seen) members) : GivesOnce fields seen (member :: members)

namespace GivesOnce

variable {fields : List (Field σ)} {seen : List Nat} {members : List Member} {index : Nat}

theorem fieldIndex?_ne (honce : GivesOnce fields seen members) (hseen : index ∈ seen) :
    ∀ member ∈ members, fieldIndex? fields member.name ≠ some index := by
  induction honce with
  | nil => exact List.forall_mem_nil _
  | unknown hindex _ ih =>
      refine List.forall_mem_cons.mpr ⟨?_, ih hseen⟩
      rw [hindex]
      exact nofun
  | known hindex hfresh _ ih =>
      refine List.forall_mem_cons.mpr ⟨?_, ih (List.mem_cons_of_mem _ hseen)⟩
      rw [hindex]
      rintro ⟨⟩
      exact hfresh hseen

/-- No two members are of the same field. -/
theorem not_sublist (honce : GivesOnce fields seen members) {first second : Member}
    (hfirst : fieldIndex? fields first.name = some index)
    (hsecond : fieldIndex? fields second.name = some index) :
    ¬ [first, second].Sublist members := by
  induction honce with
  | nil => exact nofun
  | unknown hindex _ ih =>
      intro hpair
      cases hpair with
      | cons _ hpair => exact ih hpair
      | cons_cons _ _ => simp [hfirst] at hindex
  | known hindex _ hrest ih =>
      intro hpair
      cases hpair with
      | cons _ hpair => exact ih hpair
      | cons_cons _ hmem =>
          obtain rfl := Option.some.inj (hfirst.symm.trans hindex)
          exact hrest.fieldIndex?_ne List.mem_cons_self second (List.singleton_sublist.mp hmem)
            hsecond

end GivesOnce

section Records

variable {fields : List (Field σ)} {members : List Member} {parts : List (List Char)}
  {text : List Char} {isFirst : Bool}

/-- The members that an object is read from are met one after the other up to its closing brace, and
none of them gives a field again. -/
theorem membersFrom_eq_ok
    (hfields : ∀ field ∈ fields, ∀ record, (field.read record).TakesOne)
    (hvalues : ∀ member ∈ members, IsValue member.value)
    (hjoined : Joined '\x7d' isFirst (members.map Member.text) text) {depth fuel : Nat}
    {more left : List Char} {seen : List Nat} {record next : σ}
    (hread : membersFrom fields depth fuel isFirst (text ++ more) seen record = .ok (next, left)) :
    left = more ∧ GivesOnce fields seen members := by
  induction members generalizing fuel isFirst text seen record with
  | nil =>
      refine ⟨?_, .nil⟩
      cases fuel with
      | zero => cases hread
      | succ fuel =>
          simp only [membersFrom, nextMember_closed hjoined] at hread
          split at hread
          next => exact ((Prod.mk.inj (Except.ok.inj hread)).2).symm
          next => cases hread
  | cons member members ih =>
      cases fuel with
      | zero => cases hread
      | succ fuel =>
          obtain ⟨hvalue, hvalues⟩ := List.forall_mem_cons.mp hvalues
          obtain ⟨rest, hrest, hnext⟩ := nextMember_part hjoined
          obtain ⟨unread, colon, hanother, hname, hcolon⟩ := hnext more
          have hfollows := hrest.follows (by decide) more
          simp only [membersFrom, hanother, hname] at hread
          cases hindex : fieldIndex? fields member.name with
          | none =>
              have hskip := hvalue.skipValue_append member.isGap_after hfollows
              simp only [hindex, Option.bind_none, hcolon, hskip, placedIn] at hread
              exact (ih hvalues hrest hread).imp_right (.unknown hindex)
          | some index =>
              obtain ⟨field, hfield, -⟩ := exists_field_of_fieldIndex? hindex
              simp only [hindex, Option.bind_some, hfield, Option.map_some, hcolon] at hread
              split at hread
              next => cases hread
              next hunseen =>
                  have hfresh : index ∉ seen := by simpa using hunseen
                  split at hread
                  next => cases hread
                  next middle between hfound =>
                      have htakes := hfields field (List.mem_of_getElem? hfield) record
                      have hleaves := htakes hvalue member.isGap_after hfollows depth
                      obtain rfl := hleaves.placedIn (.field member.name) hfound
                      exact (ih hvalues hrest hread).imp_right (.known hindex hfresh)

/-- A list is not closed before an item. -/
theorem exists_closeList_eq_error {part : List Char} (hpart : StartsValue part)
    (hjoined : Joined ']' isFirst (part :: parts) text) (more : List Char) :
    ∃ fault, closeList (text ++ more) = .error fault := by
  cases hjoined with
  | first hgap hrest =>
      rename_i rest gap
      have hdrop := dropSpace_gap_append hgap hpart (rest ++ more)
      obtain ⟨c, back, rfl, -, hend, -⟩ := hpart
      simp only [List.append_assoc, List.cons_append] at hdrop ⊢
      simp only [closeList, hdrop, if_neg hend, failAt]
      split_ifs <;> exact ⟨_, rfl⟩
  | next hbefore hafter hrest =>
      rename_i rest before after
      have hdrop := dropSpace_append hbefore (show ',' ∉ spaces by decide)
        (after ++ (part ++ (rest ++ more)))
      simp only [List.append_assoc, List.cons_append]
      simp only [closeList, hdrop, if_neg (show ',' ≠ ']' by decide), if_true, failAt]
      split_ifs <;> exact ⟨_, rfl⟩

theorem leaves_itemsFrom (hfields : ∀ field ∈ fields, ∀ record, (field.read record).TakesOne)
    (hparts : ∀ part ∈ parts, IsValue part) (expected : String) (depth : Nat) {start : Nat}
    (hjoined : Joined ']' (start == 0) parts text) (more : List Char) (record : σ) :
    Leaves more (itemsFrom expected depth start fields (text ++ more) record) := by
  induction fields generalizing parts start record text with
  | nil =>
      cases parts with
      | nil =>
          rw [itemsFrom, closeList_closed hjoined]
          exact leaves_ok _ _
      | cons part parts =>
          have hstarts := (hparts part List.mem_cons_self).startsValue
          obtain ⟨fault, hfault⟩ := exists_closeList_eq_error hstarts hjoined more
          rw [itemsFrom, hfault]
          exact leaves_error _
  | cons field fields ih =>
      obtain ⟨hfield, hfields⟩ := List.forall_mem_cons.mp hfields
      cases parts with
      | nil =>
          simp only [itemsFrom, nextItem_closed hjoined]
          split
          next => exact leaves_ok _ _
          next => exact leaves_error _
      | cons part parts =>
          obtain ⟨hpart, hparts⟩ := List.forall_mem_cons.mp hparts
          obtain ⟨rest, hrest, hnext⟩ := nextItem_part hpart.startsValue hjoined
          have hread := hfield record hpart .nil (hrest.follows (by decide) more) depth
          rw [List.nil_append] at hread
          simp only [itemsFrom, hnext]
          split
          next => exact leaves_error _
          next middle left hfound =>
              obtain rfl := hread.placedIn (.element start) hfound
              have hfalse : (start + 1 == 0) = false := rfl
              rw [← hfalse] at hrest
              exact ih hfields hparts hrest middle

theorem leaves_entered {rest unread : List Char} {depth : Nat}
    {read : Nat → Except Fault (α × List Char)} (hread : ∀ depth, Leaves rest (read depth)) :
    Leaves rest (enter depth unread >>= read) := by
  cases enter depth unread with
  | error fault => exact leaves_error fault
  | ok depth => exact hread depth

theorem Field.required_takesOne {decoder : Decoder α} (htakes : decoder.TakesOne) (name : String)
    (aliases : List String) (put : σ → α → σ) (record : σ) :
    ((Field.required name aliases decoder put).read record).TakesOne :=
  htakes.map (put record)

theorem Field.optional_takesOne {decoder : Decoder α} (htakes : decoder.TakesOne) (name : String)
    (aliases : List String) (put : σ → α → σ) (record : σ) :
    ((Field.optional name aliases decoder put).read record).TakesOne :=
  htakes.map (put record)

/-- A record is taken from an object or from a list, if it is taken. -/
theorem RecordShape.decoder_takesOne {shape : RecordShape σ}
    (hfields : ∀ field ∈ shape.fields, ∀ record, (field.read record).TakesOne) (blank : σ) :
    (shape.decoder blank).TakesOne := by
  intro text hvalue gap rest hgap hrest depth
  obtain ⟨c, back, rfl, hc, -⟩ := hvalue.startsValue
  rw [List.cons_append, decoder, atToken_append hgap hc, ok_bind]
  split
  next heq =>
      obtain ⟨rfl, rfl⟩ := List.cons.inj heq
      obtain ⟨members, hvalues, hjoined⟩ := hvalue.exists_members
      refine leaves_entered fun depth result left hread => ?_
      exact (membersFrom_eq_ok hfields hvalues hjoined hread).1
  next heq =>
      obtain ⟨rfl, rfl⟩ := List.cons.inj heq
      obtain ⟨parts, hparts, hjoined⟩ := hvalue.exists_items
      have hfirst : (0 == 0) = true := rfl
      rw [← hfirst] at hjoined
      exact leaves_entered fun depth => leaves_itemsFrom hfields hparts _ depth hjoined rest blank
  next => exact leaves_refuse _ _

/-- No object is read that gives a field twice, whatever its other members are and whatever follows
it. -/
theorem RecordShape.document_refuses {shape : RecordShape σ}
    (hfields : ∀ field ∈ shape.fields, ∀ record, (field.read record).TakesOne)
    (hvalues : ∀ member ∈ members, IsValue member.value)
    (hjoined : Joined '\x7d' true (members.map Member.text) text) {first second : Member}
    (hpair : [first, second].Sublist members) {index : Nat}
    (hfirst : fieldIndex? shape.fields first.name = some index)
    (hsecond : fieldIndex? shape.fields second.name = some index) {before : List Char}
    (hbefore : IsGap before) (after : List Char) (blank : σ) :
    ∃ fault, (shape.decoder blank).document (before ++ ('\x7b' :: text ++ after)) =
      .error fault := by
  cases hread : (shape.decoder blank).document (before ++ ('\x7b' :: text ++ after)) with
  | error fault => exact ⟨fault, rfl⟩
  | ok result =>
      obtain ⟨⟨found, left⟩, hread, -⟩ := bind_eq_ok_iff.mp hread
      rw [List.cons_append, decoder, atToken_append hbefore (by decide), ok_bind] at hread
      obtain ⟨depth, -, hread⟩ := bind_eq_ok_iff.mp hread
      exact absurd hpair ((membersFrom_eq_ok hfields hvalues hjoined hread).2.not_sublist hfirst
        hsecond)

end Records

end QueryWarden.Json
