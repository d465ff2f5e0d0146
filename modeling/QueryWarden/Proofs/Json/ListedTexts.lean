import QueryWarden.Proofs.Bytes.Utf8
import QueryWarden.Proofs.Json.Consumption
import QueryWarden.Proofs.Json.Writing

/-!
# What is read was written

The converse of reading back, for lists of texts: whatever the decoder takes is a layout of the
tokens of its result. So a document is read as such a list exactly if it is one of its layouts.
-/

namespace QueryWarden.Json

open QueryWarden.Text

/-! ## Escapes -/

theorem toNat_lt_of_hexValue? {c : Char} {value : Nat} (hvalue : hexValue? c = some value) :
    c.toNat < 128 := by
  have hle : ∀ {d : Char}, c ≤ d → c.toNat ≤ d.toNat := fun hle => hle
  unfold hexValue? at hvalue
  split_ifs at hvalue with hdigit hlower hupper
  · simp only [Char.isDigit, Bool.and_eq_true, decide_eq_true_eq] at hdigit
    exact (hle hdigit.2).trans_lt (by decide)
  · exact (hle hlower.2).trans_lt (by decide)
  · exact (hle hupper.2).trans_lt (by decide)

theorem isHexDigit_of_hexValue? {c : Char} {value : Nat} (hvalue : hexValue? c = some value) :
    IsHexDigit value c := by
  have hall : ∀ code < 128, (hexValue? (Char.ofNat code)).all (fun value =>
      lowerDigits[value]? = some (Char.ofNat code) ∨
        upperDigits[value]? = some (Char.ofNat code)) = true := by
    decide +kernel
  have hdigit := hall c.toNat (toNat_lt_of_hexValue? hvalue)
  rw [Char.ofNat_toNat, hvalue, Option.all_some, decide_eq_true_eq] at hdigit
  exact hdigit

theorem IsHexDigit.lt {value : Nat} {c : Char} (hdigit : IsHexDigit value c) : value < 16 := by
  rcases hdigit with hlower | hupper
  · exact (List.getElem?_eq_some_iff.mp hlower).1
  · exact (List.getElem?_eq_some_iff.mp hupper).1

theorem SpellsUnit.lt {unit : Nat} {digits : List Char} (hdigits : SpellsUnit unit digits) :
    unit < 0x10000 := by
  obtain ⟨ha, hb, hc, hd⟩ := hdigits
  have ha := ha.lt
  have hb := hb.lt
  have hc := hc.lt
  have hd := hd.lt
  omega

/-- Four digits that are read as a unit spell it. -/
theorem exists_of_scanHex {text rest : List Char} {unit : Nat}
    (hscan : scanHex text = .ok (unit, rest)) :
    ∃ digits, SpellsUnit unit digits ∧ text = digits ++ rest := by
  unfold scanHex at hscan
  split at hscan
  · cases hscan
  · split at hscan
    · split at hscan
      next ha hb hc hd =>
        obtain ⟨rfl, rfl⟩ := Prod.mk.inj (Except.ok.inj hscan)
        exact ⟨_, .mk (isHexDigit_of_hexValue? ha) (isHexDigit_of_hexValue? hb)
          (isHexDigit_of_hexValue? hc) (isHexDigit_of_hexValue? hd), rfl⟩
      next => cases hscan
    · cases hscan

theorem eq_cons_of_scanPairMark {wanted : Char} {text rest : List Char}
    (hscan : scanPairMark wanted text = .ok rest) : text = wanted :: rest := by
  cases text with
  | nil => cases hscan
  | cons c text =>
      rw [scanPairMark] at hscan
      split at hscan
      next hc => rw [hc, Except.ok.inj hscan]
      next => cases hscan

/-- A numbered escape that is read spells its character. -/
theorem exists_of_scanNumbered {text rest : List Char} {c : Char}
    (hscan : scanNumbered text = .ok (c, rest)) :
    ∃ digits, SpellsChar c ('\\' :: 'u' :: digits) ∧ text = digits ++ rest := by
  unfold scanNumbered at hscan
  obtain ⟨⟨unit, behind⟩, hunit, hread⟩ := bind_eq_ok_iff.mp hscan
  obtain ⟨first, hfirst, rfl⟩ := exists_of_scanHex hunit
  have hbound := hfirst.lt
  simp only [Bool.and_eq_true, Bool.or_eq_true, decide_eq_true_eq] at hread
  split at hread
  next => cases hread
  next hlone =>
    split at hread
    next hsingle =>
      obtain ⟨rfl, rfl⟩ := Prod.mk.inj (Except.ok.inj hread)
      have hvalid : unit.isValidChar := by
        unfold Nat.isValidChar
        omega
      refine ⟨first, .numbered ?_, rfl⟩
      rwa [Bytes.toNat_ofNat_of_isValidChar hvalid]
    next hpair =>
      obtain ⟨escape, hmark, hescape⟩ := bind_eq_ok_iff.mp hread
      obtain ⟨digits, hletter, hdigits⟩ := bind_eq_ok_iff.mp hescape
      obtain ⟨⟨low, back⟩, hlow, hchosen⟩ := bind_eq_ok_iff.mp hdigits
      obtain ⟨second, hsecond, rfl⟩ := exists_of_scanHex hlow
      obtain rfl := eq_cons_of_scanPairMark hletter
      obtain rfl := eq_cons_of_scanPairMark hmark
      split at hchosen
      next hrange =>
        obtain ⟨rfl, rfl⟩ := Prod.mk.inj (Except.ok.inj hchosen)
        have hvalid : (0x10000 + (unit - 0xd800) * 0x400 + (low - 0xdc00)).isValidChar := by
          unfold Nat.isValidChar
          omega
        refine ⟨first ++ '\\' :: 'u' :: second, ?_, by simp⟩
        exact .paired ⟨by omega, by omega⟩ hrange (Bytes.toNat_ofNat_of_isValidChar hvalid) hfirst
          hsecond
      next => cases hchosen

theorem mem_of_simpleEscape? {letter c : Char} (hescape : simpleEscape? letter = some c) :
    (letter, c) ∈ shortEscapes := by
  unfold simpleEscape? at hescape
  split_ifs at hescape with hself hb hf hn hr ht
  · obtain rfl := Option.some.inj hescape
    simp only [Bool.or_eq_true, decide_eq_true_eq] at hself
    rcases hself with (rfl | rfl) | rfl <;> decide
  all_goals
    obtain rfl := Option.some.inj hescape
    subst letter
    decide

/-- An escape that is read spells its character. -/
theorem exists_of_scanEscape {text rest : List Char} {c : Char}
    (hscan : scanEscape text = .ok (c, rest)) :
    ∃ escape, SpellsChar c ('\\' :: escape) ∧ text = escape ++ rest := by
  cases text with
  | nil => cases hscan
  | cons letter text =>
      rw [scanEscape] at hscan
      split at hscan
      next hescape =>
        obtain ⟨rfl, rfl⟩ := Prod.mk.inj (Except.ok.inj hscan)
        exact ⟨[letter], .short (mem_of_simpleEscape? hescape), rfl⟩
      next =>
        split at hscan
        next hletter =>
          subst hletter
          obtain ⟨digits, hspells, rfl⟩ := exists_of_scanNumbered hscan
          exact ⟨'u' :: digits, hspells, rfl⟩
        next => cases hscan

/-! ## Texts -/

theorem exists_of_scanTextFrom {fuel : Nat} {text before value rest : List Char}
    (hscan : scanTextFrom fuel text before = .ok (value, rest)) :
    ∃ found body, value = before.reverse ++ found ∧ SpellsText found body ∧
      text = body ++ '"' :: rest := by
  induction fuel generalizing text before with
  | zero => cases hscan
  | succ fuel ih =>
      -- A character that was read stands in front of those that are read behind it.
      have hmore : ∀ {c : Char} {piece back : List Char}, SpellsChar c piece →
          scanTextFrom fuel back (c :: before) = .ok (value, rest) → text = piece ++ back →
          ∃ found body, value = before.reverse ++ found ∧ SpellsText found body ∧
            text = body ++ '"' :: rest := by
        intro c piece back hpiece hback htext
        obtain ⟨found, body, hvalue, hbody, rfl⟩ := ih hback
        refine ⟨c :: found, piece ++ body, ?_, .cons hpiece hbody, ?_⟩
        · rw [hvalue, List.reverse_cons, List.append_assoc, List.singleton_append]
        · rw [htext, List.append_assoc]
      cases text with
      | nil => cases hscan
      | cons c text =>
          unfold scanTextFrom at hscan
          split at hscan
          next hquote =>
            obtain ⟨rfl, rfl⟩ := Prod.mk.inj (Except.ok.inj hscan)
            exact ⟨[], [], (List.append_nil _).symm, .nil, by rw [hquote]; rfl⟩
          next hquote =>
            split at hscan
            next hbackslash =>
              split at hscan
              next escaped back hescape =>
                obtain ⟨escape, hspells, rfl⟩ := exists_of_scanEscape hescape
                exact hmore hspells hscan (by rw [hbackslash]; rfl)
              next => cases hscan
            next hbackslash =>
              split at hscan
              next => cases hscan
              next hcontrol =>
                exact hmore (.plain hquote hbackslash (Nat.le_of_not_lt hcontrol)) hscan rfl

/-- What is read up to a closing quote is a spelling of the text. -/
theorem exists_of_scanText {text value rest : List Char}
    (hscan : scanText text = .ok (value, rest)) :
    ∃ body, SpellsText value body ∧ text = body ++ '"' :: rest := by
  obtain ⟨found, body, hvalue, hbody, htext⟩ := exists_of_scanTextFrom hscan
  rw [List.reverse_nil, List.nil_append] at hvalue
  exact ⟨body, hvalue ▸ hbody, htext⟩

/-! ## Tokens in front -/

theorem exists_gap (text : List Char) :
    ∃ gap, (∀ c ∈ gap, c ∈ spaces) ∧ text = gap ++ dropSpace text := by
  refine ⟨text.takeWhile isSpace, ?_, List.takeWhile_append_dropWhile.symm⟩
  intro c hc
  exact isSpace_iff.mp (List.mem_takeWhile_imp hc)

theorem exists_of_atToken {text token : List Char} (htoken : atToken text = .ok token) :
    ∃ gap, (∀ c ∈ gap, c ∈ spaces) ∧ text = gap ++ token := by
  obtain ⟨gap, hgap, htext⟩ := exists_gap text
  unfold atToken at htoken
  split at htoken
  next => cases htoken
  next =>
    obtain rfl := Except.ok.inj htoken
    exact ⟨gap, hgap, htext⟩

/-- A gap and a mark are a layout of the mark. -/
theorem laid_mark {gap : List Char} (hgap : ∀ c ∈ gap, c ∈ spaces) {c : Char} (hc : c ∈ marks) :
    Laid [.mark c] (gap ++ [c]) :=
  .cons hgap (.mark hc) (.nil (List.forall_mem_nil _))

/-- What stands before an item that is not the first. -/
def separator (isFirst : Bool) : List Token :=
  if isFirst then [] else [.mark ',']

theorem parted_cons (closing : Char) (isFirst : Bool) (part : List Token)
    (parts : List (List Token)) :
    parted closing isFirst (part :: parts) =
      separator isFirst ++ (part ++ parted closing false parts) := by
  cases isFirst with
  | true => rfl
  | false => rfl

section Items

variable {isFirst : Bool} {text rest : List Char}

theorem exists_of_nextItem_ended (hnext : nextItem isFirst text = .ok (.ended rest)) :
    ∃ front, text = front ++ rest ∧ Laid [.mark ']'] front := by
  obtain ⟨gap, hgap, htext⟩ := exists_gap text
  unfold nextItem at hnext
  split at hnext
  next => cases hnext
  next c behind hdropped =>
    rw [hdropped] at htext
    split_ifs at hnext with hend hfirst hcomma
    · obtain ⟨⟩ := hnext
      refine ⟨gap ++ [']'], ?_, laid_mark hgap (by decide)⟩
      rw [htext, hend, List.append_assoc, List.singleton_append]
    · cases hnext
    -- Behind a comma no list ends.
    · split at hnext
      next => cases hnext
      next => split at hnext <;> cases hnext
    · cases hnext

theorem exists_of_nextItem_another (hnext : nextItem isFirst text = .ok (.another rest)) :
    ∃ front, text = front ++ rest ∧ Laid (separator isFirst) front := by
  obtain ⟨gap, hgap, htext⟩ := exists_gap text
  unfold nextItem at hnext
  split at hnext
  next => cases hnext
  next c behind hdropped =>
    rw [hdropped] at htext
    split_ifs at hnext with hend hfirst hcomma
    · cases hnext
    · obtain ⟨⟩ := hnext
      rw [hfirst]
      exact ⟨gap, htext, .nil hgap⟩
    · obtain ⟨more, hmore, hbehind⟩ := exists_gap behind
      split at hnext
      next => cases hnext
      next d back hitem =>
        rw [hitem] at hbehind
        split at hnext
        next => cases hnext
        next =>
          obtain ⟨⟩ := hnext
          rw [Bool.eq_false_iff.mpr hfirst]
          refine ⟨gap ++ [','] ++ more, ?_, (laid_mark hgap (by decide)).append (.nil hmore)⟩
          rw [htext, hcomma, hbehind]
          simp only [List.append_assoc, List.cons_append, List.nil_append]
    · cases hnext

end Items

/-! ## Decoders -/

section Decoders

variable {α : Type} {decoder : Decoder α} {write : α → List Token}

/-- Whatever the decoder takes is a layout of the tokens that its result is written with. -/
def Decoder.Finds (decoder : Decoder α) (write : α → List Token) : Prop :=
  ∀ ⦃depth text result rest⦄, decoder depth text = .ok (result, rest) →
    ∃ front, text = front ++ rest ∧ Laid (write result) front

theorem Decoder.Finds.document (hfinds : decoder.Finds write) {text : List Char} {result : α}
    (hread : decoder.document text = .ok result) : Laid (write result) text := by
  unfold Decoder.document at hread
  obtain ⟨⟨found, rest⟩, hfound, hend⟩ := bind_eq_ok_iff.mp hread
  obtain ⟨front, rfl, hlaid⟩ := hfinds hfound
  obtain ⟨gap, hgap, hrest⟩ := exists_gap rest
  simp only at hend
  split at hend
  next hempty =>
    obtain rfl := Except.ok.inj hend
    rw [hempty, List.append_nil] at hrest
    subst hrest
    have happend := hlaid.append (.nil hgap)
    rwa [List.append_nil] at happend
  next => cases hend

theorem refuse_ne_ok (expected : String) (text : List Char) (result : α × List Char) :
    refuse expected text ≠ .ok result := by
  intro hrefused
  have hleft : result.2 = ' ' :: result.2 := leaves_refuse expected text hrefused
  exact List.cons_ne_self _ _ hleft.symm

theorem stringDecoder_finds : stringDecoder.Finds fun value => [.text value.toList] := by
  intro depth text value rest hread
  unfold stringDecoder textDecoder at hread
  obtain ⟨⟨found, left⟩, hfound, hvalue⟩ := bind_eq_ok_iff.mp hread
  obtain ⟨token, htoken, hscan⟩ := bind_eq_ok_iff.mp hfound
  obtain ⟨rfl, rfl⟩ := Prod.mk.inj (Except.ok.inj hvalue)
  obtain ⟨gap, hgap, rfl⟩ := exists_of_atToken htoken
  split at hscan
  next unread =>
    obtain ⟨body, hbody, rfl⟩ := exists_of_scanText hscan
    refine ⟨gap ++ (('"' :: body ++ ['"']) ++ []), by simp, ?_⟩
    simp only [String.toList_ofList]
    exact .cons hgap (.text hbody) (.nil (List.forall_mem_nil _))
  next => exact absurd hscan (refuse_ne_ok _ _ _)

theorem eq_ok_of_placedIn {step : Step} {outcome : Except Fault α} {result : α}
    (hplaced : placedIn step outcome = .ok result) : outcome = .ok result := by
  cases outcome with
  | error fault => cases hplaced
  | ok found => exact hplaced

theorem listFrom_finds (hfinds : decoder.Finds write) {depth fuel : Nat} {isFirst : Bool}
    {text rest : List Char} {before results : List α}
    (hread : listFrom decoder depth fuel isFirst text before = .ok (results, rest)) :
    ∃ found front, results = before.reverse ++ found ∧ text = front ++ rest ∧
      Laid (parted ']' isFirst (found.map write)) front := by
  induction fuel generalizing isFirst text before with
  | zero => cases hread
  | succ fuel ih =>
      unfold listFrom at hread
      split at hread
      next => cases hread
      next ended hended =>
        obtain ⟨rfl, rfl⟩ := Prod.mk.inj (Except.ok.inj hread)
        obtain ⟨front, htext, hlaid⟩ := exists_of_nextItem_ended hended
        exact ⟨[], front, (List.append_nil _).symm, htext, hlaid⟩
      next next hanother =>
        split at hread
        next => cases hread
        next item behind hitem =>
          obtain ⟨front, rfl, hfront⟩ := exists_of_nextItem_another hanother
          obtain ⟨piece, rfl, hpiece⟩ := hfinds (eq_ok_of_placedIn hitem)
          obtain ⟨found, back, rfl, rfl, hback⟩ := ih hread
          refine ⟨item :: found, front ++ (piece ++ back), by simp, by simp, ?_⟩
          rw [List.map_cons, parted_cons]
          exact hfront.append (hpiece.append hback)

theorem listDecoder_finds (hfinds : decoder.Finds write) :
    (listDecoder decoder).Finds fun results => .mark '[' :: parted ']' true (results.map write) := by
  intro depth text results rest hread
  unfold listDecoder at hread
  obtain ⟨token, htoken, hopened⟩ := bind_eq_ok_iff.mp hread
  obtain ⟨gap, hgap, rfl⟩ := exists_of_atToken htoken
  split at hopened
  next unread =>
    obtain ⟨inner, -, hitems⟩ := bind_eq_ok_iff.mp hopened
    obtain ⟨found, front, rfl, rfl, hlaid⟩ := listFrom_finds hfinds hitems
    exact ⟨gap ++ (['['] ++ front), by simp, .cons hgap (.mark (by decide)) hlaid⟩
  next => exact absurd hopened (refuse_ne_ok _ _ _)

end Decoders

/-! ## Lists of texts -/

/-- The tokens that a list of texts is written with. -/
def listTokens (texts : List String) : List Token :=
  .mark '[' :: parted ']' true (texts.map fun text => [.text text.toList])

theorem written_listTokens (texts : List String) :
    Written (.ofTexts texts) (listTokens texts) := by
  apply Written.list
  induction texts with
  | nil => exact .nil
  | cons text texts ih => exact .cons (.text text) ih

/-- A document is read as a list of texts if it is a layout of the list, and only then. -/
theorem document_eq_ok_iff {text : List Char} {texts : List String} :
    (listDecoder stringDecoder).document text = .ok texts ↔ Laid (listTokens texts) text := by
  constructor
  · intro hread
    exact (listDecoder_finds stringDecoder_finds).document hread
  · intro hlaid
    have hitems : List.Forall₂ (stringDecoder.Reads 1) (texts.map .text) texts := by
      rw [List.forall₂_map_left_iff, List.forall₂_same]
      exact fun question _ => (stringDecoder_reads question).mono (Nat.zero_le 1)
    exact (listDecoder_reads (le_refl 1) hitems).document (by decide) (written_listTokens texts)
      hlaid

end QueryWarden.Json
