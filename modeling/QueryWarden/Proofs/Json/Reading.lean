import QueryWarden.Json.Decoder
import QueryWarden.Proofs.Json.Layout
import QueryWarden.Proofs.Outcome

/-!
# Values are read back however they are written

A decoder reads a value as a result if it finds the result in every layout of every way to write the
value, and leaves a layout of what follows. This is shown for the decoders of texts, lists and
records from the same property of what they are made of. The members of a record are read in the
order they come in: each settles one field and spoils none, so the order does not matter.
-/

namespace QueryWarden.Json

open QueryWarden.Text

/-! ## Texts -/

theorem hexValue?_of_isHexDigit {value : Nat} {c : Char} (hdigit : IsHexDigit value c) :
    hexValue? c = some value := by
  have hdigits : ∀ value < 16, lowerDigits[value]?.bind hexValue? = some value ∧
      upperDigits[value]?.bind hexValue? = some value := by decide
  rcases hdigit with hlower | hupper
  · obtain ⟨hlength, -⟩ := List.getElem?_eq_some_iff.mp hlower
    have hvalue := (hdigits value hlength).1
    rwa [hlower] at hvalue
  · obtain ⟨hlength, -⟩ := List.getElem?_eq_some_iff.mp hupper
    have hvalue := (hdigits value hlength).2
    rwa [hupper] at hvalue

theorem scanHex_append {unit : Nat} {digits : List Char} (hdigits : SpellsUnit unit digits)
    (rest : List Char) : scanHex (digits ++ rest) = .ok (unit, rest) := by
  obtain @⟨a, b, c, d, w, x, y, z, ha, hb, hc, hd⟩ := hdigits
  have hbytes : ¬ byteCount [w, x, y, z] < 4 := by
    have hw := w.utf8Size_pos
    have hx := x.utf8Size_pos
    have hy := y.utf8Size_pos
    have hz := z.utf8Size_pos
    simp only [byteCount, List.foldr_cons, List.foldr_nil]
    omega
  simp only [scanHex, List.cons_append, List.nil_append, List.take_succ_cons, List.take_zero,
    if_neg hbytes, hexValue?_of_isHexDigit ha, hexValue?_of_isHexDigit hb,
    hexValue?_of_isHexDigit hc, hexValue?_of_isHexDigit hd]

theorem scanNumbered_single {c : Char} {digits : List Char} (hdigits : SpellsUnit c.toNat digits)
    (rest : List Char) : scanNumbered (digits ++ rest) = .ok (c, rest) := by
  have hvalid : c.toNat < 0xd800 ∨ 0xdfff < c.toNat ∧ c.toNat < 0x110000 := c.valid
  rw [scanNumbered, scanHex_append hdigits, ok_bind]
  have hlow : (decide (0xdc00 ≤ c.toNat) && decide (c.toNat ≤ 0xdfff)) = false := by
    simp only [Bool.and_eq_false_iff, decide_eq_false_iff_not]
    omega
  have hhigh : (decide (c.toNat < 0xd800) || decide (0xdbff < c.toNat)) = true := by
    simp only [Bool.or_eq_true, decide_eq_true_eq]
    omega
  simp only [hlow, hhigh, Bool.false_eq_true, if_false, if_true, Char.ofNat_toNat]

theorem scanNumbered_pair {c : Char} {high low : Nat} {first second : List Char}
    (hhigh : 0xd800 ≤ high ∧ high ≤ 0xdbff) (hlow : 0xdc00 ≤ low ∧ low ≤ 0xdfff)
    (hc : c.toNat = 0x10000 + (high - 0xd800) * 0x400 + (low - 0xdc00))
    (hfirst : SpellsUnit high first) (hsecond : SpellsUnit low second) (rest : List Char) :
    scanNumbered (first ++ '\\' :: 'u' :: (second ++ rest)) = .ok (c, rest) := by
  rw [scanNumbered, scanHex_append hfirst, ok_bind]
  have hfirstLow : (decide (0xdc00 ≤ high) && decide (high ≤ 0xdfff)) = false := by
    simp only [Bool.and_eq_false_iff, decide_eq_false_iff_not]
    omega
  have hfirstHigh : (decide (high < 0xd800) || decide (0xdbff < high)) = false := by
    simp only [Bool.or_eq_false_iff, decide_eq_false_iff_not]
    omega
  have hsecondLow : (decide (0xdc00 ≤ low) && decide (low ≤ 0xdfff)) = true := by
    simp only [Bool.and_eq_true, decide_eq_true_eq]
    exact hlow
  simp only [hfirstLow, hfirstHigh, hsecondLow, Bool.false_eq_true, if_false, if_true,
    scanPairMark, ok_bind, scanHex_append hsecond, ← hc, Char.ofNat_toNat]

theorem simpleEscape?_of_mem {letter c : Char} (hletter : (letter, c) ∈ shortEscapes) :
    simpleEscape? letter = some c := by
  have hall : shortEscapes.all (fun pair => simpleEscape? pair.1 == some pair.2) = true := by decide
  exact beq_iff_eq.mp (List.all_eq_true.mp hall _ hletter)

/-- A character is read back from any of its spellings. -/
theorem scanTextFrom_spelling {c : Char} {piece : List Char} (hpiece : SpellsChar c piece)
    (fuel : Nat) (rest before : List Char) :
    scanTextFrom (fuel + 1) (piece ++ rest) before = scanTextFrom fuel rest (c :: before) := by
  have hescape : ∀ back, scanEscape (back ++ rest) = .ok (c, rest) →
      scanTextFrom (fuel + 1) ('\\' :: back ++ rest) before =
        scanTextFrom fuel rest (c :: before) := by
    intro back hback
    simp [scanTextFrom, hback]
  cases hpiece with
  | plain hquote hbackslash hcontrol =>
      simp [scanTextFrom, hquote, hbackslash, Nat.not_lt.mpr hcontrol]
  | short hletter =>
      refine hescape _ ?_
      simp [scanEscape, simpleEscape?_of_mem hletter]
  | numbered hdigits =>
      refine hescape _ ?_
      have hletter : simpleEscape? 'u' = none := by decide
      simp [scanEscape, hletter, scanNumbered_single hdigits]
  | paired hhigh hlow hc hfirst hsecond =>
      refine hescape _ ?_
      have hletter : simpleEscape? 'u' = none := by decide
      simp [scanEscape, hletter, scanNumbered_pair hhigh hlow hc hfirst hsecond]

theorem scanTextFrom_append {value body : List Char} (hbody : SpellsText value body) {fuel : Nat}
    (hfuel : value.length < fuel) (rest before : List Char) :
    scanTextFrom fuel (body ++ '"' :: rest) before = .ok (before.reverse ++ value, rest) := by
  induction hbody generalizing fuel before with
  | nil =>
      cases fuel with
      | zero => cases hfuel
      | succ fuel => simp [scanTextFrom]
  | cons hpiece _ ih =>
      cases fuel with
      | zero => cases hfuel
      | succ fuel =>
          rw [List.append_assoc, scanTextFrom_spelling hpiece,
            ih (Nat.lt_of_succ_lt_succ hfuel)]
          simp

/-- A text is read back from any of its spellings. -/
theorem scanText_append {value body : List Char} (hbody : SpellsText value body)
    (rest : List Char) : scanText (body ++ '"' :: rest) = .ok (value, rest) := by
  refine scanTextFrom_append hbody ?_ rest []
  have hlength := hbody.length_le
  simp only [List.length_append, List.length_cons]
  omega

/-! ## Next tokens -/

section Next

variable {tokens : List Token} {text : List Char}

theorem Laid.exists_scanText {value : List Char} (hlaid : Laid (.text value :: tokens) text) :
    ∃ unread rest, dropSpace text = '"' :: unread ∧ scanText unread = .ok (value, rest) ∧
      Laid tokens rest := by
  obtain ⟨piece, rest, htext, ⟨-⟩ | ⟨hbody⟩, hrest⟩ := hlaid.exists_dropSpace
  rename_i body
  refine ⟨body ++ '"' :: rest, rest, ?_, scanText_append hbody rest, hrest⟩
  rw [htext]
  simp

theorem Laid.scanColon_eq (hlaid : Laid (.mark ':' :: tokens) text) :
    ∃ rest, scanColon text = .ok rest ∧ Laid tokens rest := by
  obtain ⟨rest, htext, hrest⟩ := hlaid.dropSpace_mark
  refine ⟨rest, ?_, hrest⟩
  simp [scanColon, htext]

/-- A value starts with a quote or an opening bracket. -/
theorem Written.dropSpace_eq_cons {value : Value} (hwritten : Written value tokens)
    {more : List Token} (hlaid : Laid (tokens ++ more) text) :
    ∃ c rest, dropSpace text = c :: rest ∧ (c = '"' ∨ c = '[' ∨ c = '\x7b') ∧
      Laid (tokens ++ more) (c :: rest) := by
  cases hwritten with
  | text value =>
      have hdropped := hlaid.dropSpace_laid
      obtain ⟨unread, -, htext, -⟩ := hlaid.exists_scanText
      exact ⟨_, _, htext, .inl rfl, htext ▸ hdropped⟩
  | list hparts =>
      have hdropped := hlaid.dropSpace_laid
      obtain ⟨rest, htext, -⟩ := hlaid.dropSpace_mark
      exact ⟨_, _, htext, .inr (.inl rfl), htext ▸ hdropped⟩
  | object horder hparts =>
      have hdropped := hlaid.dropSpace_laid
      obtain ⟨rest, htext, -⟩ := hlaid.dropSpace_mark
      exact ⟨_, _, htext, .inr (.inr rfl), htext ▸ hdropped⟩

end Next

/-! ## Items and members -/

section Parts

variable {isFirst : Bool} {part more : List Token} {parts : List (List Token)} {text : List Char}

theorem nextItem_ended (isFirst : Bool) (hlaid : Laid (parted ']' isFirst [] ++ more) text) :
    ∃ rest, nextItem isFirst text = .ok (.ended rest) ∧ Laid more rest := by
  rw [parted] at hlaid
  obtain ⟨rest, htext, hrest⟩ := hlaid.dropSpace_mark
  refine ⟨rest, ?_, hrest⟩
  simp [nextItem, htext]

/-- Another item is found behind the comma, if one must be there. -/
theorem nextItem_another {item : Value} (hpart : Written item part)
    (hlaid : Laid (parted ']' isFirst (part :: parts) ++ more) text) :
    ∃ next, nextItem isFirst text = .ok (.another next) ∧
      Laid (part ++ (parted ']' false parts ++ more)) next := by
  cases isFirst with
  | true =>
      rw [parted, List.append_assoc] at hlaid
      obtain ⟨c, rest, htext, hc, hnext⟩ := hpart.dropSpace_eq_cons hlaid
      refine ⟨c :: rest, ?_, hnext⟩
      rcases hc with rfl | rfl | rfl <;> simp [nextItem, htext]
  | false =>
      rw [parted, List.cons_append, List.append_assoc] at hlaid
      obtain ⟨behind, htext, hbehind⟩ := hlaid.dropSpace_mark
      obtain ⟨c, rest, hitem, hc, hnext⟩ := hpart.dropSpace_eq_cons hbehind
      refine ⟨c :: rest, ?_, hnext⟩
      rcases hc with rfl | rfl | rfl <;> simp [nextItem, htext, hitem]

theorem nextMember_ended (isFirst : Bool) (hlaid : Laid (parted '\x7d' isFirst [] ++ more) text) :
    ∃ rest, nextMember isFirst text = .ok (.ended rest) ∧ Laid more rest := by
  rw [parted] at hlaid
  obtain ⟨rest, htext, hrest⟩ := hlaid.dropSpace_mark
  refine ⟨rest, ?_, hrest⟩
  simp [nextMember, htext]

/-- Another member is found behind the comma, if one must be there, and its name is read. -/
theorem nextMember_another {name : List Char}
    (hlaid : Laid (parted '\x7d' isFirst ((.text name :: part) :: parts) ++ more) text) :
    ∃ unread rest, nextMember isFirst text = .ok (.another unread) ∧
      scanText unread = .ok (name, rest) ∧
      Laid (part ++ (parted '\x7d' false parts ++ more)) rest := by
  cases isFirst with
  | true =>
      rw [parted, List.append_assoc, List.cons_append] at hlaid
      obtain ⟨unread, rest, htext, hname, hrest⟩ := hlaid.exists_scanText
      refine ⟨unread, rest, ?_, hname, hrest⟩
      simp [nextMember, htext]
  | false =>
      rw [parted, List.cons_append, List.append_assoc, List.cons_append] at hlaid
      obtain ⟨behind, htext, hbehind⟩ := hlaid.dropSpace_mark
      obtain ⟨unread, rest, hquote, hname, hrest⟩ := hbehind.exists_scanText
      refine ⟨unread, rest, ?_, hname, hrest⟩
      simp [nextMember, htext, hquote]

theorem length_le_parted (closing : Char) (isFirst : Bool) (parts : List (List Token)) :
    parts.length ≤ (parted closing isFirst parts).length := by
  have hrest : ∀ parts : List (List Token), parts.length < (parted closing false parts).length := by
    intro parts
    induction parts with
    | nil => simp [parted]
    | cons part parts ih =>
        simp only [parted, List.length_cons, List.length_append]
        omega
  cases isFirst with
  | false => exact (hrest parts).le
  | true =>
      cases parts with
      | nil => exact Nat.zero_le _
      | cons part parts =>
          have hlength := hrest parts
          simp only [parted, List.length_cons, List.length_append]
          omega

/-- A layout is long enough to count its parts along it. -/
theorem Laid.length_parts_le {closing : Char}
    (hlaid : Laid (parted closing isFirst parts ++ more) text) : parts.length ≤ text.length := by
  have hlength := hlaid.length_le
  rw [List.length_append] at hlength
  exact (length_le_parted closing isFirst parts).trans (Nat.le_of_add_right_le hlength)

end Parts

/-! ## Decoders -/

variable {α β : Type}

/-- The decoder reads a value as a result, however the value is written and whatever follows, as
long as so many brackets may be opened. -/
def Decoder.Reads (decoder : Decoder α) (need : Nat) (value : Value) (result : α) : Prop :=
  ∀ ⦃tokens⦄, Written value tokens → ∀ ⦃depth⦄, need ≤ depth → ∀ ⦃more text⦄,
    Laid (tokens ++ more) text →
      ∃ rest, decoder depth text = .ok (result, rest) ∧ Laid more rest

namespace Decoder.Reads

variable {decoder : Decoder α} {need : Nat} {value : Value} {result : α}

theorem mono (hreads : decoder.Reads need value result) {other : Nat} (hother : need ≤ other) :
    decoder.Reads other value result :=
  fun _ hwritten _ hdepth => hreads hwritten (hother.trans hdepth)

theorem map (hreads : decoder.Reads need value result) (f : α → β) :
    Decoder.Reads (fun depth text => (decoder depth text).map fun (found, rest) => (f found, rest))
      need value (f result) := by
  intro tokens hwritten depth hdepth more text hlaid
  obtain ⟨rest, heq, hrest⟩ := hreads hwritten hdepth hlaid
  refine ⟨rest, ?_, hrest⟩
  simp only [heq, Except.map]

/-- Nothing that is written is taken for null. -/
theorem option (hreads : decoder.Reads need value result) :
    (optionDecoder decoder).Reads need value (some result) := by
  intro tokens hwritten depth hdepth more text hlaid
  obtain ⟨c, unread, htext, hc, hdropped⟩ := hwritten.dropSpace_eq_cons hlaid
  obtain ⟨rest, heq, hrest⟩ := hreads hwritten hdepth hdropped
  refine ⟨rest, ?_, hrest⟩
  rcases hc with rfl | rfl | rfl <;> simp [optionDecoder, htext, heq, Except.map]

theorem default [Inhabited α] (hreads : decoder.Reads need value result) :
    (defaultDecoder decoder).Reads need value result :=
  hreads.option.map fun found => found.getD Inhabited.default

/-- A whole document with the value in it is read. -/
theorem document (hreads : decoder.Reads need value result) (hneed : need ≤ depthLimit)
    {tokens : List Token} (hwritten : Written value tokens) {text : List Char}
    (hlaid : Laid tokens text) : decoder.document text = .ok result := by
  rw [← List.append_nil tokens] at hlaid
  obtain ⟨rest, heq, hrest⟩ := hreads hwritten hneed hlaid
  rw [Decoder.document, heq, ok_bind]
  simp only [hrest.dropSpace_eq_nil]

end Decoder.Reads

theorem stringDecoder_reads (value : String) : stringDecoder.Reads 0 (.text value) value := by
  intro tokens hwritten depth hdepth more text hlaid
  cases hwritten
  obtain ⟨unread, rest, htext, hscan, hrest⟩ := hlaid.exists_scanText
  refine ⟨rest, ?_, hrest⟩
  simp [stringDecoder, textDecoder, atToken, htext, ok_bind, hscan]

theorem enter_eq {depth : Nat} (hdepth : 2 ≤ depth) (text : List Char) :
    enter depth text = .ok (depth - 1) := by
  rw [enter, if_neg (by omega)]

/-! ## Lists -/

theorem WrittenItems.length_eq {items : List Value} {parts : List (List Token)} :
    WrittenItems items parts → parts.length = items.length
  | .nil => rfl
  | .cons _ hparts => congrArg Nat.succ hparts.length_eq

section Lists

variable {decoder : Decoder α} {need : Nat} {items : List Value} {results : List α}

theorem listFrom_reads (hitems : List.Forall₂ (decoder.Reads need) items results)
    {parts : List (List Token)} (hparts : WrittenItems items parts) {depth : Nat}
    (hdepth : need ≤ depth) {fuel : Nat} (hfuel : items.length < fuel) {isFirst : Bool}
    {more : List Token} {text : List Char} (hlaid : Laid (parted ']' isFirst parts ++ more) text)
    (before : List α) :
    ∃ rest, listFrom decoder depth fuel isFirst text before =
      .ok (before.reverse ++ results, rest) ∧ Laid more rest := by
  induction hitems generalizing parts fuel isFirst text before with
  | nil =>
      cases hparts
      obtain ⟨rest, hended, hrest⟩ := nextItem_ended isFirst hlaid
      refine ⟨rest, ?_, hrest⟩
      cases fuel with
      | zero => cases hfuel
      | succ fuel => simp [listFrom, hended]
  | cons hitem hitems ih =>
      rename_i item result items results
      cases hparts with
      | cons hpart hparts =>
          cases fuel with
          | zero => cases hfuel
          | succ fuel =>
              obtain ⟨next, hanother, hnext⟩ := nextItem_another hpart hlaid
              obtain ⟨behind, hread, hbehind⟩ := hitem hpart hdepth hnext
              obtain ⟨rest, hfound, hrest⟩ :=
                ih hparts (Nat.lt_of_succ_lt_succ hfuel) hbehind (result :: before)
              refine ⟨rest, ?_, hrest⟩
              simp only [listFrom, hanother, hread, placedIn, hfound]
              simp

/-- A list is read if its items are. -/
theorem listDecoder_reads (hneed : 1 ≤ need)
    (hitems : List.Forall₂ (decoder.Reads need) items results) :
    (listDecoder decoder).Reads (need + 1) (.list items) results := by
  intro tokens hwritten depth hdepth more text hlaid
  cases hwritten with
  | list hparts =>
      rename_i parts
      rw [List.cons_append] at hlaid
      obtain ⟨unread, htext, hunread⟩ := hlaid.dropSpace_mark
      have hfuel : items.length < unread.length + 1 := by
        rw [← hparts.length_eq]
        exact Nat.lt_succ_of_le hunread.length_parts_le
      have hdepth' : need ≤ depth - 1 := by omega
      obtain ⟨rest, heq, hrest⟩ := listFrom_reads hitems hparts hdepth' hfuel hunread []
      refine ⟨rest, ?_, hrest⟩
      simp [listDecoder, atToken, htext, ok_bind, enter_eq (show 2 ≤ depth by omega), heq]

end Lists

/-! ## Records -/

theorem WrittenMembers.length_eq {members : List (String × Value)} {parts : List (List Token)} :
    WrittenMembers members parts → parts.length = members.length
  | .nil => rfl
  | .cons _ hparts => congrArg Nat.succ hparts.length_eq

section Records

variable {σ : Type} {fields : List (Field σ)} {need : Nat} {agrees : Nat → σ → Prop}

/-- The member is for the field at an index. Reading it makes any record agree with the wanted one in
that field, and spoils no other field. -/
def Settles (fields : List (Field σ)) (need : Nat) (agrees : Nat → σ → Prop)
    (member : String × Value) (index : Nat) : Prop :=
  fieldIndex? fields member.1.toList = some index ∧
    ∃ field, fields[index]? = some field ∧ ∀ record, ∃ next,
      (field.read record).Reads need member.2 next ∧ agrees index next ∧
        ∀ other, agrees other record → agrees other next

theorem settles_of_reads {member : String × Value} {index : Nat} {field : Field σ} {put : σ → σ}
    (hindex : fieldIndex? fields member.1.toList = some index)
    (hfield : fields[index]? = some field)
    (hreads : ∀ record, (field.read record).Reads need member.2 (put record))
    (hput : ∀ record other, other = index ∨ agrees other record → agrees other (put record)) :
    Settles fields need agrees member index :=
  ⟨hindex, field, hfield, fun record => ⟨put record, hreads record,
    hput record index (.inl rfl), fun other hagrees => hput record other (.inr hagrees)⟩⟩

theorem Field.required_reads {decoder : Decoder α} {value : Value} {result : α}
    (hreads : decoder.Reads need value result) (name : String) (aliases : List String)
    (put : σ → α → σ) (record : σ) :
    ((Field.required name aliases decoder put).read record).Reads need value (put record result) :=
  hreads.map (put record)

theorem Field.optional_reads {decoder : Decoder α} {value : Value} {result : α}
    (hreads : decoder.Reads need value result) (name : String) (aliases : List String)
    (put : σ → α → σ) (record : σ) :
    ((Field.optional name aliases decoder put).read record).Reads need value (put record result) :=
  hreads.map (put record)

/-- A record in which every field was seen is left as it is. -/
theorem fillAbsent_of_seen {seen : List Nat} {start : Nat}
    (hseen : ∀ index < fields.length, start + index ∈ seen) (record : σ) :
    fillAbsent seen start fields record = .ok record := by
  induction fields generalizing start with
  | nil => rfl
  | cons field fields ih =>
      have hfirst : start ∈ seen := hseen 0 (Nat.succ_pos _)
      rw [fillAbsent, if_pos (by simpa using hfirst)]
      refine ih fun index hindex => ?_
      have hnext := hseen (index + 1) (Nat.succ_lt_succ hindex)
      rwa [Nat.add_assoc, Nat.add_comm 1 index]

/-- Members that settle the fields not seen yet, each one once, complete the record. -/
theorem membersFrom_reads {members : List (String × Value)} {indices : List Nat}
    (hsettles : List.Forall₂ (Settles fields need agrees) members indices)
    {parts : List (List Token)} (hparts : WrittenMembers members parts)
    (hnodup : indices.Nodup) {seen : List Nat} (hnew : ∀ index ∈ indices, index ∉ seen)
    (hall : ∀ index < fields.length, index ∈ seen ∨ index ∈ indices) {record : σ}
    (hrecord : ∀ index ∈ seen, agrees index record) {depth : Nat} (hdepth : need ≤ depth)
    {fuel : Nat} (hfuel : members.length < fuel) {isFirst : Bool} {more : List Token}
    {text : List Char} (hlaid : Laid (parted '\x7d' isFirst parts ++ more) text) :
    ∃ next rest, membersFrom fields depth fuel isFirst text seen record = .ok (next, rest) ∧
      (∀ index < fields.length, agrees index next) ∧ Laid more rest := by
  -- Over the members in the order they come in: the record agrees with the wanted one in every field
  -- that was seen, and the fields not seen yet are those of the members still to come.
  induction hsettles generalizing parts seen record fuel isFirst text with
  | nil =>
      cases hparts
      obtain ⟨rest, hended, hrest⟩ := nextMember_ended isFirst hlaid
      have hseen : ∀ index < fields.length, index ∈ seen := fun index hindex =>
        (hall index hindex).resolve_right List.not_mem_nil
      refine ⟨record, rest, ?_, fun index hindex => hrecord index (hseen index hindex), hrest⟩
      cases fuel with
      | zero => cases hfuel
      | succ fuel =>
          have hfilled : fillAbsent seen 0 fields record = .ok record :=
            fillAbsent_of_seen (fun index hindex => by rw [Nat.zero_add]; exact hseen index hindex) _
          simp only [membersFrom, hended, hfilled]
  | cons hsettled hsettles ih =>
      rename_i member index members indices
      cases hparts with
      | cons hpart hparts =>
          cases fuel with
          | zero => cases hfuel
          | succ fuel =>
              obtain ⟨hindex, field, hfield, hread⟩ := hsettled
              obtain ⟨next, hreads, hagrees, hkept⟩ := hread record
              obtain ⟨unread, colon, hanother, hname, hcolon⟩ := nextMember_another hlaid
              obtain ⟨start, hstart, hvalue⟩ := hcolon.scanColon_eq
              obtain ⟨behind, hfound, hbehind⟩ := hreads hpart hdepth hvalue
              obtain ⟨hfirst, hnodup⟩ := List.nodup_cons.mp hnodup
              obtain ⟨hfresh, hnew⟩ := List.forall_mem_cons.mp hnew
              have hnewer : ∀ other ∈ indices, other ∉ index :: seen := by
                intro other hother
                rw [List.mem_cons, not_or]
                exact ⟨fun heq => hfirst (heq ▸ hother), hnew other hother⟩
              have hrest : ∀ other < fields.length, other ∈ index :: seen ∨ other ∈ indices := by
                intro other hother
                rcases hall other hother with hseen | hlater
                · exact .inl (List.mem_cons_of_mem _ hseen)
                · rcases List.mem_cons.mp hlater with rfl | hlater
                  · exact .inl List.mem_cons_self
                  · exact .inr hlater
              have hnext : ∀ other ∈ index :: seen, agrees other next := by
                intro other hother
                rcases List.mem_cons.mp hother with rfl | hseen
                · exact hagrees
                · exact hkept other (hrecord other hseen)
              obtain ⟨last, rest, hmembers, hlast⟩ :=
                ih hparts hnodup hnewer hrest hnext (Nat.lt_of_succ_lt_succ hfuel) hbehind
              refine ⟨last, rest, ?_, hlast⟩
              have hcontains : seen.contains index = false := by simpa using hfresh
              simp only [membersFrom, hanother, hname, hindex, Option.bind_some, hfield,
                Option.map_some, hcontains, Bool.false_eq_true, if_false, hstart, hfound, placedIn,
                hmembers]

/-- A record is read from an object with a member for each field, in whatever order they come. -/
theorem RecordShape.decoder_reads (shape : RecordShape σ) (agrees : Nat → σ → Prop) (blank : σ)
    {goal : σ}
    (hgoal : ∀ record, (∀ index < shape.fields.length, agrees index record) → record = goal)
    (hneed : 1 ≤ need) {members : List (String × Value)}
    (hsettles : List.Forall₂ (Settles shape.fields need agrees) members
      (List.range shape.fields.length)) :
    (shape.decoder blank).Reads (need + 1) (.object members) goal := by
  intro tokens hwritten depth hdepth more text hlaid
  cases hwritten with
  | object horder hparts =>
      rename_i order parts
      rw [List.cons_append] at hlaid
      obtain ⟨unread, htext, hunread⟩ := hlaid.dropSpace_mark
      obtain ⟨indices, hsettles, hindices⟩ := List.perm_comp_forall₂ horder hsettles
      have hfuel : order.length < unread.length + 1 := by
        rw [← hparts.length_eq]
        exact Nat.lt_succ_of_le hunread.length_parts_le
      have hnew : ∀ index ∈ indices, index ∉ [] := fun _ _ => List.not_mem_nil
      have hall : ∀ index < shape.fields.length, index ∈ [] ∨ index ∈ indices :=
        fun index hindex => .inr (hindices.mem_iff.mpr (List.mem_range.mpr hindex))
      have hblank : ∀ index ∈ [], agrees index blank := fun _ hseen => absurd hseen List.not_mem_nil
      have hdepth' : need ≤ depth - 1 := by omega
      obtain ⟨record, rest, hread, hagrees, hrest⟩ := membersFrom_reads hsettles hparts
        (hindices.nodup_iff.mpr List.nodup_range) hnew hall hblank hdepth' hfuel hunread
      obtain rfl := hgoal record hagrees
      refine ⟨rest, ?_, hrest⟩
      simp [RecordShape.decoder, atToken, htext, ok_bind, enter_eq (show 2 ≤ depth by omega), hread]

end Records

/-! ## Lists of texts as any value -/

theorem readItemsFrom_reads {texts : List String} {parts : List (List Token)}
    (hparts : WrittenItems (texts.map .text) parts) (depth : Nat) {fuel : Nat}
    (hfuel : texts.length < fuel) {isFirst : Bool} {more : List Token} {text : List Char}
    (hlaid : Laid (parted ']' isFirst parts ++ more) text) (before : List Value) :
    ∃ rest, readItemsFrom fuel depth isFirst text before =
      .ok (.list (before.reverse ++ texts.map .text), rest) ∧ Laid more rest := by
  induction texts generalizing parts fuel isFirst text before with
  | nil =>
      cases hparts
      obtain ⟨rest, hended, hrest⟩ := nextItem_ended isFirst hlaid
      refine ⟨rest, ?_, hrest⟩
      cases fuel with
      | zero => cases hfuel
      | succ fuel => simp [readItemsFrom, hended]
  | cons value texts ih =>
      cases hparts with
      | cons hpart hparts =>
          obtain ⟨next, hanother, hnext⟩ := nextItem_another hpart hlaid
          cases hpart
          obtain ⟨unread, behind, htext, hscan, hbehind⟩ := hnext.exists_scanText
          -- There is fuel for the text, since it is left over for the items behind.
          rw [List.length_cons] at hfuel
          obtain ⟨fuel, rfl⟩ : ∃ less, fuel = less + 2 := ⟨fuel - 2, by omega⟩
          have hless : texts.length < fuel + 1 := by omega
          obtain ⟨rest, hfound, hrest⟩ := ih hparts hless hbehind (.text value :: before)
          refine ⟨rest, ?_, hrest⟩
          have hread : readValueFrom (fuel + 1) depth next = .ok (.text value, behind) := by
            simp [readValueFrom, htext, hscan, Except.map]
          rw [readItemsFrom]
          simp only [hanother, hread, hfound]
          simp

theorem anyDecoder_reads (texts : List String) :
    anyDecoder.Reads 2 (.ofTexts texts) (.ofTexts texts) := by
  intro tokens hwritten depth hdepth more text hlaid
  cases hwritten with
  | list hparts =>
      rename_i parts
      rw [List.cons_append] at hlaid
      obtain ⟨unread, htext, hunread⟩ := hlaid.dropSpace_mark
      have hfuel : texts.length < 2 * text.length + 1 := by
        have hparted := length_le_parted ']' true parts
        have hlength := hlaid.length_le
        rw [List.length_cons, List.length_append] at hlength
        have hitems := hparts.length_eq
        rw [List.length_map] at hitems
        omega
      obtain ⟨rest, hread, hrest⟩ := readItemsFrom_reads hparts (depth - 1) hfuel hunread []
      refine ⟨rest, ?_, hrest⟩
      simp [anyDecoder, readValue, readValueFrom, htext, enter_eq hdepth, hread, Value.ofTexts]

end QueryWarden.Json
