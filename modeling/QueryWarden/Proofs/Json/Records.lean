import QueryWarden.Proofs.Json.Skipping

/-!
# Records as they may be written

A record is written as an object, whose members come in any order, among them others that it does
not know, or as a list of the values of its fields. Some fields may be left out. Item by item and
member by member, the readers complete the record.
-/

namespace QueryWarden.Json

variable {α β σ : Type}

/-! ## Decoders -/

/-- The decoder reads the text as a result, whatever white space stands before it and whatever
follows, as long as so many brackets may be opened. -/
structure Decoder.Takes (decoder : Decoder α) (need : Nat) (text : List Char) (result : α) :
    Prop where
  starts : StartsValue text
  read : ∀ ⦃depth⦄, need ≤ depth → ∀ ⦃gap rest⦄, IsGap gap → Follows rest →
    decoder depth (gap ++ (text ++ rest)) = .ok (result, rest)

namespace Decoder.Takes

variable {decoder : Decoder α} {need : Nat} {text : List Char} {result : α}

theorem map (htakes : decoder.Takes need text result) (f : α → β) :
    Decoder.Takes (fun depth text => (decoder depth text).map fun (found, rest) => (f found, rest))
      need text (f result) := by
  refine ⟨htakes.starts, fun depth hdepth gap rest hgap hrest => ?_⟩
  simp only [htakes.read hdepth hgap hrest, Except.map]

/-- A whole document is read. -/
theorem document (htakes : decoder.Takes need text result) (hneed : need ≤ depthLimit)
    {before after : List Char} (hbefore : IsGap before) (hafter : IsGap after) :
    decoder.document (before ++ (text ++ after)) = .ok result := by
  have hend : Follows after := by
    have hnil : Follows [] := nofun
    rw [← List.append_nil after]
    exact hafter.follows_append hnil
  have hdrop : dropSpace after = [] :=
    List.dropWhile_eq_nil_iff.mpr fun c hc => isSpace_iff.mpr (hafter c hc)
  rw [Decoder.document, htakes.read hneed hbefore hend, ok_bind]
  simp only [hdrop]

end Decoder.Takes

theorem atToken_append {gap : List Char} (hgap : IsGap gap) {c : Char} (hc : c ∉ spaces)
    (text : List Char) : atToken (gap ++ c :: text) = .ok (c :: text) := by
  rw [atToken, dropSpace_append hgap hc]

/-! ## Scalars -/

/-- How a string may be written. -/
inductive StringText : String → List Char → Prop
  | mk {value : String} {body : List Char} (hbody : SpellsText value.toList body) :
      StringText value ('"' :: (body ++ ['"']))

/-- How a truth value is written. -/
inductive BoolText : Bool → List Char → Prop
  | yes : BoolText true "true".toList
  | no : BoolText false "false".toList

theorem stringDecoder_takes {need : Nat} {value : String} {text : List Char}
    (htext : StringText value text) : stringDecoder.Takes need text value := by
  obtain ⟨hbody⟩ := htext
  refine ⟨startsValue_cons (by decide) (by decide) (by decide) _, ?_⟩
  intro depth hdepth gap rest hgap hrest
  have htoken := atToken_append hgap (show '"' ∉ spaces by decide)
  simp [stringDecoder, textDecoder, htoken, ok_bind, scanText_append hbody]

theorem boolDecoder_takes {need : Nat} {value : Bool} {text : List Char}
    (htext : BoolText value text) : boolDecoder.Takes need text value := by
  cases htext with
  | yes =>
      refine ⟨startsValue_cons (by decide) (by decide) (by decide) _, ?_⟩
      intro depth hdepth gap rest hgap hrest
      have htoken := atToken_append hgap (show 't' ∉ spaces by decide) ("rue".toList ++ rest)
      have hword := scanWord_append "rue".toList rest
      change boolDecoder depth (gap ++ 't' :: ("rue".toList ++ rest)) = _
      simp only [boolDecoder, htoken, ok_bind, hword]
  | no =>
      refine ⟨startsValue_cons (by decide) (by decide) (by decide) _, ?_⟩
      intro depth hdepth gap rest hgap hrest
      have htoken := atToken_append hgap (show 'f' ∉ spaces by decide) ("alse".toList ++ rest)
      have hword := scanWord_append "alse".toList rest
      change boolDecoder depth (gap ++ 'f' :: ("alse".toList ++ rest)) = _
      simp only [boolDecoder, htoken, ok_bind, hword]

/-! ## Lists -/

section Parts

variable {parts : List (List Char)} {text : List Char} {isFirst : Bool}

theorem nextItem_closed (hjoined : Joined ']' isFirst [] text) (more : List Char) :
    nextItem isFirst (text ++ more) = .ok (.ended more) := by
  cases hjoined with
  | closed hgap =>
      have hdrop := dropSpace_append hgap (show ']' ∉ spaces by decide) more
      simp [nextItem, hdrop]

theorem closeList_closed (hjoined : Joined ']' isFirst [] text) (more : List Char) :
    closeList (text ++ more) = .ok more := by
  cases hjoined with
  | closed hgap =>
      have hdrop := dropSpace_append hgap (show ']' ∉ spaces by decide) more
      simp [closeList, hdrop]

/-- Another item is found behind the comma, if one must be there. -/
theorem nextItem_part {part : List Char} (hpart : StartsValue part)
    (hjoined : Joined ']' isFirst (part :: parts) text) :
    ∃ rest, Joined ']' false parts rest ∧ ∀ more,
      nextItem isFirst (text ++ more) = .ok (.another (part ++ (rest ++ more))) := by
  cases hjoined with
  | first hgap hrest =>
      rename_i rest gap
      refine ⟨rest, hrest, fun more => ?_⟩
      have hdrop := dropSpace_gap_append hgap hpart (rest ++ more)
      obtain ⟨c, back, rfl, -, hend, -⟩ := hpart
      simp only [List.append_assoc, List.cons_append] at hdrop ⊢
      simp [nextItem, hdrop, hend]
  | next hbefore hafter hrest =>
      rename_i rest before after
      refine ⟨rest, hrest, fun more => ?_⟩
      have hcomma := dropSpace_append hbefore (show ',' ∉ spaces by decide)
        (after ++ (part ++ (rest ++ more)))
      have hdrop := dropSpace_gap_append hafter hpart (rest ++ more)
      obtain ⟨c, back, rfl, -, hend, -⟩ := hpart
      simp only [List.append_assoc, List.cons_append] at hcomma hdrop ⊢
      simp [nextItem, hcomma, hdrop, hend]

theorem nextMember_closed (hjoined : Joined '\x7d' isFirst [] text) (more : List Char) :
    nextMember isFirst (text ++ more) = .ok (.ended more) := by
  cases hjoined with
  | closed hgap =>
      have hdrop := dropSpace_append hgap (show '\x7d' ∉ spaces by decide) more
      simp [nextMember, hdrop]

/-- Another member is found behind the comma, if one must be there, and its name and the colon are
read. -/
theorem nextMember_part {member : Member}
    (hjoined : Joined '\x7d' isFirst (member.text :: parts) text) :
    ∃ rest, Joined '\x7d' false parts rest ∧ ∀ more, ∃ unread colon,
      nextMember isFirst (text ++ more) = .ok (.another unread) ∧
      scanText unread = .ok (member.name, colon) ∧
      scanColon colon = .ok (member.after ++ (member.value ++ (rest ++ more))) := by
  have hname : ∀ more, ∃ unread colon,
      member.text ++ more = '"' :: unread ∧ scanText unread = .ok (member.name, colon) ∧
        scanColon colon = .ok (member.after ++ (member.value ++ more)) := by
    intro more
    have hdrop := dropSpace_append member.isGap_before (show ':' ∉ spaces by decide)
      (member.after ++ (member.value ++ more))
    refine ⟨_, member.before ++ ':' :: (member.after ++ (member.value ++ more)), ?_,
      scanText_append member.spells _, ?_⟩
    · simp only [Member.text, List.cons_append, List.append_assoc]
    · simp [scanColon, hdrop]
  have hquote : '"' ∉ spaces := by decide
  cases hjoined with
  | first hgap hrest =>
      rename_i rest gap
      refine ⟨rest, hrest, fun more => ?_⟩
      obtain ⟨unread, colon, htext, hread⟩ := hname (rest ++ more)
      have hdrop := dropSpace_append hgap hquote unread
      refine ⟨unread, colon, ?_, hread⟩
      simp [nextMember, htext, hdrop]
  | next hbefore hafter hrest =>
      rename_i rest before after
      refine ⟨rest, hrest, fun more => ?_⟩
      obtain ⟨unread, colon, htext, hread⟩ := hname (rest ++ more)
      have hcomma := dropSpace_append hbefore (show ',' ∉ spaces by decide)
        (after ++ '"' :: unread)
      have hdrop := dropSpace_append hafter hquote unread
      refine ⟨unread, colon, ?_, hread⟩
      simp [nextMember, htext, hcomma, hdrop]

end Parts

section Lists

variable {decoder : Decoder α} {need : Nat} {parts : List (List Char)} {results : List α}
  {text : List Char}

theorem listFrom_takes (hparts : List.Forall₂ (decoder.Takes need) parts results) {depth : Nat}
    (hdepth : need ≤ depth) {fuel : Nat} (hfuel : parts.length < fuel) {isFirst : Bool}
    (hjoined : Joined ']' isFirst parts text) (more : List Char) (before : List α) :
    listFrom decoder depth fuel isFirst (text ++ more) before =
      .ok (before.reverse ++ results, more) := by
  induction hparts generalizing fuel isFirst text before with
  | nil =>
      obtain ⟨fuel, rfl⟩ := Nat.exists_eq_succ_of_ne_zero (Nat.ne_of_gt hfuel)
      rw [listFrom, nextItem_closed hjoined]
      simp
  | cons hpart hparts ih =>
      obtain ⟨fuel, rfl⟩ := Nat.exists_eq_succ_of_ne_zero (Nat.ne_of_gt (Nat.zero_lt_of_lt hfuel))
      obtain ⟨rest, hrest, hnext⟩ := nextItem_part hpart.starts hjoined
      have hread := hpart.read hdepth IsGap.nil (hrest.follows (by decide) more)
      have hfound := ih (Nat.lt_of_succ_lt_succ hfuel) hrest
      rw [List.nil_append] at hread
      rw [listFrom, hnext]
      simp [hread, placedIn, hfound]

/-- A list is read if its items are. -/
theorem listDecoder_takes (hneed : 1 ≤ need)
    (hparts : List.Forall₂ (decoder.Takes need) parts results)
    (hjoined : Joined ']' true parts text) :
    (listDecoder decoder).Takes (need + 1) ('[' :: text) results := by
  refine ⟨startsValue_cons (by decide) (by decide) (by decide) _, ?_⟩
  intro depth hdepth gap rest hgap hrest
  have htoken := atToken_append hgap (show '[' ∉ spaces by decide) (text ++ rest)
  have hfuel : parts.length < (text ++ rest).length + 1 := by
    have hlength := hjoined.length_le.1
    rw [List.length_append]
    omega
  have hread := listFrom_takes hparts (show need ≤ depth - 1 by omega) hfuel hjoined rest []
  rw [List.cons_append]
  simp only [listDecoder, htoken, ok_bind, enter_eq (show 2 ≤ depth by omega), hread]
  simp

end Lists

/-! ## Objects -/

/-- Reading the text as the value of a field makes any record agree with the wanted one in the field
at an index, and spoils no other field. -/
def Field.Fills (field : Field σ) (need : Nat) (agrees : Nat → σ → Prop) (index : Nat)
    (text : List Char) : Prop :=
  ∀ record, ∃ next, Decoder.Takes (field.read record) need text next ∧ agrees index next ∧
    ∀ other, agrees other record → agrees other next

section Records

variable {fields : List (Field σ)} {need : Nat} {agrees : Nat → σ → Prop} {record : σ}
  {text : List Char}

theorem exists_field_of_fieldIndex? {name : List Char} {index : Nat}
    (hindex : fieldIndex? fields name = some index) :
    ∃ field, fields[index]? = some field ∧ field.goesBy name = true := by
  obtain ⟨hlength, hname, -⟩ := List.findIdx?_eq_some_iff_getElem.mp hindex
  exact ⟨fields[index], List.getElem?_eq_getElem hlength, hname⟩

/-- A record stays as it is if only fields are missing that may keep what it has. -/
theorem fillAbsent_of_optional {seen : List Nat} {start : Nat}
    (hfields : ∀ index field, fields[index]? = some field →
      start + index ∈ seen ∨ field.absent = some id) (record : σ) :
    fillAbsent seen start fields record = .ok record := by
  induction fields generalizing start with
  | nil => rfl
  | cons field fields ih =>
      have hrest : fillAbsent seen (start + 1) fields record = .ok record := by
        refine ih fun index other hother => ?_
        have hnext := hfields (index + 1) other hother
        rwa [Nat.add_assoc, Nat.add_comm 1 index]
      rw [fillAbsent]
      split
      next => exact hrest
      next hunseen =>
        have habsent : field.absent = some id :=
          (hfields 0 field rfl).resolve_left (by simpa using hunseen)
        simp [habsent, hrest]

/-- The members still to come complete the record: with the fields that were seen they settle each
field once, but for fields that may keep what the record has. -/
structure MembersComplete (fields : List (Field σ)) (need : Nat) (agrees : Nat → σ → Prop)
    (members : List Member) (seen : List Nat) (record : σ) : Prop where
  known : ∀ member ∈ members, ∀ index field, fieldIndex? fields member.name = some index →
    fields[index]? = some field → field.Fills need agrees index member.value
  unknown : ∀ member ∈ members, fieldIndex? fields member.name = none → IsValue member.value
  once : members.Pairwise fun member other => ∀ index,
    fieldIndex? fields member.name = some index → fieldIndex? fields other.name ≠ some index
  unseen : ∀ member ∈ members, ∀ index ∈ seen, fieldIndex? fields member.name ≠ some index
  all : ∀ index field, fields[index]? = some field →
    index ∈ seen ∨ (∃ member ∈ members, fieldIndex? fields member.name = some index) ∨
      field.absent = some id ∧ agrees index record
  settled : ∀ index ∈ seen, agrees index record

namespace MembersComplete

variable {member : Member} {members : List Member} {seen : List Nat}

theorem seen_or_absent (hcomplete : MembersComplete fields need agrees [] seen record) {index : Nat}
    {field : Field σ} (hfield : fields[index]? = some field) :
    index ∈ seen ∨ field.absent = some id ∧ agrees index record := by
  simpa using hcomplete.all index field hfield

theorem fillAbsent_eq (hcomplete : MembersComplete fields need agrees [] seen record) :
    fillAbsent seen 0 fields record = .ok record := by
  refine fillAbsent_of_optional (fun index field hfield => ?_) record
  rw [Nat.zero_add]
  exact (hcomplete.seen_or_absent hfield).imp_right And.left

theorem agrees_all (hcomplete : MembersComplete fields need agrees [] seen record) :
    ∀ index < fields.length, agrees index record := by
  intro index hindex
  rcases hcomplete.seen_or_absent (List.getElem?_eq_getElem hindex) with hmem | ⟨-, hagrees⟩
  · exact hcomplete.settled index hmem
  · exact hagrees

/-- A member that is not known leaves the record to the others. -/
theorem of_unknown
    (hcomplete : MembersComplete fields need agrees (member :: members) seen record)
    (hindex : fieldIndex? fields member.name = none) :
    MembersComplete fields need agrees members seen record where
  known := (List.forall_mem_cons.mp hcomplete.known).2
  unknown := (List.forall_mem_cons.mp hcomplete.unknown).2
  once := (List.pairwise_cons.mp hcomplete.once).2
  unseen := (List.forall_mem_cons.mp hcomplete.unseen).2
  all index field hfield := by simpa [hindex] using hcomplete.all index field hfield
  settled := hcomplete.settled

/-- A member that is known settles its field, which was not seen before. -/
theorem of_known
    (hcomplete : MembersComplete fields need agrees (member :: members) seen record) {index : Nat}
    (hindex : fieldIndex? fields member.name = some index) :
    ∃ field middle, fields[index]? = some field ∧ index ∉ seen ∧
      Decoder.Takes (field.read record) need member.value middle ∧
        MembersComplete fields need agrees members (index :: seen) middle := by
  obtain ⟨field, hfield, -⟩ := exists_field_of_fieldIndex? hindex
  obtain ⟨hfirst, hknown⟩ := List.forall_mem_cons.mp hcomplete.known
  obtain ⟨hdiffers, honce⟩ := List.pairwise_cons.mp hcomplete.once
  obtain ⟨hfresh, hunseen⟩ := List.forall_mem_cons.mp hcomplete.unseen
  obtain ⟨middle, htakes, hsettled, hkept⟩ := hfirst index field hindex hfield record
  refine ⟨field, middle, hfield, fun hmem => hfresh index hmem hindex, htakes, {
    known := hknown
    unknown := (List.forall_mem_cons.mp hcomplete.unknown).2
    once := honce
    unseen := fun other hother =>
      List.forall_mem_cons.mpr ⟨hdiffers other hother index hindex, hunseen other hother⟩
    all := fun place other hplace => ?_
    settled := List.forall_mem_cons.mpr
      ⟨hsettled, fun known hmem => hkept known (hcomplete.settled known hmem)⟩ }⟩
  rcases hcomplete.all place other hplace with hmem | ⟨found, hmem, hfound⟩ | ⟨habsent, hagrees⟩
  · exact .inl (List.mem_cons_of_mem _ hmem)
  · rcases List.mem_cons.mp hmem with rfl | hmem
    · obtain rfl := Option.some.inj (hindex.symm.trans hfound)
      exact .inl List.mem_cons_self
    · exact .inr (.inl ⟨found, hmem, hfound⟩)
  · exact .inr (.inr ⟨habsent, hkept place hagrees⟩)

end MembersComplete

/-- The members of an object are read into the record that they complete. -/
theorem membersFrom_takes {members : List Member} {isFirst : Bool}
    (hjoined : Joined '\x7d' isFirst (members.map Member.text) text) {seen : List Nat}
    (hcomplete : MembersComplete fields need agrees members seen record) {depth : Nat}
    (hdepth : need ≤ depth) {fuel : Nat} (hfuel : members.length < fuel) (more : List Char) :
    ∃ next, membersFrom fields depth fuel isFirst (text ++ more) seen record = .ok (next, more) ∧
      ∀ index < fields.length, agrees index next := by
  induction members generalizing seen record fuel isFirst text with
  | nil =>
      obtain ⟨fuel, rfl⟩ := Nat.exists_eq_succ_of_ne_zero (Nat.ne_of_gt hfuel)
      refine ⟨record, ?_, hcomplete.agrees_all⟩
      rw [membersFrom, nextMember_closed hjoined]
      simp [hcomplete.fillAbsent_eq]
  | cons member members ih =>
      obtain ⟨fuel, rfl⟩ := Nat.exists_eq_succ_of_ne_zero (Nat.ne_of_gt (Nat.zero_lt_of_lt hfuel))
      have hless : members.length < fuel := Nat.lt_of_succ_lt_succ hfuel
      rw [List.map_cons] at hjoined
      obtain ⟨rest, hrest, hnext⟩ := nextMember_part hjoined
      obtain ⟨unread, colon, hanother, hname, hcolon⟩ := hnext more
      have hfollows := hrest.follows (by decide) more
      cases hindex : fieldIndex? fields member.name with
      | none =>
          have hvalue := hcomplete.unknown member List.mem_cons_self hindex
          have hskip := hvalue.skipValue_append member.isGap_after hfollows
          obtain ⟨next, hread, hagrees⟩ := ih hrest (hcomplete.of_unknown hindex) hless
          refine ⟨next, ?_, hagrees⟩
          rw [membersFrom, hanother]
          simp [hname, hindex, hcolon, hskip, placedIn, hread]
      | some index =>
          obtain ⟨field, middle, hfield, hunseen, htakes, hlater⟩ := hcomplete.of_known hindex
          have hvalue := htakes.read hdepth member.isGap_after hfollows
          obtain ⟨next, hread, hagrees⟩ := ih hrest hlater hless
          refine ⟨next, ?_, hagrees⟩
          rw [membersFrom, hanother]
          simp [hname, hindex, hfield, hunseen, hcolon, hvalue, placedIn, hread]

/-! ## Lists of fields -/

/-- The items still to come complete the record: they settle the fields from the first one on, of
which `start` have gone before, and those that lack an item keep what the record has. -/
structure ItemsComplete (fields : List (Field σ)) (need : Nat) (agrees : Nat → σ → Prop)
    (start : Nat) (parts : List (List Char)) (record : σ) : Prop where
  given : ∀ (index : Nat) (part : List Char), parts[index]? = some part → ∃ field : Field σ,
    fields[index]? = some field ∧ field.Fills need agrees (start + index) part
  lacking : ∀ index field, parts.length ≤ index → fields[index]? = some field →
    field.isOptionalItem = true ∧ agrees (start + index) record
  settled : ∀ index < start, agrees index record

namespace ItemsComplete

variable {field : Field σ} {start : Nat} {part : List Char} {parts : List (List Char)}

theorem parts_eq_nil
    (hcomplete : ItemsComplete ([] : List (Field σ)) need agrees start parts record) :
    parts = [] := by
  cases parts with
  | nil => rfl
  | cons part parts =>
      obtain ⟨field, hfield, -⟩ := hcomplete.given 0 part List.getElem?_cons_zero
      cases hfield

theorem all_optional (hcomplete : ItemsComplete fields need agrees start [] record) :
    fields.all (fun field => field.isOptionalItem) = true := by
  rw [List.all_eq_true]
  intro field hfield
  obtain ⟨index, hindex⟩ := List.getElem?_of_mem hfield
  exact (hcomplete.lacking index field (Nat.zero_le _) hindex).1

theorem agrees_all (hcomplete : ItemsComplete fields need agrees start [] record) :
    ∀ index < start + fields.length, agrees index record := by
  intro index hindex
  by_cases hstart : index < start
  · exact hcomplete.settled index hstart
  · obtain ⟨less, rfl⟩ := Nat.exists_eq_add_of_le (Nat.le_of_not_lt hstart)
    have hless : less < fields.length := by omega
    exact (hcomplete.lacking less _ (Nat.zero_le _) (List.getElem?_eq_getElem hless)).2

/-- An item settles the first field. -/
theorem of_part
    (hcomplete : ItemsComplete (field :: fields) need agrees start (part :: parts) record) :
    ∃ middle, Decoder.Takes (field.read record) need part middle ∧
      ItemsComplete fields need agrees (start + 1) parts middle := by
  obtain ⟨found, hfound, hfills⟩ := hcomplete.given 0 part List.getElem?_cons_zero
  obtain rfl := Option.some.inj hfound
  obtain ⟨middle, htakes, hsettled, hkept⟩ := hfills record
  have hshift : ∀ index, start + 1 + index = start + (index + 1) := fun index => by omega
  refine ⟨middle, htakes, {
    given := fun index part hpart => ?_
    lacking := fun index field hless hfield => ?_
    settled := fun index hindex => ?_ }⟩
  · rw [hshift]
    exact hcomplete.given (index + 1) part hpart
  · rw [hshift]
    have hlack := hcomplete.lacking (index + 1) field (Nat.succ_le_succ hless) hfield
    exact hlack.imp_right (hkept _)
  · rcases Nat.lt_succ_iff_lt_or_eq.mp hindex with hless | rfl
    · exact hkept index (hcomplete.settled index hless)
    · exact hsettled

end ItemsComplete

/-- The items of a list are read into the record that they complete. -/
theorem itemsFrom_takes (expected : String) {depth : Nat} (hdepth : need ≤ depth)
    {parts : List (List Char)} {start : Nat} (hjoined : Joined ']' (start == 0) parts text)
    (hcomplete : ItemsComplete fields need agrees start parts record) (more : List Char) :
    ∃ next, itemsFrom expected depth start fields (text ++ more) record = .ok (next, more) ∧
      ∀ index < start + fields.length, agrees index next := by
  induction fields generalizing parts start record text with
  | nil =>
      obtain rfl := hcomplete.parts_eq_nil
      refine ⟨record, ?_, hcomplete.agrees_all⟩
      rw [itemsFrom, closeList_closed hjoined]
      rfl
  | cons field fields ih =>
      cases parts with
      | nil =>
          refine ⟨record, ?_, hcomplete.agrees_all⟩
          rw [itemsFrom, nextItem_closed hjoined]
          simp only [hcomplete.all_optional, if_true]
      | cons part parts =>
          obtain ⟨middle, htakes, hlater⟩ := hcomplete.of_part
          obtain ⟨rest, hrest, hnext⟩ := nextItem_part htakes.starts hjoined
          have hvalue := htakes.read hdepth IsGap.nil (hrest.follows (by decide) more)
          rw [List.nil_append] at hvalue
          have hfalse : (start + 1 == 0) = false := rfl
          rw [← hfalse] at hrest
          obtain ⟨next, hread, hagrees⟩ := ih hrest hlater
          refine ⟨next, ?_, fun index hindex => hagrees index ?_⟩
          · rw [itemsFrom, hnext]
            simp [hvalue, placedIn, hread]
          · rw [List.length_cons] at hindex
            omega

end Records

end QueryWarden.Json
