import QueryWarden.Proofs.Json.Forms

/-!
# Objects under chosen names

A record that goes by several names for a field can be written under any of them. An object is
described by the names that it uses, in any order, and by other members that the record does not
know; a name that no field goes by leaves its field as it was.
-/

namespace QueryWarden.Json

variable {α σ : Type}

/-! ## Values -/

theorem StringText.isValue {value : String} {text : List Char} (htext : StringText value text) :
    IsValue text := by
  obtain ⟨hbody⟩ := htext
  exact .text hbody

theorem StringText.not_null {value : String} {text : List Char} (htext : StringText value text) :
    'n' ∉ text.head? := by
  obtain ⟨-⟩ := htext
  simp

theorem exists_of_forall₂_getElem? {β : Type} {related : α → β → Prop} {items : List α}
    {parts : List β} (hparts : List.Forall₂ related items parts) {index : Nat} {part : β}
    (hpart : parts[index]? = some part) :
    ∃ item, items[index]? = some item ∧ related item part := by
  obtain ⟨hlength, hget⟩ := List.forall₂_iff_get.mp hparts
  obtain ⟨hless, rfl⟩ := List.getElem?_eq_some_iff.mp hpart
  have hitem := hlength ▸ hless
  exact ⟨items[index], List.getElem?_eq_getElem hitem, hget index hitem hless⟩

theorem ListText.isValue {writes : α → List Char → Prop} {items : List α} {text : List Char}
    (hwrites : ∀ item part, writes item part → IsValue part) (htext : ListText writes items text) :
    IsValue text := by
  obtain ⟨hparts, hrest⟩ := htext
  refine .list (fun part hpart => ?_) hrest
  obtain ⟨index, hindex⟩ := List.getElem?_of_mem hpart
  obtain ⟨item, -, hitem⟩ := exists_of_forall₂_getElem? hparts hindex
  exact hwrites item part hitem

namespace Decoder.Takes

variable {decoder : Decoder α} {need : Nat} {text : List Char} {result : α}

/-- A text that does not start as null does is not taken for it. -/
theorem option (htakes : decoder.Takes need text result) (hnull : 'n' ∉ text.head?) :
    (optionDecoder decoder).Takes need text (some result) := by
  refine ⟨htakes.starts, fun depth hdepth gap rest hgap hrest => ?_⟩
  have hdrop := dropSpace_gap_append hgap htakes.starts rest
  have hread := htakes.read hdepth .nil hrest
  obtain ⟨c, back, rfl, -⟩ := htakes.starts
  have hc : c ≠ 'n' := by simpa [eq_comm] using hnull
  rw [List.nil_append] at hread
  rw [optionDecoder, hdrop]
  split
  next heq => exact absurd (List.cons.inj heq).1 hc
  next => rw [hread, Except.map]

theorem default [Inhabited α] (htakes : decoder.Takes need text result) (hnull : 'n' ∉ text.head?) :
    (defaultDecoder decoder).Takes need text result :=
  (htakes.option hnull).map fun found => found.getD Inhabited.default

end Decoder.Takes

/-! ## Lists of texts as any value -/

theorem readItemsFrom_texts {values : List String} {parts : List (List Char)}
    (hparts : List.Forall₂ StringText values parts) (depth : Nat) {fuel : Nat}
    (hfuel : parts.length < fuel) {isFirst : Bool} {text : List Char}
    (hjoined : Joined ']' isFirst parts text) (more : List Char) (before : List Value) :
    readItemsFrom fuel depth isFirst (text ++ more) before =
      .ok (.list (before.reverse ++ values.map .text), more) := by
  induction hparts generalizing fuel isFirst text before with
  | nil =>
      obtain ⟨fuel, rfl⟩ := Nat.exists_eq_succ_of_ne_zero (Nat.ne_of_gt hfuel)
      rw [readItemsFrom, nextItem_closed hjoined]
      simp
  | cons hpart hparts ih =>
      rename_i value part values parts
      -- There is fuel for the text, since it is left over for the items behind.
      rw [List.length_cons] at hfuel
      obtain ⟨fuel, rfl⟩ : ∃ less, fuel = less + 2 := ⟨fuel - 2, by omega⟩
      obtain ⟨rest, hrest, hnext⟩ := nextItem_part hpart.isValue.startsValue hjoined
      have hfound := ih (show parts.length < fuel + 1 by omega) hrest (.text value :: before)
      obtain ⟨hbody⟩ := hpart
      rename_i body
      have hread : readValueFrom (fuel + 1) depth ('"' :: (body ++ '"' :: (rest ++ more))) =
          .ok (.text value, rest ++ more) := by
        rw [readValueFrom, dropSpace_cons (by decide)]
        simp [scanText_append hbody, Except.map]
      rw [readItemsFrom, hnext]
      simp [hread, hfound]

theorem anyDecoder_takes {values : List String} {text : List Char}
    (htext : ListText StringText values text) : anyDecoder.Takes 2 text (.ofTexts values) := by
  obtain ⟨hparts, hrest⟩ := htext
  rename_i parts text
  refine ⟨startsValue_cons (by decide) (by decide) (by decide) _, ?_⟩
  intro depth hdepth gap rest hgap hfollows
  have hfuel : parts.length < 2 * (gap ++ ('[' :: text ++ rest)).length + 1 := by
    have hlength := hrest.length_le.1
    simp only [List.length_append, List.length_cons]
    omega
  have hread := readItemsFrom_texts hparts (depth - 1) hfuel hrest rest []
  rw [anyDecoder, readValue, readValueFrom, List.cons_append, dropSpace_append hgap (by decide)]
  simpa [enter_eq hdepth, Value.ofTexts] using hread

/-! ## Objects -/

/-- How a member of an object may be written: its name and the texts of its value. -/
structure NamedForm where
  name : List Char
  writes : List Char → Prop

/-- How an object may be written that has a member of each form: the members stand in any order,
among others that go by no name of a field and have any values. -/
inductive ObjectText (fields : List (Field σ)) (forms : List NamedForm) : List Char → Prop
  | mk {known others members : List Member} {rest : List Char}
      (hknown : List.Forall₂ (fun form member => member.name = form.name ∧ form.writes member.value)
        forms known)
      (hothers : ∀ other ∈ others, (∀ field ∈ fields, field.goesBy other.name = false) ∧
        IsValue other.value)
      (horder : members.Perm (known ++ others))
      (hrest : Joined '\x7d' true (members.map Member.text) rest) :
      ObjectText fields forms ('\x7b' :: rest)

theorem ObjectText.not_null {fields : List (Field σ)} {forms : List NamedForm} {text : List Char}
    (htext : ObjectText fields forms text) : 'n' ∉ text.head? := by
  obtain ⟨-, -, -, -⟩ := htext
  simp

/-- The compact text of an object is one of these if its members are those of the forms and others,
in any order. -/
theorem objectText_render {fields : List (Field σ)} {forms : List NamedForm}
    {known others members : List (String × Value)}
    (hknown : List.Forall₂ (fun form member => member.1.toList = form.name ∧
      form.writes member.2.render) forms known)
    (hothers : ∀ other ∈ others, (∀ field ∈ fields, field.goesBy other.1.toList = false) ∧
      IsValue other.2.render)
    (horder : members.Perm (known ++ others)) :
    ObjectText fields forms (Value.object members).render := by
  obtain ⟨rest, hrender, hrest⟩ := exists_render_object members
  have horder := horder.map Member.compact
  rw [List.map_append] at horder
  rw [hrender]
  exact .mk (List.forall₂_map_right_iff.mpr hknown) (List.forall_mem_map.mpr hothers) horder hrest

/-- The member at an index is of the field there, which reads its value; or it is of no field, and
the field there may be missing. -/
inductive Member.Fits (fields : List (Field σ)) (need : Nat) (agrees : Nat → σ → Prop) (blank : σ)
    (index : Nat) (member : Member) : Prop
  | known {field : Field σ} (hindex : fieldIndex? fields member.name = some index)
      (hfield : fields[index]? = some field) (hfills : field.Fills need agrees index member.value)
  | unknown {field : Field σ} (hindex : fieldIndex? fields member.name = none)
      (hfield : fields[index]? = some field) (habsent : field.absent = some id)
      (hagrees : agrees index blank) (hvalue : IsValue member.value)

section Objects

variable {fields : List (Field σ)} {need : Nat} {agrees : Nat → σ → Prop} {blank : σ}

theorem Member.Fits.index_eq {member : Member} {index place : Nat}
    (hfits : member.Fits fields need agrees blank place)
    (hindex : fieldIndex? fields member.name = some index) : index = place := by
  cases hfits with
  | known hplace => exact Option.some.inj (hindex.symm.trans hplace)
  | unknown hnone => simp [hindex] at hnone

theorem Field.required_takes {decoder : Decoder α} {put : σ → α → σ} {value : α} {text : List Char}
    (htakes : decoder.Takes need text value) (name : String) (aliases : List String) (record : σ) :
    ((Field.required name aliases decoder put).read record).Takes need text (put record value) :=
  htakes.map (put record)

theorem Field.optional_takes {decoder : Decoder α} {put : σ → α → σ} {value : α} {text : List Char}
    (htakes : decoder.Takes need text value) (name : String) (aliases : List String) (record : σ) :
    ((Field.optional name aliases decoder put).read record).Takes need text (put record value) :=
  htakes.map (put record)

theorem Member.fits_of_takes {member : Member} {index : Nat} {field : Field σ} {put : σ → σ}
    (hindex : fieldIndex? fields member.name = some index) (hfield : fields[index]? = some field)
    (htakes : ∀ record, (field.read record).Takes need member.value (put record))
    (hput : ∀ record other, other = index ∨ agrees other record → agrees other (put record)) :
    member.Fits fields need agrees blank index :=
  .known hindex hfield (Field.fills_of_takes htakes hput)

/-- Members that fit the fields one by one complete the record, in any order and among others. -/
theorem MembersComplete.of_fits {known others members : List Member}
    (hlength : known.length = fields.length)
    (hfits : ∀ (index : Nat) (member : Member), known[index]? = some member →
      member.Fits fields need agrees blank index)
    (hothers : ∀ other ∈ others, fieldIndex? fields other.name = none ∧ IsValue other.value)
    (horder : members.Perm (known ++ others)) :
    MembersComplete fields need agrees members [] blank where
  known member hmember index field hindex hfield := by
    rcases List.mem_append.mp (horder.mem_iff.mp hmember) with hmember | hmember
    · obtain ⟨place, hplace⟩ := List.getElem?_of_mem hmember
      have hfit := hfits place member hplace
      obtain rfl := hfit.index_eq hindex
      cases hfit with
      | known _ hsame hfills =>
          obtain rfl := Option.some.inj (hfield.symm.trans hsame)
          exact hfills
      | unknown hnone => simp [hindex] at hnone
    · simp [(hothers member hmember).1] at hindex
  unknown member hmember hindex := by
    rcases List.mem_append.mp (horder.mem_iff.mp hmember) with hmember | hmember
    · obtain ⟨place, hplace⟩ := List.getElem?_of_mem hmember
      cases hfits place member hplace with
      | known hsome => simp [hindex] at hsome
      | unknown _ _ _ _ hvalue => exact hvalue
    · exact (hothers member hmember).2
  once := by
    refine (horder.pairwise_iff fun hnames index hmember hother => hnames index hother hmember).mpr
      (List.pairwise_append.mpr ⟨List.pairwise_iff_getElem.mpr ?_,
        List.pairwise_of_forall_mem_list ?_, ?_⟩)
    · intro first second hfirst hsecond hless index hmember hother
      have hplace := (hfits first _ (List.getElem?_eq_getElem hfirst)).index_eq hmember
      have hagain := (hfits second _ (List.getElem?_eq_getElem hsecond)).index_eq hother
      exact Nat.ne_of_lt hless (hplace.symm.trans hagain)
    · intro member hmember other _ index hindex
      simp [(hothers member hmember).1] at hindex
    · intro member _ other hother index _ hindex
      simp [(hothers other hother).1] at hindex
  unseen _ _ := List.forall_mem_nil _
  all index field hfield := by
    have hless : index < known.length := hlength ▸ (List.getElem?_eq_some_iff.mp hfield).1
    have hmember := List.getElem?_eq_getElem hless
    have hmem : known[index] ∈ members :=
      horder.mem_iff.mpr (List.mem_append_left _ (List.getElem_mem hless))
    cases hfits index _ hmember with
    | known hindex => exact .inr (.inl ⟨_, hmem, hindex⟩)
    | unknown _ hsame habsent hagrees =>
        obtain rfl := Option.some.inj (hfield.symm.trans hsame)
        exact .inr (.inr ⟨habsent, hagrees⟩)
  settled := List.forall_mem_nil _

variable (agrees) in
/-- The fields are read from the members of an object that fit them, and the others are passed
over. -/
theorem ObjectText.takes {shape : RecordShape σ} {forms : List NamedForm} {text : List Char}
    (htext : ObjectText shape.fields forms text) {goal : σ} (hneed : 1 ≤ need)
    (hlength : forms.length = shape.fields.length)
    (hfits : ∀ (index : Nat) (form : NamedForm), forms[index]? = some form → ∀ member : Member,
      member.name = form.name → form.writes member.value →
        member.Fits shape.fields need agrees blank index)
    (hgoal : ∀ record, (∀ index < shape.fields.length, agrees index record) → record = goal) :
    (shape.decoder blank).Takes (need + 1) text goal := by
  obtain ⟨hknown, hothers, horder, hrest⟩ := htext
  refine RecordShape.takes_of_membersComplete hneed hrest
    (.of_fits (hknown.length_eq.symm.trans hlength) (fun index member hmember => ?_)
      (fun other hother => ?_) horder) hgoal
  · obtain ⟨form, hform, hname, hwrites⟩ := exists_of_forall₂_getElem? hknown hmember
    exact hfits index form hform member hname hwrites
  · obtain ⟨hunknown, hvalue⟩ := hothers other hother
    exact ⟨List.findIdx?_eq_none_iff.mpr hunknown, hvalue⟩

end Objects

end QueryWarden.Json
