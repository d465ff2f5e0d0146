import QueryWarden.Proofs.Json.Records
import QueryWarden.Proofs.Json.Writing

/-!
# Forms

A form says how the fields of a record may be written, with no regard to the readers: an object with
the members in any order and others among them, or a list. A shape whose fields match the form reads
whatever is written so, and the compact text of the members is written so.
-/

namespace QueryWarden.Json

variable {α σ : Type}

/-- How a list may be written whose items are written so. -/
inductive ListText (writes : α → List Char → Prop) (items : List α) : List Char → Prop
  | mk {parts : List (List Char)} {rest : List Char} (hparts : List.Forall₂ writes items parts)
      (hrest : Joined ']' true parts rest) : ListText writes items ('[' :: rest)

/-- How a field of a record may be written: its name, the texts its value may have, and whether it
may be left out. -/
structure FieldForm (σ : Type) where
  name : String
  writes : σ → List Char → Prop
  mayLack : σ → Prop

/-- How a record may be written. The members of an object come in any order, and those that are of
no field are any values; the items of a list follow the fields. -/
inductive RecordText (forms : List (FieldForm σ)) (record : σ) : List Char → Prop
  | object {members : List Member} {rest : List Char}
      (hknown : ∀ member ∈ members, ∀ form ∈ forms, form.name.toList = member.name →
        form.writes record member.value)
      (hunknown : ∀ member ∈ members, (∀ form ∈ forms, form.name.toList ≠ member.name) →
        IsValue member.value)
      (honce : members.Pairwise fun member other => ∀ form ∈ forms,
        form.name.toList = member.name → form.name.toList ≠ other.name)
      (hall : ∀ form ∈ forms,
        (∃ member ∈ members, form.name.toList = member.name) ∨ form.mayLack record)
      (hrest : Joined '\x7d' true (members.map Member.text) rest) :
      RecordText forms record ('\x7b' :: rest)
  | list {parts : List (List Char)} {rest : List Char}
      (hparts : ∀ (index : Nat) (part : List Char), parts[index]? = some part →
        ∃ form : FieldForm σ, forms[index]? = some form ∧ form.writes record part)
      (hlacking : ∀ form ∈ forms.drop parts.length, form.mayLack record)
      (hrest : Joined ']' true parts rest) : RecordText forms record ('[' :: rest)

/-! ## Reading -/

theorem ListText.takes {decoder : Decoder α} {need : Nat} {writes : α → List Char → Prop}
    (htakes : ∀ item text, writes item text → decoder.Takes need text item) (hneed : 1 ≤ need)
    {items : List α} {text : List Char} (htext : ListText writes items text) :
    (listDecoder decoder).Takes (need + 1) text items := by
  obtain ⟨hparts, hrest⟩ := htext
  exact listDecoder_takes hneed (hparts.imp htakes).flip hrest

/-- The field reads what the form writes, and it is the blank record's where it may be left out. -/
structure Field.Matches (field : Field σ) (form : FieldForm σ) (need : Nat)
    (agrees : Nat → σ → Prop) (blank goal : σ) (index : Nat) : Prop where
  goesBy_iff : ∀ name, field.goesBy name = true ↔ form.name.toList = name
  fills : ∀ text, form.writes goal text → field.Fills need agrees index text
  lacks : form.mayLack goal →
    field.absent = some id ∧ field.isOptionalItem = true ∧ agrees index blank

/-- The fields are those of the forms, in the same order and each under a name of its own. -/
structure RecordShape.Matches (shape : RecordShape σ) (forms : List (FieldForm σ)) (need : Nat)
    (agrees : Nat → σ → Prop) (blank goal : σ) : Prop where
  length_eq : forms.length = shape.fields.length
  names : (forms.map FieldForm.name).Nodup
  fields : ∀ index (field : Field σ) (form : FieldForm σ), shape.fields[index]? = some field →
    forms[index]? = some form → field.Matches form need agrees blank goal index
  eq_goal : ∀ record, (∀ index < shape.fields.length, agrees index record) → record = goal

/-- An object is read as the record that its members complete. -/
theorem RecordShape.takes_of_membersComplete {shape : RecordShape σ} {need : Nat}
    {agrees : Nat → σ → Prop} {blank goal : σ} {members : List Member} {text : List Char}
    (hneed : 1 ≤ need) (hjoined : Joined '\x7d' true (members.map Member.text) text)
    (hcomplete : MembersComplete shape.fields need agrees members [] blank)
    (hgoal : ∀ record, (∀ index < shape.fields.length, agrees index record) → record = goal) :
    (shape.decoder blank).Takes (need + 1) ('\x7b' :: text) goal := by
  refine ⟨startsValue_cons (by decide) (by decide) (by decide) _, ?_⟩
  intro depth hdepth gap more hgap hmore
  have htoken := atToken_append hgap (show '\x7b' ∉ spaces by decide) (text ++ more)
  have hfuel : members.length < (text ++ more).length + 1 := by
    have hlength := hjoined.length_le.1
    rw [List.length_map] at hlength
    rw [List.length_append]
    omega
  have hless : need ≤ depth - 1 := by omega
  obtain ⟨next, hread, hagrees⟩ := membersFrom_takes hjoined hcomplete hless hfuel more
  rw [hgoal next hagrees] at hread
  rw [List.cons_append]
  simp only [decoder, htoken, ok_bind, enter_eq (show 2 ≤ depth by omega), hread]

namespace RecordShape.Matches

variable {shape : RecordShape σ} {forms : List (FieldForm σ)} {need : Nat}
  {agrees : Nat → σ → Prop} {blank goal : σ}

theorem exists_form (hmatches : shape.Matches forms need agrees blank goal) {index : Nat}
    {field : Field σ} (hfield : shape.fields[index]? = some field) :
    ∃ form, forms[index]? = some form ∧ field.Matches form need agrees blank goal index := by
  obtain ⟨hlength, -⟩ := List.getElem?_eq_some_iff.mp hfield
  rw [← hmatches.length_eq] at hlength
  have hform := List.getElem?_eq_getElem hlength
  exact ⟨_, hform, hmatches.fields index field _ hfield hform⟩

theorem exists_field (hmatches : shape.Matches forms need agrees blank goal) {index : Nat}
    {form : FieldForm σ} (hform : forms[index]? = some form) :
    ∃ field, shape.fields[index]? = some field ∧
      field.Matches form need agrees blank goal index := by
  obtain ⟨hlength, -⟩ := List.getElem?_eq_some_iff.mp hform
  rw [hmatches.length_eq] at hlength
  have hfield := List.getElem?_eq_getElem hlength
  exact ⟨_, hfield, hmatches.fields index _ form hfield hform⟩

/-- A name finds the field whose form has it. -/
theorem fieldIndex?_eq_some_iff (hmatches : shape.Matches forms need agrees blank goal)
    {name : List Char} {index : Nat} : fieldIndex? shape.fields name = some index ↔
      ∃ form, forms[index]? = some form ∧ form.name.toList = name := by
  constructor
  · intro hindex
    obtain ⟨field, hfield, hname⟩ := exists_field_of_fieldIndex? hindex
    obtain ⟨form, hform, hmatch⟩ := hmatches.exists_form hfield
    exact ⟨form, hform, (hmatch.goesBy_iff name).mp hname⟩
  · rintro ⟨form, hform, rfl⟩
    obtain ⟨field, hfield, hmatch⟩ := hmatches.exists_field hform
    obtain ⟨hlength, rfl⟩ := List.getElem?_eq_some_iff.mp hfield
    refine List.findIdx?_eq_some_iff_getElem.mpr ⟨hlength, (hmatch.goesBy_iff _).mpr rfl, ?_⟩
    -- A field before it that goes by the name has the same form.
    intro before hbefore hname
    have hearlier := List.getElem?_eq_getElem (hbefore.trans hlength)
    obtain ⟨other, hother, hsame⟩ := hmatches.exists_form hearlier
    have hnames : other.name = form.name := String.toList_inj.mp ((hsame.goesBy_iff _).mp hname)
    have hfirst : (forms.map FieldForm.name)[before]? = some form.name := by
      rw [List.getElem?_map, hother, Option.map_some, hnames]
    have hsecond : (forms.map FieldForm.name)[index]? = some form.name := by
      rw [List.getElem?_map, hform, Option.map_some]
    have hless := (List.getElem?_eq_some_iff.mp hfirst).1
    have heq := (List.getElem?_inj hless hmatches.names).mp (hfirst.trans hsecond.symm)
    exact Nat.ne_of_lt hbefore heq

theorem membersComplete (hmatches : shape.Matches forms need agrees blank goal)
    {members : List Member}
    (hknown : ∀ member ∈ members, ∀ form ∈ forms, form.name.toList = member.name →
      form.writes goal member.value)
    (hunknown : ∀ member ∈ members, (∀ form ∈ forms, form.name.toList ≠ member.name) →
      IsValue member.value)
    (honce : members.Pairwise fun member other => ∀ form ∈ forms,
      form.name.toList = member.name → form.name.toList ≠ other.name)
    (hall : ∀ form ∈ forms,
      (∃ member ∈ members, form.name.toList = member.name) ∨ form.mayLack goal) :
    MembersComplete shape.fields need agrees members [] blank where
  known member hmember index field hindex hfield := by
    obtain ⟨form, hform, hname⟩ := hmatches.fieldIndex?_eq_some_iff.mp hindex
    refine (hmatches.fields index field form hfield hform).fills _ ?_
    exact hknown member hmember form (List.mem_of_getElem? hform) hname
  unknown member hmember hindex := by
    refine hunknown member hmember fun form hform hname => ?_
    obtain ⟨index, hplace⟩ := List.getElem?_of_mem hform
    rw [hmatches.fieldIndex?_eq_some_iff.mpr ⟨form, hplace, hname⟩] at hindex
    cases hindex
  once := by
    refine honce.imp fun hnames index hmember hother => ?_
    obtain ⟨form, hform, hname⟩ := hmatches.fieldIndex?_eq_some_iff.mp hmember
    obtain ⟨same, hsame, hagain⟩ := hmatches.fieldIndex?_eq_some_iff.mp hother
    obtain rfl := Option.some.inj (hform.symm.trans hsame)
    exact hnames form (List.mem_of_getElem? hform) hname hagain
  unseen _ _ := List.forall_mem_nil _
  all index field hfield := by
    obtain ⟨form, hform, hmatch⟩ := hmatches.exists_form hfield
    rcases hall form (List.mem_of_getElem? hform) with ⟨member, hmember, hname⟩ | hlack
    · have hindex := hmatches.fieldIndex?_eq_some_iff.mpr ⟨form, hform, hname⟩
      exact .inr (.inl ⟨member, hmember, hindex⟩)
    · obtain ⟨habsent, -, hagrees⟩ := hmatch.lacks hlack
      exact .inr (.inr ⟨habsent, hagrees⟩)
  settled := List.forall_mem_nil _

theorem itemsComplete (hmatches : shape.Matches forms need agrees blank goal)
    {parts : List (List Char)} (hparts : ∀ (index : Nat) (part : List Char),
      parts[index]? = some part →
        ∃ form : FieldForm σ, forms[index]? = some form ∧ form.writes goal part)
    (hlacking : ∀ form ∈ forms.drop parts.length, form.mayLack goal) :
    ItemsComplete shape.fields need agrees 0 parts blank where
  given index part hpart := by
    obtain ⟨form, hform, hwrites⟩ := hparts index part hpart
    obtain ⟨field, hfield, hmatch⟩ := hmatches.exists_field hform
    rw [Nat.zero_add]
    exact ⟨field, hfield, hmatch.fills part hwrites⟩
  lacking index field hless hfield := by
    obtain ⟨form, hform, hmatch⟩ := hmatches.exists_form hfield
    obtain ⟨past, rfl⟩ := Nat.exists_eq_add_of_le hless
    rw [← List.getElem?_drop] at hform
    rw [Nat.zero_add]
    exact (hmatch.lacks (hlacking form (List.mem_of_getElem? hform))).2
  settled index hindex := absurd hindex (Nat.not_lt_zero index)

/-- However a record is written, the decoder of its shape reads it. -/
theorem takes (hmatches : shape.Matches forms need agrees blank goal) (hneed : 1 ≤ need)
    {text : List Char} (htext : RecordText forms goal text) :
    (shape.decoder blank).Takes (need + 1) text goal := by
  cases htext with
  | object hknown hunknown honce hall hrest =>
      exact takes_of_membersComplete hneed hrest
        (hmatches.membersComplete hknown hunknown honce hall) hmatches.eq_goal
  | list hparts hlacking hrest =>
      rename_i parts rest
      refine ⟨startsValue_cons (by decide) (by decide) (by decide) _, ?_⟩
      intro depth hdepth gap more hgap hmore
      have htoken := atToken_append hgap (show '[' ∉ spaces by decide) (rest ++ more)
      have hcomplete := hmatches.itemsComplete hparts hlacking
      have hfirst : (0 == 0) = true := rfl
      rw [← hfirst] at hrest
      have hless : need ≤ depth - 1 := by omega
      obtain ⟨next, hread, hagrees⟩ := itemsFrom_takes shape.expected hless hrest hcomplete more
      rw [Nat.zero_add] at hagrees
      rw [hmatches.eq_goal next hagrees] at hread
      rw [List.cons_append]
      simp only [decoder, htoken, ok_bind, enter_eq (show 2 ≤ depth by omega), hread]

end RecordShape.Matches

/-! ## Fields -/

section Fields

variable {decoder : Decoder α} {put : σ → α → σ} {need : Nat} {agrees : Nat → σ → Prop}
  {blank goal : σ} {index : Nat} {name : String} {writes : σ → List Char → Prop}
  {mayLack : σ → Prop} {value : α}

theorem Field.goesBy_iff {field : Field σ} (haliases : field.aliases = []) (name : List Char) :
    field.goesBy name = true ↔ field.name.toList = name := by
  simp [Field.goesBy, haliases]

theorem Field.fills_of_takes {field : Field σ} {put : σ → σ} {text : List Char}
    (htakes : ∀ record, (field.read record).Takes need text (put record))
    (hput : ∀ record other, other = index ∨ agrees other record → agrees other (put record)) :
    field.Fills need agrees index text :=
  fun record => ⟨put record, htakes record, hput record index (.inl rfl),
    fun other hagrees => hput record other (.inr hagrees)⟩

/-- A required field that has no other names matches a form that may not be left out. -/
theorem Field.required_matches (hlack : ¬ mayLack goal)
    (htakes : ∀ text, writes goal text → decoder.Takes need text value)
    (hput : ∀ record other, other = index ∨ agrees other record →
      agrees other (put record value)) :
    (Field.required name [] decoder put).Matches ⟨name, writes, mayLack⟩ need agrees blank goal
      index where
  goesBy_iff := Field.goesBy_iff rfl
  fills text hwrites :=
    Field.fills_of_takes (fun record => (htakes text hwrites).map (put record)) hput
  lacks hmay := absurd hmay hlack

/-- An optional field matches a form that may be left out if the blank record has the value then. -/
theorem Field.optional_matches (hlack : mayLack goal → agrees index blank)
    (htakes : ∀ text, writes goal text → decoder.Takes need text value)
    (hput : ∀ record other, other = index ∨ agrees other record →
      agrees other (put record value)) :
    (Field.optional name [] decoder put).Matches ⟨name, writes, mayLack⟩ need agrees blank goal
      index where
  goesBy_iff := Field.goesBy_iff rfl
  fills text hwrites :=
    Field.fills_of_takes (fun record => (htakes text hwrites).map (put record)) hput
  lacks hmay := ⟨rfl, rfl, hlack hmay⟩

end Fields

/-! ## Compact texts -/

/-- A member as compact texts have it. -/
def Member.compact (member : String × Value) : Member where
  name := member.1.toList
  body := member.1.toList.flatMap escapedChar
  before := []
  after := []
  value := member.2.render
  spells := spellsText_flatMap _
  isGap_before := .nil
  isGap_after := .nil

theorem Member.text_compact (member : String × Value) :
    (Member.compact member).text = renderText member.1.toList ++ ':' :: member.2.render := by
  simp [Member.compact, Member.text, renderText]

theorem joined_renderItems (items : List Value) :
    Joined ']' false (items.map Value.render) (renderItems items) := by
  induction items with
  | nil => exact .closed .nil
  | cons item items ih => exact .next .nil .nil ih

theorem exists_render_list (items : List Value) :
    ∃ rest, (Value.list items).render = '[' :: rest ∧
      Joined ']' true (items.map Value.render) rest := by
  cases items with
  | nil => exact ⟨[']'], rfl, .closed .nil⟩
  | cons item items =>
      exact ⟨item.render ++ renderItems items, rfl, .first .nil (joined_renderItems items)⟩

theorem joined_renderMembers (members : List (String × Value)) :
    Joined '\x7d' false ((members.map Member.compact).map Member.text) (renderMembers members) := by
  induction members with
  | nil => exact .closed .nil
  | cons member members ih =>
      have hjoined : Joined '\x7d' false
          ((Member.compact member).text :: (members.map Member.compact).map Member.text)
          ([] ++ ',' :: ([] ++ ((Member.compact member).text ++ renderMembers members))) :=
        .next .nil .nil ih
      simpa [renderMembers, Member.text_compact] using hjoined

theorem exists_render_object (members : List (String × Value)) :
    ∃ rest, (Value.object members).render = '\x7b' :: rest ∧
      Joined '\x7d' true ((members.map Member.compact).map Member.text) rest := by
  cases members with
  | nil => exact ⟨['\x7d'], rfl, .closed .nil⟩
  | cons member members =>
      refine ⟨(Member.compact member).text ++ renderMembers members, ?_,
        .first .nil (joined_renderMembers members)⟩
      simp [Value.render, Member.text_compact]

theorem stringText_render (value : String) : StringText value (Value.text value).render := by
  rw [Value.render]
  exact .mk (spellsText_flatMap _)

theorem boolText_render (value : Bool) : BoolText value (Value.bool value).render := by
  cases value with
  | true => exact .yes
  | false => exact .no

/-- The compact text of a list is one of its forms if those of the items are. -/
theorem listText_render {writes : α → List Char → Prop} {items : List α} {write : α → Value}
    (hitems : ∀ item ∈ items, writes item (write item).render) :
    ListText writes items (Value.list (items.map write)).render := by
  obtain ⟨rest, hrender, hrest⟩ := exists_render_list (items.map write)
  rw [hrender]
  refine .mk ?_ hrest
  rw [List.map_map, List.forall₂_map_right_iff, List.forall₂_same]
  exact hitems

section Objects

variable {forms : List (FieldForm σ)} {record : σ} {members : List (String × Value)}

theorem exists_form_of_mem (hmembers : List.Forall₂ (fun form member =>
      form.name = member.1 ∧ form.writes record member.2.render) forms members)
    {member : String × Value} (hmember : member ∈ members) :
    ∃ form ∈ forms, form.name = member.1 ∧ form.writes record member.2.render := by
  induction hmembers with
  | nil => cases hmember
  | cons hfirst _ ih =>
      rcases List.mem_cons.mp hmember with rfl | hmember
      · exact ⟨_, List.mem_cons_self, hfirst⟩
      · obtain ⟨form, hform, hwritten⟩ := ih hmember
        exact ⟨form, List.mem_cons_of_mem _ hform, hwritten⟩

/-- The compact text of an object is one of the forms of a record if its members are the fields in
order. -/
theorem recordText_render (hnames : (forms.map FieldForm.name).Nodup)
    (hmembers : List.Forall₂ (fun form member =>
      form.name = member.1 ∧ form.writes record member.2.render) forms members) :
    RecordText forms record (Value.object members).render := by
  have hsame : forms.map FieldForm.name = members.map Prod.fst := by
    rw [← List.forall₂_eq_eq_eq, List.forall₂_map_left_iff, List.forall₂_map_right_iff]
    exact hmembers.imp fun form member hwritten => hwritten.1
  obtain ⟨rest, hrender, hrest⟩ := exists_render_object members
  rw [hrender]
  refine .object ?_ ?_ ?_ ?_ hrest
  · intro compact hcompact form hform hname
    obtain ⟨member, hmember, rfl⟩ := List.mem_map.mp hcompact
    obtain ⟨known, hknown, hfirst, hwrites⟩ := exists_form_of_mem hmembers hmember
    have heq := List.inj_on_of_nodup_map hnames hform hknown
      ((String.toList_inj.mp hname).trans hfirst.symm)
    exact heq ▸ hwrites
  · intro compact hcompact hunknown
    obtain ⟨member, hmember, rfl⟩ := List.mem_map.mp hcompact
    obtain ⟨form, hform, hname, -⟩ := exists_form_of_mem hmembers hmember
    exact absurd (congrArg String.toList hname) (hunknown form hform)
  · rw [hsame, List.nodup_iff_pairwise_ne, List.pairwise_map] at hnames
    refine List.pairwise_map.mpr (hnames.imp fun hdiffers form _ hname hagain => hdiffers ?_)
    exact String.toList_inj.mp (hname.symm.trans hagain)
  · intro form hform
    have hmem : form.name ∈ members.map Prod.fst := hsame ▸ List.mem_map_of_mem hform
    obtain ⟨member, hmember, hname⟩ := List.mem_map.mp hmem
    exact .inl ⟨_, List.mem_map_of_mem hmember, congrArg String.toList hname.symm⟩

end Objects

end QueryWarden.Json
