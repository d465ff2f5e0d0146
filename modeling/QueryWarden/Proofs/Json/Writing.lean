import QueryWarden.Proofs.Json.Layout

/-!
# The compact text is one of the layouts

Compact texts are written without white space, with the members of objects in the order they have
and with the shortest escapes. This is one of the ways in which a value may be written.
-/

namespace QueryWarden.Json

open QueryWarden.Text

/-! ## Texts -/

/-- Control characters are written with four digits. -/
theorem spellsUnit_paddedHex {code : Nat} (hcode : code < 32) :
    SpellsUnit code (paddedHex 4 code) := by
  have hdigits : ∀ code < 32, (lowerDigits[code / 16]?.bind fun y =>
      lowerDigits[code % 16]?.map fun z => ['0', '0', y, z]) = some (paddedHex 4 code) := by
    decide
  obtain ⟨y, hy, hrest⟩ := Option.bind_eq_some_iff.mp (hdigits code hcode)
  obtain ⟨z, hz, heq⟩ := Option.map_eq_some_iff.mp hrest
  have hunit := SpellsUnit.mk (.inl rfl : IsHexDigit 0 '0') (.inl rfl : IsHexDigit 0 '0')
    (.inl hy) (.inl hz)
  rw [← heq]
  simpa [Nat.div_add_mod'] using hunit

theorem spellsChar_escapedChar (c : Char) : SpellsChar c (escapedChar c) := by
  rw [escapedChar]
  split_ifs with hquote hbackslash hline hreturn htab hback hfeed hcontrol
  · subst hquote
    exact .short (by decide)
  · subst hbackslash
    exact .short (by decide)
  · subst hline
    exact .short (by decide)
  · subst hreturn
    exact .short (by decide)
  · subst htab
    exact .short (by decide)
  · subst hback
    exact .short (by decide)
  · subst hfeed
    exact .short (by decide)
  · exact .numbered (spellsUnit_paddedHex hcontrol)
  · exact .plain hquote hbackslash (Nat.le_of_not_lt hcontrol)

theorem spellsText_flatMap (text : List Char) : SpellsText text (text.flatMap escapedChar) := by
  induction text with
  | nil => exact .nil
  | cons c text ih => exact .cons (spellsChar_escapedChar c) ih

theorem spells_renderText (text : List Char) : (Token.text text).Spells (renderText text) :=
  .text (spellsText_flatMap text)

/-! ## Layouts one after the other -/

namespace Laid

variable {tokens : List Token} {text : List Char}

theorem gap_append {gap : List Char} (hgap : ∀ c ∈ gap, c ∈ spaces) (hlaid : Laid tokens text) :
    Laid tokens (gap ++ text) := by
  cases hlaid with
  | nil hrest => exact .nil (List.forall_mem_append.mpr ⟨hgap, hrest⟩)
  | cons hrest hpiece htext =>
      rw [← List.append_assoc]
      exact .cons (List.forall_mem_append.mpr ⟨hgap, hrest⟩) hpiece htext

theorem append (hlaid : Laid tokens text) {more : List Token} {rest : List Char}
    (hrest : Laid more rest) : Laid (tokens ++ more) (text ++ rest) := by
  induction hlaid with
  | nil hgap => exact hrest.gap_append hgap
  | cons hgap hpiece _ ih =>
      rw [List.append_assoc, List.append_assoc]
      exact .cons hgap hpiece ih

theorem mark_cons {c : Char} (hc : c ∈ marks) (hlaid : Laid tokens text) :
    Laid (.mark c :: tokens) (c :: text) :=
  .cons (List.forall_mem_nil _) (.mark hc) hlaid

end Laid

/-! ## Values -/

/-- A value made of texts, lists and objects. -/
inductive Value.IsTextual : Value → Prop
  | text (value : String) : IsTextual (.text value)
  | list {items : List Value} (hitems : ∀ item ∈ items, item.IsTextual) : IsTextual (.list items)
  | object {members : List (String × Value)}
      (hmembers : ∀ member ∈ members, member.2.IsTextual) : IsTextual (.object members)

/-- Some tokens write the value, and its compact text is a layout of them. -/
def Value.IsLaid (value : Value) : Prop :=
  ∃ tokens, Written value tokens ∧ Laid tokens value.render

theorem exists_laid_renderItems {items : List Value} (hitems : ∀ item ∈ items, item.IsLaid) :
    ∃ parts, WrittenItems items parts ∧ Laid (parted ']' false parts) (renderItems items) := by
  induction items with
  | nil => exact ⟨[], .nil, .mark_cons (by decide) (.nil (List.forall_mem_nil _))⟩
  | cons item items ih =>
      obtain ⟨⟨part, hpart, hlaid⟩, hitems⟩ := List.forall_mem_cons.mp hitems
      obtain ⟨parts, hparts, hrest⟩ := ih hitems
      exact ⟨part :: parts, .cons hpart hparts, .mark_cons (by decide) (hlaid.append hrest)⟩

theorem laid_member {name : String} {value : Value} {part : List Token}
    (hlaid : Laid part value.render) :
    Laid (.text name.toList :: .mark ':' :: part) (renderText name.toList ++ ':' :: value.render) :=
  .cons (List.forall_mem_nil _) (spells_renderText _) (.mark_cons (by decide) hlaid)

theorem exists_laid_renderMembers {members : List (String × Value)}
    (hmembers : ∀ member ∈ members, member.2.IsLaid) :
    ∃ parts, WrittenMembers members parts ∧
      Laid (parted '\x7d' false parts) (renderMembers members) := by
  induction members with
  | nil => exact ⟨[], .nil, .mark_cons (by decide) (.nil (List.forall_mem_nil _))⟩
  | cons member members ih =>
      obtain ⟨⟨part, hpart, hlaid⟩, hmembers⟩ := List.forall_mem_cons.mp hmembers
      obtain ⟨parts, hparts, hrest⟩ := ih hmembers
      exact ⟨_ :: parts, .cons hpart hparts,
        .mark_cons (by decide) ((laid_member hlaid).append hrest)⟩

/-- The compact text of a value made of texts is a layout of it. -/
theorem Value.IsTextual.isLaid {value : Value} (htextual : value.IsTextual) : value.IsLaid := by
  have hend : ∀ {c : Char}, c ∈ marks → Laid [.mark c] [c] := fun hc =>
    .mark_cons hc (.nil (List.forall_mem_nil _))
  induction htextual with
  | text value =>
      refine ⟨_, .text value, ?_⟩
      have hlaid := Laid.cons (List.forall_mem_nil _) (spells_renderText value.toList)
        (.nil (List.forall_mem_nil _))
      rwa [List.append_nil, List.nil_append] at hlaid
  | list hitems ih =>
      rename_i items
      cases items with
      | nil => exact ⟨_, .list .nil, .mark_cons (by decide) (hend (by decide))⟩
      | cons item items =>
          obtain ⟨⟨part, hpart, hlaid⟩, hitems⟩ := List.forall_mem_cons.mp ih
          obtain ⟨parts, hparts, hrest⟩ := exists_laid_renderItems hitems
          exact ⟨_, .list (.cons hpart hparts), .mark_cons (by decide) (hlaid.append hrest)⟩
  | object hmembers ih =>
      rename_i members
      cases members with
      | nil => exact ⟨_, .object (.refl _) .nil, .mark_cons (by decide) (hend (by decide))⟩
      | cons member members =>
          obtain ⟨⟨part, hpart, hlaid⟩, hmembers⟩ := List.forall_mem_cons.mp ih
          obtain ⟨parts, hparts, hrest⟩ := exists_laid_renderMembers hmembers
          exact ⟨_, .object (.refl _) (.cons hpart hparts),
            .mark_cons (by decide) ((laid_member hlaid).append hrest)⟩

end QueryWarden.Json
