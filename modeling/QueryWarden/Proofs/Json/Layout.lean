import QueryWarden.Json.Reader
import QueryWarden.Proofs.Text.Replacement

/-!
# JSON texts as they may be written

A value can be written in many ways: the members of its objects stand in any order, each character
of a text is written as itself or as an escape, and any white space stands between the tokens. The
grammar here says which texts write a value made of texts, lists and objects. It is independent of
how texts are read; that they are read back is shown elsewhere.
-/

namespace QueryWarden.Json

/-! ## Characters -/

/-- The hexadecimal digits in lower case. -/
def lowerDigits : List Char :=
  ['0', '1', '2', '3', '4', '5', '6', '7', '8', '9', 'a', 'b', 'c', 'd', 'e', 'f']

/-- The hexadecimal digits in upper case. -/
def upperDigits : List Char :=
  ['0', '1', '2', '3', '4', '5', '6', '7', '8', '9', 'A', 'B', 'C', 'D', 'E', 'F']

/-- The character is the hexadecimal digit of a value, in either case. -/
def IsHexDigit (value : Nat) (c : Char) : Prop :=
  lowerDigits[value]? = some c ∨ upperDigits[value]? = some c

/-- Four hexadecimal digits and the number that they make. -/
inductive SpellsUnit : Nat → List Char → Prop
  | mk {a b c d : Nat} {w x y z : Char} (ha : IsHexDigit a w) (hb : IsHexDigit b x)
      (hc : IsHexDigit c y) (hd : IsHexDigit d z) :
      SpellsUnit (((a * 16 + b) * 16 + c) * 16 + d) [w, x, y, z]

/-- The letters that follow a backslash, and the characters that they stand for. -/
def shortEscapes : List (Char × Char) :=
  [('"', '"'), ('\\', '\\'), ('/', '/'), ('b', '\x08'), ('f', '\x0c'), ('n', '\n'), ('r', '\r'),
    ('t', '\t')]

/-- How a character of a text may be written: as itself unless it is a quote, a backslash or a
control character, by a short escape, or by the numbers of its one or two units in UTF-16. -/
inductive SpellsChar : Char → List Char → Prop
  | plain {c : Char} (hquote : c ≠ '"') (hbackslash : c ≠ '\\') (hcontrol : 32 ≤ c.toNat) :
      SpellsChar c [c]
  | short {letter c : Char} (hletter : (letter, c) ∈ shortEscapes) : SpellsChar c ['\\', letter]
  | numbered {c : Char} {digits : List Char} (hdigits : SpellsUnit c.toNat digits) :
      SpellsChar c ('\\' :: 'u' :: digits)
  | paired {c : Char} {high low : Nat} {first second : List Char}
      (hhigh : 0xd800 ≤ high ∧ high ≤ 0xdbff) (hlow : 0xdc00 ≤ low ∧ low ≤ 0xdfff)
      (hc : c.toNat = 0x10000 + (high - 0xd800) * 0x400 + (low - 0xdc00))
      (hfirst : SpellsUnit high first) (hsecond : SpellsUnit low second) :
      SpellsChar c ('\\' :: 'u' :: first ++ '\\' :: 'u' :: second)

/-- How a text may be written between its quotes. -/
inductive SpellsText : List Char → List Char → Prop
  | nil : SpellsText [] []
  | cons {c : Char} {value piece body : List Char} (hpiece : SpellsChar c piece)
      (hbody : SpellsText value body) : SpellsText (c :: value) (piece ++ body)

/-! ## Tokens -/

/-- A token: a bracket, a brace, a comma or a colon, or a text between quotes. -/
inductive Token where
  | mark (c : Char)
  | text (value : List Char)
  deriving DecidableEq, Repr

/-- The marks that structure a JSON text. -/
def marks : List Char := ['[', ']', '\x7b', '\x7d', ',', ':']

/-- How a token may be written. -/
inductive Token.Spells : Token → List Char → Prop
  | mark {c : Char} (hc : c ∈ marks) : Spells (.mark c) [c]
  | text {value body : List Char} (hbody : SpellsText value body) :
      Spells (.text value) ('"' :: body ++ ['"'])

/-- White space as it may stand between tokens. -/
def spaces : List Char := [' ', '\n', '\r', '\t']

/-- The tokens are written one after the other, with white space before, between and after them. -/
inductive Laid : List Token → List Char → Prop
  | nil {gap : List Char} (hgap : ∀ c ∈ gap, c ∈ spaces) : Laid [] gap
  | cons {token : Token} {tokens : List Token} {gap piece text : List Char}
      (hgap : ∀ c ∈ gap, c ∈ spaces) (hpiece : token.Spells piece) (htext : Laid tokens text) :
      Laid (token :: tokens) (gap ++ (piece ++ text))

/-- Parts with commas between them, and the closing bracket behind. -/
def parted (closing : Char) : Bool → List (List Token) → List Token
  | _, [] => [.mark closing]
  | true, part :: parts => part ++ parted closing false parts
  | false, part :: parts => .mark ',' :: (part ++ parted closing false parts)

mutual

/-- The tokens write a value. The members of an object may be written in any order. -/
inductive Written : Value → List Token → Prop
  | text (value : String) : Written (.text value) [.text value.toList]
  | list {items : List Value} {parts : List (List Token)} (hparts : WrittenItems items parts) :
      Written (.list items) (.mark '[' :: parted ']' true parts)
  | object {members order : List (String × Value)} {parts : List (List Token)}
      (horder : order.Perm members) (hparts : WrittenMembers order parts) :
      Written (.object members) (.mark '\x7b' :: parted '\x7d' true parts)

/-- Each part writes one item. -/
inductive WrittenItems : List Value → List (List Token) → Prop
  | nil : WrittenItems [] []
  | cons {item : Value} {part : List Token} {items : List Value} {parts : List (List Token)}
      (hpart : Written item part) (hparts : WrittenItems items parts) :
      WrittenItems (item :: items) (part :: parts)

/-- Each part writes one member: its name, a colon and its value. -/
inductive WrittenMembers : List (String × Value) → List (List Token) → Prop
  | nil : WrittenMembers [] []
  | cons {name : String} {value : Value} {part : List Token} {members : List (String × Value)}
      {parts : List (List Token)} (hpart : Written value part)
      (hparts : WrittenMembers members parts) :
      WrittenMembers ((name, value) :: members)
        ((.text name.toList :: .mark ':' :: part) :: parts)

end

/-- A text that stands somewhere in a value, or a name in it. -/
inductive Value.Mentions : Value → List Char → Prop
  | text (value : String) : Mentions (.text value) value.toList
  | item {items : List Value} {item : Value} {text : List Char} (hitem : item ∈ items)
      (htext : item.Mentions text) : Mentions (.list items) text
  | name {members : List (String × Value)} {member : String × Value} (hmember : member ∈ members) :
      Mentions (.object members) member.1.toList
  | member {members : List (String × Value)} {member : String × Value} {text : List Char}
      (hmember : member ∈ members) (htext : member.2.Mentions text) :
      Mentions (.object members) text

/-! ## Spellings -/

/-- The characters that escapes are made of. -/
def escapeChars : List Char :=
  '\\' :: 'u' :: shortEscapes.map Prod.fst ++ lowerDigits ++ upperDigits

theorem SpellsUnit.mem_escapeChars {unit : Nat} {digits : List Char}
    (hdigits : SpellsUnit unit digits) : ∀ d ∈ digits, d ∈ escapeChars := by
  have hdigit : ∀ {value : Nat} {c : Char}, IsHexDigit value c → c ∈ escapeChars := by
    rintro value c (hlower | hupper)
    · exact List.mem_append_left _ (List.mem_append_right _ (List.mem_of_getElem? hlower))
    · exact List.mem_append_right _ (List.mem_of_getElem? hupper)
  obtain ⟨ha, hb, hc, hd⟩ := hdigits
  simp only [List.forall_mem_cons, List.not_mem_nil, false_implies, implies_true, and_true]
  exact ⟨hdigit ha, hdigit hb, hdigit hc, hdigit hd⟩

/-- A character is written as itself or by characters of escapes. -/
theorem SpellsChar.plain_or_escape {c : Char} {piece : List Char} (hpiece : SpellsChar c piece) :
    piece = [c] ∧ 32 ≤ c.toNat ∨ ∀ d ∈ piece, d ∈ escapeChars := by
  have hopening : '\\' ∈ escapeChars ∧ 'u' ∈ escapeChars := by decide
  cases hpiece with
  | plain hquote hbackslash hcontrol => exact .inl ⟨rfl, hcontrol⟩
  | short hletter =>
      right
      refine List.forall_mem_cons.mpr ⟨hopening.1, List.forall_mem_singleton.mpr ?_⟩
      exact List.mem_append_left _ (List.mem_append_left _
        (List.mem_cons_of_mem _ (List.mem_cons_of_mem _ (List.mem_map_of_mem hletter))))
  | numbered hdigits =>
      right
      exact List.forall_mem_cons.mpr ⟨hopening.1,
        List.forall_mem_cons.mpr ⟨hopening.2, hdigits.mem_escapeChars⟩⟩
  | paired hhigh hlow hc hfirst hsecond =>
      right
      have hescape : ∀ {unit digits}, SpellsUnit unit digits →
          ∀ d ∈ '\\' :: 'u' :: digits, d ∈ escapeChars := fun hdigits =>
        List.forall_mem_cons.mpr ⟨hopening.1,
          List.forall_mem_cons.mpr ⟨hopening.2, hdigits.mem_escapeChars⟩⟩
      intro d hd
      rcases List.mem_append.mp hd with hd | hd
      · exact hescape hfirst d hd
      · exact hescape hsecond d hd

theorem SpellsChar.ne_nil {c : Char} {piece : List Char} (hpiece : SpellsChar c piece) :
    piece ≠ [] := by
  cases hpiece <;> simp

theorem SpellsText.length_le {value body : List Char} (hbody : SpellsText value body) :
    value.length ≤ body.length := by
  induction hbody with
  | nil => exact Nat.le_refl 0
  | cons hpiece _ ih =>
      have hlength := List.length_pos_iff.mpr hpiece.ne_nil
      simp only [List.length_cons, List.length_append]
      omega

/-- A control character is never written as itself. -/
theorem SpellsText.not_mem {value body : List Char} (hbody : SpellsText value body) {c : Char}
    (hcontrol : c.toNat < 32) (hescape : c ∉ escapeChars) : c ∉ body := by
  induction hbody with
  | nil => exact List.not_mem_nil
  | cons hpiece _ ih =>
      rw [List.mem_append, not_or]
      refine ⟨?_, ih⟩
      rcases hpiece.plain_or_escape with ⟨rfl, hplain⟩ | hescapes
      · rw [List.mem_singleton]
        rintro rfl
        omega
      · exact fun hmem => hescape (hescapes c hmem)

/-- No line is broken inside of a token. -/
theorem Token.Spells.not_mem_breaks {token : Token} {piece : List Char}
    (hpiece : token.Spells piece) : '\n' ∉ piece ∧ '\r' ∉ piece := by
  cases hpiece with
  | mark hc =>
      simp only [List.mem_singleton]
      constructor
      · rintro rfl
        exact absurd hc (by decide)
      · rintro rfl
        exact absurd hc (by decide)
  | text hbody =>
      have hline := hbody.not_mem (c := '\n') (by decide) (by decide)
      have hreturn := hbody.not_mem (c := '\r') (by decide) (by decide)
      simp [hline, hreturn]

/-- A token starts with a character that is no white space. -/
theorem Token.Spells.exists_cons {token : Token} {piece : List Char}
    (hpiece : token.Spells piece) : ∃ c rest, piece = c :: rest ∧ c ∉ spaces := by
  cases hpiece with
  | mark hc =>
      refine ⟨_, [], rfl, fun hspace => ?_⟩
      simp only [marks, spaces, List.mem_cons, List.not_mem_nil, or_false] at hc hspace
      rcases hspace with rfl | rfl | rfl | rfl <;> revert hc <;> decide
  | text hbody => exact ⟨'"', _, rfl, by decide⟩

/-! ## Layouts -/

theorem isSpace_iff {c : Char} : isSpace c = true ↔ c ∈ spaces := by
  simp only [isSpace, spaces, Bool.or_eq_true, beq_iff_eq, List.mem_cons, List.not_mem_nil,
    or_false]
  tauto

theorem dropSpace_append {gap : List Char} (hgap : ∀ c ∈ gap, c ∈ spaces) {c : Char}
    (hc : c ∉ spaces) (text : List Char) : dropSpace (gap ++ c :: text) = c :: text :=
  Text.dropWhile_append_of_forall (fun d hd => isSpace_iff.mpr (hgap d hd))
    (Bool.eq_false_iff.mpr fun hspace => hc (isSpace_iff.mp hspace)) text

namespace Laid

variable {tokens : List Token} {text : List Char}

theorem dropSpace_eq_nil (hlaid : Laid [] text) : dropSpace text = [] := by
  cases hlaid with
  | nil hgap => exact List.dropWhile_eq_nil_iff.mpr fun c hc => isSpace_iff.mpr (hgap c hc)

/-- The next token is found behind the white space. -/
theorem exists_dropSpace {token : Token} (hlaid : Laid (token :: tokens) text) :
    ∃ piece rest, dropSpace text = piece ++ rest ∧ token.Spells piece ∧ Laid tokens rest := by
  cases hlaid with
  | cons hgap hpiece htext =>
      rename_i gap piece rest
      obtain ⟨c, back, rfl, hc⟩ := hpiece.exists_cons
      exact ⟨c :: back, rest, dropSpace_append hgap hc _, hpiece, htext⟩

theorem dropSpace_mark {c : Char} (hlaid : Laid (.mark c :: tokens) text) :
    ∃ rest, dropSpace text = c :: rest ∧ Laid tokens rest := by
  obtain ⟨piece, rest, htext, ⟨-⟩, hrest⟩ := hlaid.exists_dropSpace
  exact ⟨rest, htext, hrest⟩

/-- Dropping white space leaves a layout of the same tokens. -/
theorem dropSpace_laid {token : Token} (hlaid : Laid (token :: tokens) text) :
    Laid (token :: tokens) (dropSpace text) := by
  obtain ⟨piece, rest, htext, hpiece, hrest⟩ := hlaid.exists_dropSpace
  rw [htext]
  exact .cons (List.forall_mem_nil _) hpiece hrest

theorem length_le (hlaid : Laid tokens text) : tokens.length ≤ text.length := by
  induction hlaid with
  | nil => exact Nat.zero_le _
  | cons _ hpiece _ ih =>
      obtain ⟨c, rest, rfl, -⟩ := hpiece.exists_cons
      simp only [List.length_cons, List.length_append]
      omega

/-- A closing mark is the last character but for white space. -/
theorem exists_concat {c : Char} (hlaid : Laid (tokens ++ [.mark c]) text) :
    ∃ front gap, text = front ++ c :: gap ∧ (∀ d ∈ gap, d ∈ spaces) ∧
      Laid (tokens ++ [.mark c]) (front ++ [c]) := by
  induction tokens generalizing text with
  | nil =>
      cases hlaid with
      | cons hgap hpiece htext =>
          cases hpiece with
          | mark hc =>
              cases htext with
              | nil hback =>
                  refine ⟨_, _, rfl, hback, ?_⟩
                  exact .cons hgap (.mark hc) (.nil (List.forall_mem_nil _))
  | cons token tokens ih =>
      cases hlaid with
      | cons hgap hpiece htext =>
          obtain ⟨front, gap, rfl, hback, hfront⟩ := ih htext
          rename_i before piece
          refine ⟨before ++ (piece ++ front), gap, by simp only [List.append_assoc], hback, ?_⟩
          rw [List.append_assoc, List.append_assoc]
          exact .cons hgap hpiece hfront

/-- Between two marks stands a layout, with white space around it. -/
theorem exists_enclosed {opening closing : Char}
    (hlaid : Laid (.mark opening :: (tokens ++ [.mark closing])) text) :
    ∃ left middle right, text = left ++ opening :: (middle ++ closing :: right) ∧
      (∀ c ∈ left, c ∈ spaces) ∧ (∀ c ∈ right, c ∈ spaces) ∧
      Laid (.mark opening :: (tokens ++ [.mark closing])) (opening :: (middle ++ [closing])) := by
  cases hlaid with
  | cons hgap hpiece htext =>
      cases hpiece with
      | mark hc =>
          obtain ⟨middle, right, rfl, hright, hmiddle⟩ := htext.exists_concat
          exact ⟨_, middle, right, rfl, hgap, hright,
            .cons (List.forall_mem_nil _) (.mark hc) hmiddle⟩

end Laid

/-! ## Runs of back quotes -/

section BackQuotes

variable {run : List Char} (hrun : ∀ c ∈ run, c = '\x60')

include hrun

theorem prefix_of_spellsText {value body : List Char} (hbody : SpellsText value body)
    (hstart : run <+: body) : run <+: value := by
  induction hbody generalizing run with
  | nil => exact hstart
  | cons hpiece _ ih =>
      cases run with
      | nil => exact List.nil_prefix
      | cons c run =>
          obtain ⟨rfl, htail⟩ := List.forall_mem_cons.mp hrun
          rcases hpiece.plain_or_escape with ⟨rfl, -⟩ | hescapes
          · obtain ⟨rfl, hrest⟩ := List.cons_prefix_cons.mp hstart
            exact List.cons_prefix_cons.mpr ⟨rfl, ih htail hrest⟩
          · obtain ⟨d, piece, rfl⟩ := List.exists_cons_of_ne_nil hpiece.ne_nil
            obtain ⟨rfl, -⟩ := List.cons_prefix_cons.mp hstart
            exact absurd (hescapes _ List.mem_cons_self) (by decide)

variable (hne : run ≠ [])

include hne

/-- A run is not touched by a front without back quotes. -/
theorem infix_of_append_left {front rest : List Char} (hfront : '\x60' ∉ front)
    (hoccurs : run <:+: front ++ rest) : run <:+: rest := by
  induction front with
  | nil => exact hoccurs
  | cons d front ih =>
      rcases List.infix_cons_iff.mp hoccurs with hstart | hoccurs
      · obtain ⟨c, run, rfl⟩ := List.exists_cons_of_ne_nil hne
        obtain ⟨rfl, -⟩ := List.cons_prefix_cons.mp hstart
        obtain rfl := hrun _ List.mem_cons_self
        exact absurd List.mem_cons_self hfront
      · exact ih (List.not_mem_of_not_mem_cons hfront) hoccurs

/-- A run that is written in a text stands in the text: escapes make no back quotes. -/
theorem infix_of_spellsText {value body : List Char} (hbody : SpellsText value body)
    (hoccurs : run <:+: body) : run <:+: value := by
  induction hbody with
  | nil => exact hoccurs
  | cons hpiece hbody ih =>
      rcases hpiece.plain_or_escape with ⟨rfl, hplain⟩ | hescapes
      · rcases List.infix_cons_iff.mp hoccurs with hstart | hoccurs
        · exact (prefix_of_spellsText hrun (.cons hpiece hbody) hstart).isInfix
        · exact List.infix_cons (ih hoccurs)
      · refine List.infix_cons (ih (infix_of_append_left hrun hne ?_ hoccurs))
        exact fun hmem => absurd (hescapes _ hmem) (by decide)

/-- A run in a layout stands in one of its texts. -/
theorem Laid.exists_infix {tokens : List Token} {text : List Char} (hlaid : Laid tokens text)
    (hoccurs : run <:+: text) : ∃ value, .text value ∈ tokens ∧ run <:+: value := by
  have hspaces : ∀ {gap : List Char}, (∀ c ∈ gap, c ∈ spaces) → '\x60' ∉ gap :=
    fun hgap hmem => absurd (hgap _ hmem) (by decide)
  induction hlaid with
  | nil hgap =>
      have hnil : run <:+: [] :=
        infix_of_append_left hrun hne (hspaces hgap) (by rwa [List.append_nil])
      exact absurd (List.infix_nil.mp hnil) hne
  | cons hgap hpiece _ ih =>
      have hoccurs := infix_of_append_left hrun hne (hspaces hgap) hoccurs
      cases hpiece with
      | mark hc =>
          obtain ⟨value, hvalue, hrest⟩ := ih (infix_of_append_left hrun hne (fun hmem => by
            obtain rfl := List.mem_singleton.mp hmem
            exact absurd hc (by decide)) hoccurs)
          exact ⟨value, List.mem_cons_of_mem _ hvalue, hrest⟩
      | text hbody =>
          -- A quote ends the text, and no run goes across it.
          have hquote : '"' ∉ run := fun hmem => absurd (hrun _ hmem) (by decide)
          rw [List.append_assoc, List.cons_append] at hoccurs
          have hoccurs := infix_of_append_left hrun hne (show '\x60' ∉ ['"'] by decide) hoccurs
          rcases Text.infix_of_notMem hquote hoccurs with hvalue | hrest
          · exact ⟨_, List.mem_cons_self, infix_of_spellsText hrun hne hbody hvalue⟩
          · obtain ⟨value, hvalue, hrest⟩ := ih hrest
            exact ⟨value, List.mem_cons_of_mem _ hvalue, hrest⟩

end BackQuotes

/-! ## Written values -/

/-- The closing bracket comes last. -/
theorem exists_parted_eq (closing : Char) (isFirst : Bool) (parts : List (List Token)) :
    ∃ tokens, parted closing isFirst parts = tokens ++ [.mark closing] := by
  induction parts generalizing isFirst with
  | nil => exact ⟨[], by rw [parted, List.nil_append]⟩
  | cons part parts ih =>
      obtain ⟨tokens, heq⟩ := ih false
      cases isFirst with
      | true => exact ⟨part ++ tokens, by rw [parted, heq, List.append_assoc]⟩
      | false =>
          refine ⟨.mark ',' :: (part ++ tokens), ?_⟩
          rw [parted, heq, ← List.append_assoc, List.cons_append]

theorem text_mem_parted {closing : Char} {isFirst : Bool} {parts : List (List Token)}
    {text : List Char} (htext : .text text ∈ parted closing isFirst parts) :
    ∃ part ∈ parts, .text text ∈ part := by
  induction parts generalizing isFirst with
  | nil => simp [parted] at htext
  | cons part parts ih =>
      have hmem : .text text ∈ part ∨ .text text ∈ parted closing false parts := by
        cases isFirst <;> simpa [parted] using htext
      rcases hmem with hpart | hparts
      · exact ⟨part, List.mem_cons_self, hpart⟩
      · obtain ⟨other, hother, hpart⟩ := ih hparts
        exact ⟨other, List.mem_cons_of_mem _ hother, hpart⟩

mutual

/-- Every text among the tokens stands in the value. -/
theorem Written.mentions {value : Value} {tokens : List Token} :
    Written value tokens → ∀ {text : List Char}, .text text ∈ tokens → value.Mentions text
  | .text value, text, htext => by
      obtain rfl := Token.text.inj (List.mem_singleton.mp htext)
      exact .text value
  | .list hparts, text, htext => by
      obtain ⟨part, hpart, htext⟩ := text_mem_parted (by simpa using htext)
      obtain ⟨item, hitem, hmentions⟩ := hparts.mentions hpart htext
      exact .item hitem hmentions
  | .object horder hparts, text, htext => by
      obtain ⟨part, hpart, htext⟩ := text_mem_parted (by simpa using htext)
      obtain ⟨member, hmember, rfl | hmentions⟩ := hparts.mentions hpart htext
      · exact .name (horder.mem_iff.mp hmember)
      · exact .member (horder.mem_iff.mp hmember) hmentions

theorem WrittenItems.mentions {items : List Value} {parts : List (List Token)} :
    WrittenItems items parts → ∀ {part : List Token} {text : List Char}, part ∈ parts →
      .text text ∈ part → ∃ item ∈ items, item.Mentions text
  | .cons hfirst hparts, part, text, hpart, htext => by
      rcases List.mem_cons.mp hpart with heq | hpart
      · rw [heq] at htext
        exact ⟨_, List.mem_cons_self, hfirst.mentions htext⟩
      · obtain ⟨item, hitem, hmentions⟩ := hparts.mentions hpart htext
        exact ⟨item, List.mem_cons_of_mem _ hitem, hmentions⟩

theorem WrittenMembers.mentions {members : List (String × Value)} {parts : List (List Token)} :
    WrittenMembers members parts → ∀ {part : List Token} {text : List Char}, part ∈ parts →
      .text text ∈ part →
        ∃ member ∈ members, member.1.toList = text ∨ member.2.Mentions text
  | .cons hfirst hparts, part, text, hpart, htext => by
      rcases List.mem_cons.mp hpart with heq | hpart
      · rw [heq] at htext
        refine ⟨_, List.mem_cons_self, ?_⟩
        rcases List.mem_cons.mp htext with hname | hvalue
        · exact .inl (Token.text.inj hname).symm
        · exact .inr (hfirst.mentions (by simpa using hvalue))
      · obtain ⟨member, hmember, hmentions⟩ := hparts.mentions hpart htext
        exact ⟨member, List.mem_cons_of_mem _ hmember, hmentions⟩

end

end QueryWarden.Json
