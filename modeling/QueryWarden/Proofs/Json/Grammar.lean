import QueryWarden.Proofs.Json.Layout

/-!
# The grammar of JSON texts

Which texts are values, with no regard to what they stand for: words, numbers, texts between quotes,
lists and objects, with white space between the parts. The grammar is independent of the readers.
-/

namespace QueryWarden.Json

/-! ## Parts -/

/-- The text is white space. -/
def IsGap (text : List Char) : Prop :=
  ∀ c ∈ text, c ∈ spaces

/-- Parts with commas between them, the closing bracket behind, and white space around each. What
comes first is a part, or a comma if parts have gone before. -/
inductive Joined (closing : Char) : Bool → List (List Char) → List Char → Prop
  | closed {isFirst : Bool} {gap : List Char} (hgap : IsGap gap) :
      Joined closing isFirst [] (gap ++ [closing])
  | first {part rest gap : List Char} {parts : List (List Char)} (hgap : IsGap gap)
      (hrest : Joined closing false parts rest) :
      Joined closing true (part :: parts) (gap ++ (part ++ rest))
  | next {part rest before after : List Char} {parts : List (List Char)} (hbefore : IsGap before)
      (hafter : IsGap after) (hrest : Joined closing false parts rest) :
      Joined closing false (part :: parts) (before ++ ',' :: (after ++ (part ++ rest)))

/-- A member of an object: its name, how that is written, the white space before and after the
colon, and the text of its value. -/
structure Member where
  name : List Char
  body : List Char
  before : List Char
  after : List Char
  value : List Char
  spells : SpellsText name body
  isGap_before : IsGap before
  isGap_after : IsGap after

/-- The text of a member. -/
def Member.text (member : Member) : List Char :=
  '"' :: (member.body ++ '"' :: (member.before ++ ':' :: (member.after ++ member.value)))

/-! ## Values -/

/-- Some digits. -/
inductive IsDigits : List Char → Prop
  | mk {c : Char} {digits : List Char} (hc : c.isDigit = true)
      (hdigits : ∀ d ∈ digits, d.isDigit = true) : IsDigits (c :: digits)

/-- A whole number without needless zeros in front. -/
inductive IsWhole : List Char → Prop
  | zero : IsWhole ['0']
  | digits {c : Char} {digits : List Char} (hc : c.isDigit = true) (hzero : c ≠ '0')
      (hdigits : ∀ d ∈ digits, d.isDigit = true) : IsWhole (c :: digits)

/-- What may follow a whole number behind a point. -/
inductive IsFraction : List Char → Prop
  | none : IsFraction []
  | some {digits : List Char} (hdigits : IsDigits digits) : IsFraction ('.' :: digits)

/-- The exponent that may end a number. -/
inductive IsExponent : List Char → Prop
  | none : IsExponent []
  | some {mark : Char} {sign digits : List Char} (hmark : mark ∈ ['e', 'E'])
      (hsign : sign ∈ [[], ['+'], ['-']]) (hdigits : IsDigits digits) :
      IsExponent (mark :: (sign ++ digits))

/-- A number without its sign. -/
inductive IsMagnitude : List Char → Prop
  | mk {whole fraction exponent : List Char} (hwhole : IsWhole whole)
      (hfraction : IsFraction fraction) (hexponent : IsExponent exponent) :
      IsMagnitude (whole ++ (fraction ++ exponent))

/-- The text is a value, without white space in front. -/
inductive IsValue : List Char → Prop
  | null : IsValue "null".toList
  | true : IsValue "true".toList
  | false : IsValue "false".toList
  | positive {number : List Char} (hnumber : IsMagnitude number) : IsValue number
  | negative {number : List Char} (hnumber : IsMagnitude number) : IsValue ('-' :: number)
  | text {value body : List Char} (hbody : SpellsText value body) : IsValue ('"' :: (body ++ ['"']))
  | list {parts : List (List Char)} {rest : List Char} (hparts : ∀ part ∈ parts, IsValue part)
      (hrest : Joined ']' Bool.true parts rest) : IsValue ('[' :: rest)
  | object {members : List Member} {rest : List Char}
      (hmembers : ∀ member ∈ members, IsValue member.value)
      (hrest : Joined '\x7d' Bool.true (members.map Member.text) rest) : IsValue ('\x7b' :: rest)

/-! ## Fronts and backs -/

/-- The text starts with something else than white space or a closing bracket. -/
def StartsValue (text : List Char) : Prop :=
  ∃ c rest, text = c :: rest ∧ c ∉ spaces ∧ c ≠ ']' ∧ c ≠ '\x7d'

/-- The characters that may follow a value. -/
def followers : List Char := ',' :: ']' :: '\x7d' :: spaces

/-- The text may follow a value. -/
def Follows (text : List Char) : Prop :=
  ∀ c ∈ text.head?, c ∈ followers

theorem IsGap.nil : IsGap [] := List.forall_mem_nil _

theorem dropSpace_gap_append {gap : List Char} (hgap : IsGap gap) {text : List Char}
    (htext : StartsValue text) (rest : List Char) :
    dropSpace (gap ++ (text ++ rest)) = text ++ rest := by
  obtain ⟨c, back, rfl, hc, -⟩ := htext
  exact dropSpace_append hgap hc _

theorem IsGap.follows_append {gap rest : List Char} (hgap : IsGap gap) (hrest : Follows rest) :
    Follows (gap ++ rest) := by
  cases gap with
  | nil => exact hrest
  | cons c gap =>
      intro d hd
      obtain rfl : c = d := by simpa using hd
      have hc := hgap c List.mem_cons_self
      exact List.mem_cons_of_mem _ (List.mem_cons_of_mem _ (List.mem_cons_of_mem _ hc))

theorem follows_cons {c : Char} (hc : c ∈ followers) (text : List Char) : Follows (c :: text) := by
  intro d hd
  obtain rfl : c = d := by simpa using hd
  exact hc

/-- A comma or a closing bracket follows a part. -/
theorem Joined.follows {closing : Char} (hclosing : closing ∈ followers) {parts : List (List Char)}
    {text : List Char} (hjoined : Joined closing false parts text) (more : List Char) :
    Follows (text ++ more) := by
  cases hjoined with
  | closed hgap =>
      rw [List.append_assoc]
      exact hgap.follows_append (follows_cons hclosing _)
  | next hbefore hafter hrest =>
      rw [List.append_assoc]
      exact hbefore.follows_append (follows_cons (by decide) _)

theorem startsValue_cons {c : Char} (hc : c ∉ spaces) (hlist : c ≠ ']') (hobject : c ≠ '\x7d')
    (rest : List Char) : StartsValue (c :: rest) :=
  ⟨c, rest, rfl, hc, hlist, hobject⟩

/-- There are no more parts than characters: but for the first each has its comma, and a bracket is
closed behind them. -/
theorem Joined.length_le {closing : Char} {isFirst : Bool} {parts : List (List Char)}
    {text : List Char} (hjoined : Joined closing isFirst parts text) :
    parts.length ≤ text.length ∧ (isFirst = false → parts.length < text.length) := by
  induction hjoined with
  | closed hgap => simp
  | first hgap _ ih =>
      have hlength := ih.2 rfl
      simp only [List.length_cons, List.length_append]
      exact ⟨by omega, nofun⟩
  | next hbefore hafter _ ih =>
      have hlength := ih.2 rfl
      simp only [List.length_cons, List.length_append]
      exact ⟨by omega, fun _ => by omega⟩

end QueryWarden.Json
