import QueryWarden.Proofs.Sql.Constructs
import QueryWarden.Proofs.Text.Splitting

/-!
# What stands inside literals

The search for a result that is sent into a new table sees what stands behind an even number of
single quotes, and nothing else. A text is looked at as the stretches between its single quotes:
those at even places stand outside of literals, those at odd places are the contents of literals
and may be exchanged for any others.
-/

namespace QueryWarden.Sql

open QueryWarden.Text

/-! ## Masked places -/

/-- The character at a place is masked: it is no single quote, and an odd number of single quotes
precede it. -/
def IsMasked (sql : List Char) (place : Nat) : Prop :=
  sql[place]? ≠ some '\'' ∧ hasOddQuotes (sql.take place) = true

/-- Behind `before` the next places, as many as `length`, are neither masked nor single quotes. -/
def IsShown (sql before : List Char) (length : Nat) : Prop :=
  ∀ place, before.length ≤ place → place < before.length + length →
    ¬ IsMasked sql place ∧ sql[place]? ≠ some '\''

/-- The word that sends a result somewhere stands in the text where it is not masked. -/
def HasShownInto (sql : List Char) : Prop :=
  ∃ before word after, sql = before ++ word ++ after ∧
    word.map simpleFold = "INTO".toList.map simpleFold ∧ IsShown sql before word.length

/-- A result is sent into a new table, with blanks before the target, where it is not masked. -/
def HasShownTarget (sql : List Char) : Prop :=
  ∃ before word gap target after, sql = before ++ word ++ gap ++ target :: after ∧
    IsIntoTarget before word gap target ∧ gap ≠ [] ∧
    IsShown sql before (word ++ gap ++ [target]).length

theorem hasOddQuotes_append {clear : List Char} (hclear : '\'' ∉ clear) (before : List Char) :
    hasOddQuotes (before ++ clear) = hasOddQuotes before := by
  rw [hasOddQuotes, hasOddQuotes, List.count_append, List.count_eq_zero_of_not_mem hclear,
    Nat.add_zero]

/-- A stretch is shown exactly when it has no single quote and an even number of them before it. -/
theorem isShown_iff {before stretch : List Char} (hne : stretch ≠ []) (after : List Char) :
    IsShown (before ++ stretch ++ after) before stretch.length ↔
      hasOddQuotes before = false ∧ '\'' ∉ stretch := by
  have hplace : ∀ k, k < stretch.length →
      (before ++ stretch ++ after)[before.length + k]? = stretch[k]? := by
    intro k hk
    rw [List.append_assoc, List.getElem?_append_right (Nat.le_add_right ..),
      Nat.add_sub_cancel_left, List.getElem?_append_left hk]
  have htake : ∀ k, k ≤ stretch.length →
      (before ++ stretch ++ after).take (before.length + k) = before ++ stretch.take k := by
    intro k hk
    rw [List.append_assoc, List.take_length_add_append, List.take_append_of_le_length hk]
  constructor
  · intro hshown
    have hpos : 0 < stretch.length := List.length_pos_iff.mpr hne
    refine ⟨?_, fun hmem => ?_⟩
    · obtain ⟨hmask, hquote⟩ := hshown before.length le_rfl (Nat.lt_add_of_pos_right hpos)
      have hstart := htake 0 (Nat.zero_le _)
      rw [List.take_zero, List.append_nil, Nat.add_zero] at hstart
      by_contra hodd
      rw [Bool.not_eq_false] at hodd
      exact hmask ⟨hquote, by rw [hstart, hodd]⟩
    · obtain ⟨k, hk, hget⟩ := List.mem_iff_getElem.mp hmem
      refine (hshown (before.length + k) (Nat.le_add_right ..) (Nat.add_lt_add_left hk _)).2 ?_
      rw [hplace k hk, List.getElem?_eq_getElem hk, hget]
  · rintro ⟨heven, hclear⟩ place hle hlt
    obtain ⟨k, rfl⟩ := Nat.exists_eq_add_of_le hle
    have hk : k < stretch.length := Nat.lt_of_add_lt_add_left hlt
    have hquote : (before ++ stretch ++ after)[before.length + k]? ≠ some '\'' := by
      rw [hplace k hk]
      exact fun hget => hclear (List.mem_of_getElem? hget)
    refine ⟨?_, hquote⟩
    rintro ⟨-, hodd⟩
    have hclearTake : '\'' ∉ stretch.take k := fun hmem => hclear (List.mem_of_mem_take hmem)
    rw [htake k hk.le, hasOddQuotes_append hclearTake, heven] at hodd
    exact Bool.false_ne_true hodd

/-- The masked text is searched for exactly what the text shows. -/
theorem intoTarget_occursIn_iff_shown (sql : List Char) :
    intoTarget.occursIn (maskLiterals false sql) = true ↔ HasShownTarget sql := by
  rw [intoTarget_occursIn_maskLiterals_iff]
  refine exists_congr fun before => exists_congr fun word => exists_congr fun gap =>
    exists_congr fun target => exists_congr fun after => ?_
  refine and_congr_right fun hsql => and_congr_right fun hinto => and_congr_right fun _ => ?_
  have hcut : sql = before ++ (word ++ gap ++ [target]) ++ after := by
    rw [hsql]
    simp
  rw [hcut, isShown_iff (by simp), and_iff_left hinto.quote_notMem]

theorem HasShownTarget.hasShownInto {sql : List Char} (hshown : HasShownTarget sql) :
    HasShownInto sql := by
  obtain ⟨before, word, gap, target, after, rfl, hinto, -, hplaces⟩ := hshown
  refine ⟨before, word, gap ++ target :: after, by simp, hinto.spelled, fun place hle hlt => ?_⟩
  refine hplaces place hle (hlt.trans_le ?_)
  simp only [List.length_append]
  omega

/-! ## Stretches between single quotes -/

/-- The stretches of the text between its single quotes. -/
def quoteStretches (sql : List Char) : List (List Char) :=
  splitWhere (· == '\'') sql

/-- Two texts have the same stretches outside of literals; what stands inside may differ. -/
def SameOutsideLiterals (sql other : List Char) : Prop :=
  ∀ place, place % 2 = 0 → (quoteStretches other)[place]? = (quoteStretches sql)[place]?

/-- One of the stretches outside of literals has the property. Inside a literal the stretches at
odd places stand outside. -/
def HasOutside (property : List Char → Prop) (inside : Bool) (stretches : List (List Char)) : Prop :=
  ∃ place stretch, stretches[place]? = some stretch ∧ place % 2 = inside.toNat ∧ property stretch

theorem hasOutside_cons (property : List Char → Prop) (inside : Bool) (stretch : List Char)
    (stretches : List (List Char)) :
    HasOutside property inside (stretch :: stretches) ↔
      (inside = false ∧ property stretch) ∨ HasOutside property (!inside) stretches := by
  constructor
  · rintro ⟨place, other, hplace, hparity, hother⟩
    cases place with
    | zero =>
        obtain rfl := Option.some.inj hplace
        refine .inl ⟨?_, hother⟩
        cases inside with
        | false => rfl
        | true => cases hparity
    | succ place =>
        refine .inr ⟨place, other, hplace, ?_, hother⟩
        cases inside <;> simp only [Bool.not_true, Bool.not_false, Bool.toNat_true,
          Bool.toNat_false] at hparity ⊢ <;> omega
  · rintro (⟨rfl, hstretch⟩ | ⟨place, other, hplace, hparity, hother⟩)
    · exact ⟨0, stretch, rfl, rfl, hstretch⟩
    · refine ⟨place + 1, other, hplace, ?_, hother⟩
      cases inside <;> simp only [Bool.not_true, Bool.not_false, Bool.toNat_true,
        Bool.toNat_false] at hparity ⊢ <;> omega

theorem not_hasOutside_nil (property : List Char → Prop) (inside : Bool) :
    ¬ HasOutside property inside [] := by
  rintro ⟨place, stretch, hplace, -⟩
  cases hplace

/-! ## Searching between quotes -/

theorem dropSomeBlanks_append_cons {c : Char} (hc : isBlank c = false) (rest : List Char) :
    Commutes dropSomeBlanks (· ++ c :: rest) := by
  intro text
  cases text with
  | nil => simp [dropSomeBlanks, hc]
  | cons d text =>
      simp only [List.cons_append, dropSomeBlanks, dropBlanks, dropWhile_append_cons hc]
      split <;> rfl

/-- A single quote parts a text into places where a result is sent into a new table. -/
theorem intoTarget_occursIn_append_quote (text rest : List Char) :
    intoTarget.occursIn (text ++ '\'' :: rest) =
      (intoTarget.occursIn text || intoTarget.occursIn rest) := by
  have hinto : IsPlainWord "into".toList := by decide
  have hquote : isWordChar '\'' = false := by decide
  have htarget : Commutes (readOne startsTarget) (· ++ '\'' :: rest) := by
    intro text
    cases text with
    | nil => simp [readOne, (by decide : startsTarget '\'' = false)]
    | cons c text =>
        simp only [List.cons_append, readOne]
        split <;> rfl
  have hread : Commutes readIntoTarget (· ++ '\'' :: rest) :=
    Commutes.bind (fun text => dropWord_append_cons hinto.2 hquote text rest)
      ((dropSomeBlanks_append_cons (by decide) rest).bind htarget)
  rw [intoTarget_eq]
  exact occursIn_append hquote hread text

theorem intoTarget_occursIn_blanks {text : List Char} (hblank : ∀ c ∈ text, isBlank c = true) :
    intoTarget.occursIn text = false := by
  obtain ⟨read, hinto, hsolid, -⟩ := isSteady_intoTarget
  rw [hinto]
  exact occursIn_blanks hsolid hblank

/-- Of a stretch inside a literal only blanks are left, and a stretch outside stays. -/
theorem intoTarget_occursIn_maskLiterals_clear (inside : Bool) {stretch : List Char}
    (hclear : '\'' ∉ stretch) :
    intoTarget.occursIn (maskLiterals inside stretch) =
      (!inside && intoTarget.occursIn stretch) := by
  cases inside with
  | false =>
      have hmask := maskLiterals_clear_append hclear []
      simp only [maskLiterals, List.append_nil] at hmask
      rw [hmask]
      rfl
  | true =>
      refine intoTarget_occursIn_blanks ?_
      induction stretch with
      | nil => simp [maskLiterals]
      | cons c stretch ih =>
          simp only [List.mem_cons, not_or] at hclear
          rw [maskLiterals, if_neg (Ne.symm hclear.1), List.forall_mem_cons]
          exact ⟨rfl, ih hclear.2⟩

/-- The search finds what it finds in one of the stretches outside of literals. -/
theorem intoTarget_occursIn_iff_stretch (inside : Bool) (sql : List Char) :
    intoTarget.occursIn (maskLiterals inside sql) = true ↔
      HasOutside (fun stretch => intoTarget.occursIn stretch = true) inside
        (quoteStretches sql) := by
  have hhere : ∀ inside {stretch}, IsClear (· == '\'') stretch →
      (intoTarget.occursIn (maskLiterals inside stretch) = true ↔
        inside = false ∧ intoTarget.occursIn stretch = true) := by
    intro inside stretch hclear
    have hquote : '\'' ∉ stretch := fun hmem => absurd (hclear _ hmem) (by decide)
    rw [intoTarget_occursIn_maskLiterals_clear inside hquote, Bool.and_eq_true, Bool.not_eq_true']
  induction sql using cutInduction (· == '\'') generalizing inside with
  | clear text hclear =>
      rw [quoteStretches, splitWhere_clear hclear, hasOutside_cons, hhere inside hclear,
        or_iff_left (not_hasOutside_nil _ _)]
  | part piece c rest hpiece hc ih =>
      obtain rfl : c = '\'' := beq_iff_eq.mp hc
      -- A quote turns inside into outside and is itself kept.
      have hodd : hasOddQuotes piece = false := by
        have hclear : '\'' ∉ piece := fun hmem => absurd (hpiece _ hmem) (by decide)
        exact hasOddQuotes_append hclear []
      have hmask : maskLiterals inside (piece ++ '\'' :: rest) =
          maskLiterals inside piece ++ '\'' :: maskLiterals (!inside) rest := by
        rw [maskLiterals_append, hodd, Bool.xor_false, maskLiterals, if_pos rfl]
      have hsplit : quoteStretches (piece ++ '\'' :: rest) = piece :: quoteStretches rest :=
        splitWhere_append_cons hpiece hc rest
      have hrest : intoTarget.occursIn (maskLiterals (!inside) rest) = true ↔
          HasOutside (fun stretch => intoTarget.occursIn stretch = true) (!inside)
            (quoteStretches rest) := ih (!inside)
      rw [hmask, hsplit, intoTarget_occursIn_append_quote, Bool.or_eq_true, hhere inside hpiece,
        hrest, hasOutside_cons]

/-- The search for a result that is sent into a new table finds exactly what the text shows outside
of literals. So what stands between the single quotes of a literal may be exchanged for anything
else without single quotes, and without the word outside of literals nothing is found. -/
theorem into_check_ignores_contents (sql : List Char) :
    (intoTarget.occursIn (maskLiterals false sql) = true ↔ HasShownTarget sql) ∧
      (∀ other, SameOutsideLiterals sql other →
        intoTarget.occursIn (maskLiterals false other) =
          intoTarget.occursIn (maskLiterals false sql)) ∧
      (¬ HasShownInto sql → intoTarget.occursIn (maskLiterals false sql) = false) := by
  refine ⟨intoTarget_occursIn_iff_shown sql, ?_, ?_⟩
  · intro other hsame
    rw [Bool.eq_iff_iff, intoTarget_occursIn_iff_stretch, intoTarget_occursIn_iff_stretch]
    refine exists_congr fun place => exists_congr fun stretch => ?_
    rw [and_left_comm, and_left_comm (a := _ = some stretch)]
    exact and_congr_right fun hparity => by rw [hsame place hparity]
  · intro hnone
    rw [Bool.eq_false_iff, Ne, intoTarget_occursIn_iff_shown]
    exact fun hshown => hnone hshown.hasShownInto

/-- Other contents of the literals, the word with a target among them, hide no target that is shown
and show none. -/
theorem into_check_ignores_contents_storage :
    (intoTarget.occursIn (maskLiterals false "SELECT 'into x' INTO t".toList) = true ↔
        HasShownTarget "SELECT 'into x' INTO t".toList) ∧
      intoTarget.occursIn (maskLiterals false "SELECT '' INTO t".toList) =
        intoTarget.occursIn (maskLiterals false "SELECT 'into x' INTO t".toList) ∧
      intoTarget.occursIn (maskLiterals false "WHERE note = 'into x'".toList) =
        intoTarget.occursIn (maskLiterals false "WHERE note = 'y'".toList) ∧
      intoTarget.occursIn (maskLiterals false "WHERE note = 'y'".toList) = false := by
  have hshows := into_check_ignores_contents "SELECT 'into x' INTO t".toList
  have hhides := into_check_ignores_contents "WHERE note = 'y'".toList
  refine ⟨hshows.1, hshows.2.1 _ ?_, hhides.2.1 _ ?_, hhides.2.2 ?_⟩
  · intro place hparity
    have hother : quoteStretches "SELECT '' INTO t".toList =
        ["SELECT ".toList, [], " INTO t".toList] := by decide
    have hsql : quoteStretches "SELECT 'into x' INTO t".toList =
        ["SELECT ".toList, "into x".toList, " INTO t".toList] := by decide
    rw [hother, hsql]
    match place, hparity with
    | 0, _ | 2, _ | _ + 3, _ => rfl
  · intro place hparity
    have hother : quoteStretches "WHERE note = 'into x'".toList =
        ["WHERE note = ".toList, "into x".toList, []] := by decide
    have hsql : quoteStretches "WHERE note = 'y'".toList =
        ["WHERE note = ".toList, "y".toList, []] := by decide
    rw [hother, hsql]
    match place, hparity with
    | 0, _ | 2, _ | _ + 3, _ => rfl
  · rintro ⟨before, word, after, hsql, hword, -⟩
    -- No letter of the text is the first of the word.
    have hletter : 'i' ∈ word.map simpleFold := by rw [hword]; decide
    have hmem : 'i' ∈ ("WHERE note = 'y'".toList).map simpleFold := by
      rw [hsql]
      simp only [List.map_append, List.mem_append]
      exact .inl (.inr hletter)
    revert hmem
    decide

end QueryWarden.Sql
