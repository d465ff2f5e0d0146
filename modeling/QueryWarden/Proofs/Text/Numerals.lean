import QueryWarden.Text.Integer
import Mathlib.Data.Nat.Basic
import Mathlib.Tactic.IntervalCases

/-!
# Decimal numerals

A numeral loses its last digit when its number is divided by ten. From this the width of a padded
numeral and its value follow by induction on the width. The numeral of a machine word is read as the
word.
-/

namespace QueryWarden.Text

theorem digitValue?_digitChar {digit : Nat} (hdigit : digit < 10) :
    digitValue? (digitChar digit) = some digit := by
  interval_cases digit <;> rfl

/-! ## Digits -/

theorem pushDigits_append (base fuel number : Nat) (digits rest : List Char) :
    pushDigits base fuel number (digits ++ rest) = pushDigits base fuel number digits ++ rest := by
  induction fuel generalizing number digits with
  | zero => rfl
  | succ fuel ih =>
      simp only [pushDigits]
      split
      · rfl
      · exact ih (number / base) (_ :: digits)

/-- Any fuel beyond the number writes all of its digits. -/
theorem pushDigits_fuel {fuel number : Nat} (hfuel : number < fuel) (digits : List Char) :
    pushDigits 10 fuel number digits = pushDigits 10 (number + 1) number digits := by
  induction number using Nat.strongRecOn generalizing fuel digits with
  | ind number ih =>
      obtain ⟨fuel, rfl⟩ := Nat.exists_eq_add_of_lt hfuel
      rw [pushDigits, pushDigits]
      split
      · rfl
      · have hless : number / 10 < number := by omega
        simp only [ih _ hless (show number / 10 < number + fuel by omega),
          ih _ hless (show number / 10 < number by omega)]

theorem decimalNumeral_of_lt {number : Nat} (hnumber : number < 10) :
    decimalNumeral number = [digitChar number] := by
  rw [decimalNumeral, pushDigits, if_pos hnumber, Nat.mod_eq_of_lt hnumber]

/-- The last digit comes off the end. -/
theorem decimalNumeral_of_le {number : Nat} (hnumber : 10 ≤ number) :
    decimalNumeral number = decimalNumeral (number / 10) ++ [digitChar (number % 10)] := by
  rw [decimalNumeral, pushDigits, if_neg (Nat.not_lt.mpr hnumber),
    pushDigits_fuel (show number / 10 < number by omega), decimalNumeral, ← pushDigits_append]
  rfl

theorem decimalNumeral_ne_nil (number : Nat) : decimalNumeral number ≠ [] := by
  rcases Nat.lt_or_ge number 10 with hless | hge
  · rw [decimalNumeral_of_lt hless]
    exact List.cons_ne_nil _ _
  · rw [decimalNumeral_of_le hge]
    exact List.append_ne_nil_of_right_ne_nil _ (List.cons_ne_nil _ _)

/-- The last digit of a padded numeral comes off the end as well. -/
theorem paddedNumeral_succ {width : Nat} (hwidth : 0 < width) (number : Nat) :
    paddedNumeral (width + 1) number =
      paddedNumeral width (number / 10) ++ [digitChar (number % 10)] := by
  obtain ⟨width, rfl⟩ := Nat.exists_eq_succ_of_ne_zero hwidth.ne'
  simp only [paddedNumeral, padStart]
  rcases Nat.lt_or_ge number 10 with hnumber | hnumber
  · -- A number of one digit leaves a zero, which counts as padding.
    rw [decimalNumeral_of_lt hnumber, Nat.div_eq_of_lt hnumber, Nat.mod_eq_of_lt hnumber,
      decimalNumeral_of_lt (by decide : 0 < 10)]
    rw [List.length_singleton, List.length_singleton, Nat.add_sub_cancel, Nat.succ_sub_one,
      List.replicate_succ']
    rfl
  · rw [decimalNumeral_of_le hnumber, List.length_append, List.length_singleton,
      Nat.add_sub_add_right, List.append_assoc]

/-! ## Width and value -/

theorem paddedNumeral_one {number : Nat} (hnumber : number < 10) :
    paddedNumeral 1 number = [digitChar number] := by
  rw [paddedNumeral, decimalNumeral_of_lt hnumber]
  rfl

theorem div_ten_lt {width number : Nat} (hnumber : number < 10 ^ (width + 1)) :
    number / 10 < 10 ^ width :=
  Nat.div_lt_of_lt_mul (by rwa [Nat.mul_comm, ← Nat.pow_succ])

theorem le_length_paddedNumeral (width number : Nat) :
    width ≤ (paddedNumeral width number).length := by
  simp only [paddedNumeral, padStart, List.length_append, List.length_replicate]
  omega

theorem length_paddedNumeral {width number : Nat} (hwidth : 0 < width)
    (hnumber : number < 10 ^ width) : (paddedNumeral width number).length = width := by
  induction width, hwidth using Nat.le_induction generalizing number with
  | base => rw [paddedNumeral_one hnumber, List.length_singleton]
  | succ width hwidth ih =>
      rw [paddedNumeral_succ hwidth, List.length_append, ih (div_ten_lt hnumber),
        List.length_singleton]

theorem foldDigits?_append (value : Nat) (digits rest : List Char) :
    foldDigits? value (digits ++ rest) =
      (foldDigits? value digits).bind fun value => foldDigits? value rest := by
  induction digits generalizing value with
  | nil => rfl
  | cons c digits ih =>
      rw [List.cons_append, foldDigits?, foldDigits?, Option.bind_assoc]
      exact congrArg _ (funext fun digit => ih _)

/-- A numeral that is padded to a width stands for its number. -/
theorem foldDigits?_paddedNumeral {width number : Nat} (hwidth : 0 < width)
    (hnumber : number < 10 ^ width) (value : Nat) :
    foldDigits? value (paddedNumeral width number) = some (value * 10 ^ width + number) := by
  induction width, hwidth using Nat.le_induction generalizing number with
  | base =>
      rw [paddedNumeral_one hnumber, foldDigits?, digitValue?_digitChar hnumber]
      rfl
  | succ width hwidth ih =>
      rw [paddedNumeral_succ hwidth, foldDigits?_append, ih (div_ten_lt hnumber),
        Option.bind_some, foldDigits?, digitValue?_digitChar (Nat.mod_lt _ (by decide)),
        Option.bind_some, foldDigits?, Nat.pow_succ, ← Nat.mul_assoc, Nat.add_mul, Nat.add_assoc,
        Nat.div_add_mod']

theorem paddedNumeral_inj {width number other : Nat} (hwidth : 0 < width)
    (hnumber : number < 10 ^ width) (hother : other < 10 ^ width) :
    paddedNumeral width number = paddedNumeral width other ↔ number = other := by
  constructor
  · intro hnumeral
    have hvalue := foldDigits?_paddedNumeral hwidth hnumber 0
    rw [hnumeral, foldDigits?_paddedNumeral hwidth hother, Nat.zero_mul, Nat.zero_add,
      Nat.zero_add] at hvalue
    exact (Option.some.inj hvalue).symm
  · rintro rfl
    rfl

theorem isDigit_of_foldDigits? {digits : List Char} {value number : Nat}
    (hfold : foldDigits? value digits = some number) : ∀ c ∈ digits, c.isDigit = true := by
  induction digits generalizing value with
  | nil => nofun
  | cons c digits ih =>
      rw [foldDigits?] at hfold
      obtain ⟨digit, hdigit, hfold⟩ := Option.bind_eq_some_iff.mp hfold
      rw [digitValue?] at hdigit
      refine List.forall_mem_cons.mpr ⟨?_, ih hfold⟩
      split at hdigit
      next hc => exact hc
      next => cases hdigit

/-! ## Numerals and numbers -/

/-- A numeral stands for its number. -/
theorem foldDigits?_decimalNumeral (number : Nat) :
    foldDigits? 0 (decimalNumeral number) = some number := by
  induction number using Nat.strongRecOn with
  | ind number ih =>
      rcases Nat.lt_or_ge number 10 with hless | hge
      · rw [decimalNumeral_of_lt hless, foldDigits?, digitValue?_digitChar hless]
        simp [foldDigits?]
      · rw [decimalNumeral_of_le hge, foldDigits?_append, ih _ (by omega), Option.bind_some,
          foldDigits?, digitValue?_digitChar (Nat.mod_lt _ (by decide)), Option.bind_some,
          foldDigits?, Nat.div_add_mod']

theorem isDigit_of_mem_decimalNumeral {number : Nat} {c : Char} (hc : c ∈ decimalNumeral number) :
    c.isDigit = true :=
  isDigit_of_foldDigits? (foldDigits?_decimalNumeral number) c hc

theorem decimalNumeral_injective : Function.Injective decimalNumeral := by
  intro number other hnumeral
  have hvalue := foldDigits?_decimalNumeral number
  rw [hnumeral, foldDigits?_decimalNumeral] at hvalue
  exact (Option.some.inj hvalue).symm

/-- A numeral with a sign is a minus or nothing in front of digits. -/
theorem mem_integerNumeral {number : Int} {c : Char} (hc : c ∈ integerNumeral number) :
    c = '-' ∨ c.isDigit = true := by
  rw [integerNumeral] at hc
  split at hc
  · exact (List.mem_cons.mp hc).imp_right isDigit_of_mem_decimalNumeral
  · exact .inr (isDigit_of_mem_decimalNumeral hc)

theorem integerNumeral_injective : Function.Injective integerNumeral := by
  -- A minus is no digit, so numbers of different signs have different numerals.
  have hminus : ∀ number other : Nat, '-' :: decimalNumeral number ≠ decimalNumeral other := by
    intro number other heq
    have hdigit := isDigit_of_mem_decimalNumeral (heq ▸ List.mem_cons_self)
    exact absurd hdigit (by decide)
  intro number other hnumeral
  rw [integerNumeral, integerNumeral] at hnumeral
  split at hnumeral <;> split at hnumeral
  · have habs := decimalNumeral_injective (List.cons.inj hnumeral).2
    omega
  · exact absurd hnumeral (hminus _ _)
  · exact absurd hnumeral.symm (hminus _ _)
  · have habs := decimalNumeral_injective hnumeral
    omega

/-! ## Numerals of machine words -/

theorem le_of_foldDigits? {digits : List Char} {value number : Nat}
    (hfold : foldDigits? value digits = some number) : value ≤ number := by
  induction digits generalizing value with
  | nil => exact Nat.le_of_eq (Option.some.inj hfold)
  | cons c digits ih =>
      rw [foldDigits?] at hfold
      obtain ⟨digit, -, hfold⟩ := Option.bind_eq_some_iff.mp hfold
      have hle := ih hfold
      omega

/-- Digits are read up to the greatest word: what they stand for so far is never beyond the number
that they stand for in the end. -/
theorem WordRange.readDigits_of_foldDigits? {range : WordRange} (hleast : range.least ≤ 0)
    {digits : List Char} {value number : Nat} (hfold : foldDigits? value digits = some number)
    (hgreatest : (number : Int) ≤ range.greatest) :
    range.readDigits 1 digits value = .ok number := by
  induction digits generalizing value with
  | nil =>
      obtain rfl := Option.some.inj hfold
      rfl
  | cons c digits ih =>
      rw [foldDigits?] at hfold
      obtain ⟨digit, hdigit, hfold⟩ := Option.bind_eq_some_iff.mp hfold
      have hle := le_of_foldDigits? hfold
      have hvalue : (value : Int) * 10 + 1 * digit = (value * 10 + digit : Nat) := by omega
      unfold readDigits
      rw [hdigit]
      simp only [hvalue]
      rw [if_neg (by omega), if_neg (by omega)]
      exact ih hfold

theorem WordRange.read_of_isDigit (range : WordRange) {text : List Char} (hne : text ≠ [])
    (hdigits : ∀ c ∈ text, c.isDigit = true) : range.read text = range.readDigits 1 text 0 := by
  have hsign : ∀ c rest, text = c :: rest → c ≠ '+' ∧ c ≠ '-' := by
    intro c rest htext
    have hdigit := hdigits c (htext ▸ List.mem_cons_self)
    constructor
    · rintro rfl
      exact absurd hdigit (by decide)
    · rintro rfl
      exact absurd hdigit (by decide)
  unfold read
  split
  · exact absurd rfl hne
  · exact absurd rfl (hsign _ _ rfl).1
  · exact absurd rfl (hsign _ _ rfl).2
  · exact absurd rfl (hsign _ _ rfl).1
  · exact absurd rfl (hsign _ _ rfl).2
  · rfl

/-- The numeral of a word is read as the word. -/
theorem WordRange.read_decimalNumeral {range : WordRange} (hleast : range.least ≤ 0) {number : Nat}
    (hgreatest : (number : Int) ≤ range.greatest) :
    range.read (decimalNumeral number) = .ok number := by
  have hfold := foldDigits?_decimalNumeral number
  rw [range.read_of_isDigit (decimalNumeral_ne_nil number) fun _ => isDigit_of_mem_decimalNumeral]
  exact readDigits_of_foldDigits? hleast hfold hgreatest

/-- Digits that are read stand for what is read. -/
theorem WordRange.eq_of_readDigits {range : WordRange} {digits : List Char} {value number : Nat}
    {result : Int} (hfold : foldDigits? value digits = some number)
    (hread : range.readDigits 1 digits value = .ok result) : result = number := by
  induction digits generalizing value with
  | nil =>
      obtain rfl := Option.some.inj hfold
      exact (Except.ok.inj hread).symm
  | cons c digits ih =>
      rw [foldDigits?] at hfold
      obtain ⟨digit, hdigit, hfold⟩ := Option.bind_eq_some_iff.mp hfold
      have hvalue : (value : Int) * 10 + 1 * digit = (value * 10 + digit : Nat) := by omega
      unfold readDigits at hread
      rw [hdigit] at hread
      simp only [hvalue] at hread
      split at hread
      · cases hread
      split at hread
      · cases hread
      exact ih hfold hread

theorem WordRange.eq_of_read_decimalNumeral {range : WordRange} {number : Nat} {result : Int}
    (hread : range.read (decimalNumeral number) = .ok result) : result = number := by
  rw [range.read_of_isDigit (decimalNumeral_ne_nil number)
    fun _ => isDigit_of_mem_decimalNumeral] at hread
  exact eq_of_readDigits (foldDigits?_decimalNumeral number) hread

/-- The number fits the word. -/
def WordRange.Contains (range : WordRange) (number : Int) : Prop :=
  range.least ≤ number ∧ number ≤ range.greatest

theorem WordRange.contains_of_readDigits {range : WordRange} {sign : Int} {digits : List Char}
    {value number : Int} (hread : range.readDigits sign digits value = .ok number)
    (hvalue : range.Contains value) : range.Contains number := by
  induction digits generalizing value with
  | nil =>
      obtain rfl := Except.ok.inj hread
      exact hvalue
  | cons c digits ih =>
      unfold readDigits at hread
      split at hread
      · cases hread
      next digit _ =>
        simp only at hread
        split at hread
        next => cases hread
        next hgreatest =>
          split at hread
          next => cases hread
          next hleast => exact ih hread ⟨by omega, by omega⟩

/-- What is read fits the word. -/
theorem WordRange.contains_of_read {range : WordRange} (hzero : range.Contains 0)
    {text : List Char} {number : Int} (hread : range.read text = .ok number) :
    range.Contains number := by
  unfold read at hread
  split at hread
  · cases hread
  · cases hread
  · cases hread
  · exact contains_of_readDigits hread hzero
  · split at hread
    · exact contains_of_readDigits hread hzero
    · cases hread
  · exact contains_of_readDigits hread hzero

end QueryWarden.Text
