import QueryWarden.Proofs.Text.Order
import QueryWarden.Proofs.Time.Timestamp

/-!
# Stored timestamps sort by time

The text of a stored timestamp has numbers of fixed widths with the same marks between them, the
larger units first. So of two such texts the smaller one is that of the earlier timestamp. That
dates of more days come later is shown month by month, with the months of all years in one row.
-/

namespace QueryWarden.Text

theorem toNat_digitChar {digit : Nat} (hdigit : digit < 10) :
    (digitChar digit).toNat = 48 + digit := by
  interval_cases digit <;> rfl

/-- Numerals of one width are ordered as their numbers. -/
theorem textLess_paddedNumeral {width number other : Nat} (hwidth : 0 < width)
    (hnumber : number < 10 ^ width) (hother : other < 10 ^ width) :
    textLess (paddedNumeral width number) (paddedNumeral width other) = true ↔
      number < other := by
  have hdigits : ∀ {digit next : Nat}, digit < 10 → next < 10 →
      (textLess [digitChar digit] [digitChar next] = true ↔ digit < next) := by
    intro digit next hdigit hnext
    have hcode := toNat_digitChar hdigit
    have hcode' := toNat_digitChar hnext
    rw [textLess]
    split
    next heq =>
      rw [heq] at hcode
      simp [textLess]
      omega
    next => simp [hcode, hcode']
  induction width, hwidth using Nat.le_induction generalizing number other with
  | base => rw [paddedNumeral_one hnumber, paddedNumeral_one hother, hdigits hnumber hother]
  | succ width hwidth ih =>
      have hfront := div_ten_lt hnumber
      have hfront' := div_ten_lt hother
      have hlength : (paddedNumeral width (number / 10)).length =
          (paddedNumeral width (other / 10)).length := by
        rw [length_paddedNumeral hwidth hfront, length_paddedNumeral hwidth hfront']
      have hfronts : textLess (paddedNumeral width (number / 10))
          (paddedNumeral width (other / 10)) = true ↔ number / 10 < other / 10 :=
        ih hfront hfront'
      rw [paddedNumeral_succ hwidth, paddedNumeral_succ hwidth, textLess_append_iff hlength,
        hfronts, paddedNumeral_inj hwidth hfront hfront',
        hdigits (Nat.mod_lt _ (by decide)) (Nat.mod_lt _ (by decide))]
      omega

/-- A number of a fixed width decides before what follows it. -/
theorem textLess_paddedNumeral_append {width number other : Nat} (hwidth : 0 < width)
    (hnumber : number < 10 ^ width) (hother : other < 10 ^ width) (rest more : List Char) :
    textLess (paddedNumeral width number ++ rest) (paddedNumeral width other ++ more) = true ↔
      number < other ∨ number = other ∧ textLess rest more = true := by
  rw [textLess_append_iff, textLess_paddedNumeral hwidth hnumber hother,
    paddedNumeral_inj hwidth hnumber hother]
  rw [length_paddedNumeral hwidth hnumber, length_paddedNumeral hwidth hother]

end QueryWarden.Text

namespace QueryWarden.Time

open QueryWarden.Text

/-! ## Months -/

/-- The months from March of the year 0 to the month of a date. -/
def Date.monthCount (date : Date) : Int :=
  12 * date.year + date.month - 3

/-- The days from March of the year 0 to a month. -/
def daysBeforeMonth (months : Int) : Int :=
  let year := months / 12
  365 * year + year / 4 - year / 100 + year / 400 + (153 * (months % 12) + 2) / 5

theorem Date.toDays_eq {date : Date} (hmonth : 1 ≤ date.month ∧ date.month ≤ 12) :
    date.toDays = daysBeforeMonth date.monthCount + date.day - 719469 := by
  simp only [Date.toDays, daysBeforeMonth, Date.monthCount]
  split
  next hearly =>
    have hyear : (12 * date.year + date.month - 3) / 12 = date.year - 1 := by omega
    have hrest : (12 * date.year + date.month - 3) % 12 = date.month + 9 := by omega
    rw [hyear, hrest]
    omega
  next hlate =>
    have hyear : (12 * date.year + date.month - 3) / 12 = date.year := by omega
    have hrest : (12 * date.year + date.month - 3) % 12 = date.month - 3 := by omega
    rw [hyear, hrest]
    omega

theorem daysBeforeMonth_mono {months later : Int} (hmonths : months ≤ later) :
    daysBeforeMonth months ≤ daysBeforeMonth later := by
  refine monotone_int_of_le_succ (fun months => ?_) hmonths
  simp only [daysBeforeMonth]
  by_cases hlast : months % 12 = 11
  · have hyear : (months + 1) / 12 = months / 12 + 1 := by omega
    have hrest : (months + 1) % 12 = 0 := by omega
    rw [hyear, hrest, hlast]
    omega
  · have hyear : (months + 1) / 12 = months / 12 := by omega
    have hrest : (months + 1) % 12 = months % 12 + 1 := by omega
    rw [hyear, hrest]
    omega

/-- The days of a month are over before the next one begins. -/
theorem Date.add_daysInMonth_le {date : Date} (hmonth : 1 ≤ date.month ∧ date.month ≤ 12) :
    daysBeforeMonth date.monthCount + daysInMonth date.year date.month ≤
      daysBeforeMonth (date.monthCount + 1) := by
  obtain ⟨year, month, day⟩ := date
  dsimp only [Date.monthCount] at hmonth ⊢
  obtain ⟨hlow, hhigh⟩ := hmonth
  interval_cases month
  all_goals
    simp [daysInMonth, daysBeforeMonth, isLeapYear]
    omega

/-- A date of a later month comes later, and so does a later day of the same month. -/
theorem Date.toDays_lt_toDays {date later : Date} (hdate : date.isValid = true)
    (hlater : later.isValid = true)
    (hprecedes : date.monthCount < later.monthCount ∨
      date.monthCount = later.monthCount ∧ date.day < later.day) :
    date.toDays < later.toDays := by
  obtain ⟨hmonth, hday⟩ := (Date.isValid_iff date).mp hdate
  obtain ⟨hmonth', hday'⟩ := (Date.isValid_iff later).mp hlater
  rw [Date.toDays_eq hmonth, Date.toDays_eq hmonth']
  rcases hprecedes with hmonths | ⟨hmonths, hdays⟩
  · have hlength := Date.add_daysInMonth_le hmonth
    have hnext : daysBeforeMonth (date.monthCount + 1) ≤ daysBeforeMonth later.monthCount :=
      daysBeforeMonth_mono hmonths
    omega
  · rw [hmonths]
    omega

theorem Date.toDays_lt_iff {date later : Date} (hdate : date.isValid = true)
    (hlater : later.isValid = true) :
    date.toDays < later.toDays ↔ date.monthCount < later.monthCount ∨
      date.monthCount = later.monthCount ∧ date.day < later.day := by
  refine ⟨fun hless => ?_, Date.toDays_lt_toDays hdate hlater⟩
  rcases Int.lt_trichotomy date.monthCount later.monthCount with hmonths | hmonths | hmonths
  · exact .inl hmonths
  · obtain ⟨hmonth, -⟩ := (Date.isValid_iff date).mp hdate
    obtain ⟨hmonth', -⟩ := (Date.isValid_iff later).mp hlater
    rw [Date.toDays_eq hmonth, Date.toDays_eq hmonth', hmonths] at hless
    exact .inr ⟨hmonths, by omega⟩
  · have hgreater := Date.toDays_lt_toDays hlater hdate (.inl hmonths)
    omega

/-! ## Texts -/

/-- A day in a year of four digits decides before what follows its date. -/
theorem textLess_dateText_append {day later : Int}
    (hyear : 0 ≤ (Date.ofDays day).year ∧ (Date.ofDays day).year ≤ 9999)
    (hyear' : 0 ≤ (Date.ofDays later).year ∧ (Date.ofDays later).year ≤ 9999)
    (rest more : List Char) :
    textLess ((Date.ofDays day).text ++ rest) ((Date.ofDays later).text ++ more) = true ↔
      day < later ∨ day = later ∧ textLess rest more = true := by
  have hvalid := Date.isValid_ofDays day
  have hvalid' := Date.isValid_ofDays later
  have hless := Date.toDays_lt_iff hvalid hvalid'
  have hgreater := Date.toDays_lt_iff hvalid' hvalid
  rw [Date.toDays_ofDays, Date.toDays_ofDays] at hless hgreater
  have hbounds := (Date.isValid_iff _).mp hvalid
  have hbounds' := (Date.isValid_iff _).mp hvalid'
  have hlast := daysInMonth_le (Date.ofDays day).year (Date.ofDays day).month
  have hlast' := daysInMonth_le (Date.ofDays later).year (Date.ofDays later).month
  rw [Date.text_append hyear, Date.text_append hyear',
    textLess_paddedNumeral_append (by decide) (by omega) (by omega), textLess_cons,
    textLess_paddedNumeral_append (by decide) (by omega) (by omega), textLess_cons,
    textLess_paddedNumeral_append (by decide) (by omega) (by omega)]
  simp only [Date.monthCount] at hless hgreater
  by_cases hrest : textLess rest more = true
  · simp only [hrest, and_true]
    omega
  · simp only [hrest, Bool.false_eq_true, and_false, or_false]
    omega

/-- A time of day decides before what follows it. -/
theorem textLess_clockText_append {second later : Nat} (hsecond : second < 86400)
    (hlater : later < 86400) (rest more : List Char) :
    textLess (Clock.text ⟨second, 0⟩ ++ rest) (Clock.text ⟨later, 0⟩ ++ more) = true ↔
      second < later ∨ second = later ∧ textLess rest more = true := by
  rw [Clock.text_append, Clock.text_append,
    textLess_paddedNumeral_append (by decide) (by omega) (by omega), textLess_cons,
    textLess_paddedNumeral_append (by decide) (by omega) (by omega), textLess_cons,
    textLess_paddedNumeral_append (by decide) (by omega) (by omega)]
  by_cases hrest : textLess rest more = true
  · simp only [hrest, and_true]
    omega
  · simp only [hrest, Bool.false_eq_true, and_false, or_false]
    omega

namespace Timestamp

/-- The nanoseconds since the start of 1970. -/
def nanos (stamp : Timestamp) : Int :=
  (stamp.day * secondsPerDay + stamp.clock.second) * nanosPerSecond + stamp.clock.nano

/-- A clock that counts nanoseconds reads no leap second. -/
theorem isStorable_ofNanos {nanos : Int}
    (hyear : 0 ≤ (Date.ofDays (ofNanos nanos).day).year ∧
      (Date.ofDays (ofNanos nanos).day).year ≤ 9999) :
    (ofNanos nanos).IsStorable where
  year_mem := hyear
  second_lt := by
    simp only [ofNanos, secondsPerDay, nanosPerSecond]
    omega
  nano_lt := Nat.mod_lt _ (by decide)

variable {stamp later : Timestamp}

/-- Stored timestamps have the order of time, as far as they tell it. -/
theorem textLess_storedText (hstamp : stamp.IsStorable) (hlater : later.IsStorable) :
    textLess stamp.storedText.toList later.storedText.toList = true ↔
      stamp.toMicros.nanos < later.toMicros.nanos := by
  obtain ⟨hyear, hsecond, hnano⟩ := hstamp
  obtain ⟨hyear', hsecond', hnano'⟩ := hlater
  rw [toList_storedText hnano, toList_storedText hnano']
  simp only [secondsPerDay, nanosPerSecond] at hsecond hsecond' hnano hnano'
  rw [textLess_dateText_append hyear hyear', textLess_cons,
    textLess_clockText_append hsecond hsecond', textLess_cons,
    textLess_paddedNumeral_append (by decide) (by omega) (by omega), textLess_irrefl]
  simp only [nanos, toMicros, secondsPerDay, nanosPerSecond, Bool.false_eq_true, and_false,
    or_false]
  omega

/-- Timestamps with the same text are those that agree to the microsecond. -/
theorem storedText_eq_iff (hstamp : stamp.IsStorable) (hlater : later.IsStorable) :
    stamp.storedText = later.storedText ↔ stamp.toMicros.nanos = later.toMicros.nanos := by
  have hless := textLess_storedText hstamp hlater
  have hgreater := textLess_storedText hlater hstamp
  constructor
  · intro htext
    rw [htext, textLess_irrefl] at hless hgreater
    simp only [Bool.false_eq_true, false_iff] at hless hgreater
    omega
  · intro hmicros
    rcases textLess_trichotomy stamp.storedText.toList later.storedText.toList with h | h | h
    · have hbelow := hless.mp h
      omega
    · exact String.toList_inj.mp h
    · have habove := hgreater.mp h
      omega

theorem nanos_toMicros (stamp : Timestamp) : stamp.toMicros.nanos = stamp.nanos / 1000 * 1000 := by
  simp only [nanos, toMicros, secondsPerDay, nanosPerSecond]
  omega

end Timestamp

end QueryWarden.Time
