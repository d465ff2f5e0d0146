import QueryWarden.Proofs.Outcome
import QueryWarden.Proofs.Text.Numerals
import QueryWarden.Proofs.Time.Calendar
import QueryWarden.Time.Timestamp

/-!
# Stored timestamps

A timestamp that is stored as text is read back whole but for what is less than a microsecond.
-/

namespace QueryWarden.Time

open QueryWarden.Text

/-- A point in time that has a stored form: its year has four digits, and its time of day lies in no
leap second. -/
structure Timestamp.IsStorable (stamp : Timestamp) : Prop where
  year_mem : 0 ≤ (Date.ofDays stamp.day).year ∧ (Date.ofDays stamp.day).year ≤ 9999
  second_lt : stamp.clock.second < secondsPerDay
  nano_lt : stamp.clock.nano < nanosPerSecond

-- What the clock reads on 15 June 2025 has one.
example : (Timestamp.ofNanos 1750000000123456789).IsStorable :=
  ⟨by decide, by decide, by decide⟩

theorem Timestamp.IsStorable.toMicros {stamp : Timestamp} (hstamp : stamp.IsStorable) :
    stamp.toMicros.IsStorable where
  year_mem := hstamp.year_mem
  second_lt := hstamp.second_lt
  nano_lt := (Nat.div_mul_le_self _ _).trans_lt hstamp.nano_lt

theorem Timestamp.toMicros_toMicros (stamp : Timestamp) :
    stamp.toMicros.toMicros = stamp.toMicros := by
  simp only [Timestamp.toMicros, Nat.mul_div_cancel _ (show 0 < 1000 by decide)]

/-! ## Reading numerals -/

theorem scanDigits_of_foldDigits? {digits : List Char} {value number : Nat}
    (hfold : foldDigits? value digits = some number) (rest : List Char) :
    scanDigits digits.length value (digits ++ rest) = .ok (number, rest) := by
  induction digits generalizing value with
  | nil =>
      obtain rfl := Option.some.inj hfold
      rfl
  | cons c digits ih =>
      rw [foldDigits?] at hfold
      obtain ⟨digit, hdigit, hfold⟩ := Option.bind_eq_some_iff.mp hfold
      rw [List.cons_append, List.length_cons, scanDigits, hdigit]
      exact ih hfold

/-- A number that fits the width is read from its padded numeral. -/
theorem scanDigits_paddedNumeral {width number : Nat} (hwidth : 0 < width)
    (hnumber : number < 10 ^ width) (rest : List Char) :
    scanDigits width 0 (paddedNumeral width number ++ rest) = .ok (number, rest) := by
  have hfold := foldDigits?_paddedNumeral hwidth hnumber 0
  rw [Nat.zero_mul, Nat.zero_add] at hfold
  have hread := scanDigits_of_foldDigits? hfold rest
  rwa [length_paddedNumeral hwidth hnumber] at hread

theorem scanMark_cons {marks : List Char} {c : Char} (hc : marks.contains c = true)
    (rest : List Char) : scanMark marks (c :: rest) = .ok rest := by
  rw [scanMark, if_pos hc]

/-- Six digits of a fraction are microseconds. -/
theorem scanFraction_paddedNumeral {micros : Nat} (hmicros : micros < 10 ^ 6) {c : Char}
    (hc : c.isDigit = false) (rest : List Char) :
    scanFraction (paddedNumeral 6 micros ++ c :: rest) = .ok (micros * 1000, c :: rest) := by
  have hlength := length_paddedNumeral (by decide : 0 < 6) hmicros
  have hfold := foldDigits?_paddedNumeral (by decide : 0 < 6) hmicros 0
  have hdigits := isDigit_of_foldDigits? hfold
  generalize paddedNumeral 6 micros = digits at hlength hfold hdigits ⊢
  have hfront : (digits ++ c :: rest).takeWhile Char.isDigit = digits := by
    rw [List.takeWhile_append_of_pos hdigits, List.takeWhile_cons, hc, if_neg Bool.false_ne_true,
      List.append_nil]
  have hback : (digits ++ c :: rest).dropWhile Char.isDigit = c :: rest := by
    rw [List.dropWhile_append_of_pos hdigits, List.dropWhile_cons, hc, if_neg Bool.false_ne_true]
  have hkept : digits.take 9 = digits := List.take_of_length_le (by omega)
  rw [Nat.zero_mul, Nat.zero_add] at hfold
  cases digits with
  | nil => cases hlength
  | cons first digits =>
      rw [List.cons_append] at hfront hback ⊢
      simp only [scanFraction, hfront, hback, hkept, hfold, hlength, Option.getD_some,
        Nat.reduceSub, Nat.pow_eq, Nat.reducePow]

/-! ## Reading dates and times of day -/

theorem Date.text_append {date : Date} (hyear : 0 ≤ date.year ∧ date.year ≤ 9999)
    (rest : List Char) :
    date.text ++ rest = paddedNumeral 4 date.year.natAbs ++
      '-' :: (paddedNumeral 2 date.month ++ '-' :: (paddedNumeral 2 date.day ++ rest)) := by
  simp [Date.text, yearText, hyear]

theorem Clock.text_append (second : Nat) (rest : List Char) :
    Clock.text ⟨second, 0⟩ ++ rest = paddedNumeral 2 (second / 3600) ++
      ':' :: (paddedNumeral 2 (second / 60 % 60) ++
        ':' :: (paddedNumeral 2 (second % 60) ++ rest)) := by
  simp [Clock.text, fractionText]

theorem scanDate_text {date : Date} (hvalid : date.isValid = true)
    (hyear : 0 ≤ date.year ∧ date.year ≤ 9999) (rest : List Char) :
    scanDate (date.text ++ rest) = .ok (date, rest) := by
  have hbounds := (Date.isValid_iff date).mp hvalid
  have hlast := daysInMonth_le date.year date.month
  have hmonth : date.month < 10 ^ 2 := by omega
  have hday : date.day < 10 ^ 2 := by omega
  have hnatAbs : date.year.natAbs < 10 ^ 4 := by omega
  have hdate : (⟨date.year.natAbs, date.month, date.day⟩ : Date) = date := by
    rw [Int.natAbs_of_nonneg hyear.1]
  have hhyphen : ['-'].contains '-' = true := by decide
  simp only [Date.text_append hyear, scanDate, scanDigits_paddedNumeral (show 0 < 4 by decide) hnatAbs,
    scanDigits_paddedNumeral (show 0 < 2 by decide) hmonth,
    scanDigits_paddedNumeral (show 0 < 2 by decide) hday, scanMark_cons hhyphen, ok_bind, hdate,
    hvalid, if_true]

theorem scanClock_text {second micros : Nat} (hsecond : second < 86400)
    (hmicros : micros < 10 ^ 6) (rest : List Char) :
    scanClock (Clock.text ⟨second, 0⟩ ++ '.' :: (paddedNumeral 6 micros ++ 'Z' :: rest)) =
      .ok (⟨second, micros * 1000⟩, 'Z' :: rest) := by
  have hhour : second / 3600 < 10 ^ 2 := by omega
  have hminute : second / 60 % 60 < 10 ^ 2 := by omega
  have hrest : second % 60 < 10 ^ 2 := by omega
  have hcolon : [':'].contains ':' = true := by decide
  have hzone : 'Z'.isDigit = false := by decide
  have hinside : (decide (24 ≤ second / 3600) || decide (60 ≤ second / 60 % 60) ||
      decide (61 ≤ second % 60)) = false := by
    simp only [Bool.or_eq_false_iff, decide_eq_false_iff_not]
    omega
  have hwhole : second % 60 ≠ 60 := by omega
  have hsum : (second / 3600 * 60 + second / 60 % 60) * 60 + second % 60 = second := by omega
  simp only [Clock.text_append, scanClock, scanDigits_paddedNumeral (show 0 < 2 by decide) hhour,
    scanDigits_paddedNumeral (show 0 < 2 by decide) hminute,
    scanDigits_paddedNumeral (show 0 < 2 by decide) hrest, scanMark_cons hcolon,
    scanFraction_paddedNumeral hmicros hzone, ok_bind, hinside, if_neg hwhole, hsum,
    Bool.false_eq_true, if_false]

/-! ## Reading whole timestamps -/

theorem length_le_bytes (text : List Char) :
    text.length ≤ text.foldr (fun c bytes => c.utf8Size + bytes) 0 := by
  induction text with
  | nil => exact Nat.zero_le _
  | cons c text ih =>
      have hc := c.utf8Size_pos
      rw [List.length_cons, List.foldr_cons]
      omega

theorem le_length_dateText (date : Date) : 6 ≤ date.text.length := by
  have hmonth := le_length_paddedNumeral 2 date.month
  have hday := le_length_paddedNumeral 2 date.day
  simp only [Date.text, List.length_append, List.length_cons]
  omega

theorem le_length_clockText (clock : Clock) : 8 ≤ clock.text.length := by
  have hhour := le_length_paddedNumeral 2 (clock.second / 3600)
  have hminute := le_length_paddedNumeral 2 (clock.second / 60 % 60)
  have hsecond := le_length_paddedNumeral 2 (clock.second % 60 + clock.nano / nanosPerSecond)
  simp only [Clock.text, List.length_append, List.length_cons]
  omega

theorem Timestamp.toList_storedText {stamp : Timestamp}
    (hnano : stamp.clock.nano < nanosPerSecond) :
    stamp.storedText.toList = (Date.ofDays stamp.day).text ++
      'T' :: (Clock.text ⟨stamp.clock.second, 0⟩ ++
        '.' :: (paddedNumeral 6 (stamp.clock.nano / 1000) ++ ['Z'])) := by
  simp [Timestamp.storedText, Timestamp.textWith, Nat.div_eq_of_lt hnano,
    Nat.mod_eq_of_lt hnano]

/-- A stored timestamp is read back, cut to microseconds. -/
theorem Timestamp.ofText?_storedText {stamp : Timestamp} (hstamp : stamp.IsStorable) :
    Timestamp.ofText? stamp.storedText.toList = .ok stamp.toMicros := by
  obtain ⟨hyear, hsecond, hnano⟩ := hstamp
  rw [secondsPerDay] at hsecond
  have hmicros : stamp.clock.nano / 1000 < 10 ^ 6 := by
    rw [nanosPerSecond] at hnano
    omega
  have htext := toList_storedText hnano
  have hlong : ¬ stamp.storedText.toList.foldr (fun c bytes => c.utf8Size + bytes) 0 <
      shortestTimestamp := by
    have hbytes := length_le_bytes stamp.storedText.toList
    have hdate := le_length_dateText (Date.ofDays stamp.day)
    have hclock := le_length_clockText ⟨stamp.clock.second, 0⟩
    have hfraction := le_length_paddedNumeral 6 (stamp.clock.nano / 1000)
    rw [htext] at hbytes ⊢
    simp only [List.length_append, List.length_cons] at hbytes
    rw [shortestTimestamp]
    omega
  have hmark : ['T', 't', ' '].contains 'T' = true := by decide
  have hzone : scanZone ['Z'] = .ok (0, []) := rfl
  have hday : (stamp.clock.second : Int) / (secondsPerDay : Nat) = 0 := by
    rw [secondsPerDay]
    omega
  have hclock : ((stamp.clock.second : Int) % (secondsPerDay : Nat)).toNat =
      stamp.clock.second := by
    rw [secondsPerDay]
    omega
  rw [Timestamp.ofText?, if_neg hlong]
  simp only [htext, scanDate_text (Date.isValid_ofDays stamp.day) hyear, ok_bind,
    scanMark_cons hmark, scanClock_text hsecond hmicros, hzone, Date.toDays_ofDays, Int.sub_zero,
    hday, hclock, Int.add_zero]
  rfl

end QueryWarden.Time
