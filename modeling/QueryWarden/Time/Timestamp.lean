import QueryWarden.Time.Calendar

/-!
# Timestamps

Points in time as they are stored: a date, a time of day and a distance from universal time. Reading
accepts any distance and gives universal time, in which timestamps are shown.
-/

namespace QueryWarden.Time

open QueryWarden.Text

/-- A point in universal time: days since 1 January 1970 and the time of day. -/
structure Timestamp where
  day : Int
  clock : Clock
  deriving DecidableEq, Repr

/-- The timestamp with a separator and the mark of universal time, its fraction written by
`fraction`. -/
def Timestamp.textWith (fraction : Nat → List Char) (stamp : Timestamp) : String :=
  let whole : Clock := ⟨stamp.clock.second, stamp.clock.nano / nanosPerSecond * nanosPerSecond⟩
  String.ofList ((Date.ofDays stamp.day).text ++ 'T' :: whole.text ++
    fraction (stamp.clock.nano % nanosPerSecond) ++ ['Z'])

/-- The timestamp with the fewest of 0, 3, 6 or 9 digits that lose nothing. -/
def Timestamp.text (stamp : Timestamp) : String :=
  stamp.textWith fractionText

/-- The timestamp with six digits, which is how it is stored. -/
def Timestamp.storedText (stamp : Timestamp) : String :=
  stamp.textWith fun nano => '.' :: paddedNumeral 6 (nano / 1000)

/-- The timestamp cut to whole microseconds, which is all that is stored. -/
def Timestamp.toMicros (stamp : Timestamp) : Timestamp :=
  { stamp with clock := { stamp.clock with nano := stamp.clock.nano / 1000 * 1000 } }

/-- The timestamp a number of nanoseconds after the start of 1970. -/
def Timestamp.ofNanos (nanos : Int) : Timestamp :=
  let perDay : Int := (secondsPerDay * nanosPerSecond : Nat)
  let rest := (nanos % perDay).toNat
  ⟨nanos / perDay, ⟨rest / nanosPerSecond, rest % nanosPerSecond⟩⟩

/-! ## Reading -/

/-- What is wrong with the text of a timestamp. -/
inductive TimestampFault where
  | tooShort
  | tooLong
  | invalid
  | outOfRange
  deriving DecidableEq, Repr

/-- The fault in words. -/
def TimestampFault.message : TimestampFault → String
  | .tooShort => "premature end of input"
  | .tooLong => "trailing input"
  | .invalid => "input contains invalid characters"
  | .outOfRange => "input is out of range"

/-- Reads `count` digits. -/
def scanDigits : Nat → Nat → List Char → Except TimestampFault (Nat × List Char)
  | 0, value, text => .ok (value, text)
  | _ + 1, _, [] => .error .tooShort
  | count + 1, value, c :: text =>
      match digitValue? c with
      | some digit => scanDigits count (value * 10 + digit) text
      | none => .error .invalid

/-- Reads one of some characters. -/
def scanMark (marks : List Char) : List Char → Except TimestampFault (List Char)
  | [] => .error .tooShort
  | c :: text => if marks.contains c then .ok text else .error .invalid

/-- Reads the digits of a fraction after its point, in nanoseconds. Digits past the ninth do not
count. -/
def scanFraction (text : List Char) : Except TimestampFault (Nat × List Char) :=
  match text with
  | [] => .error .tooShort
  | _ =>
      match text.takeWhile Char.isDigit with
      | [] => .error .invalid
      | digits =>
          let kept := digits.take 9
          .ok ((foldDigits? 0 kept).getD 0 * Nat.pow 10 (9 - kept.length),
            text.dropWhile Char.isDigit)

/-- Reads hours and minutes of a distance from universal time, in seconds. -/
def scanDistance (text : List Char) : Except TimestampFault (Nat × List Char) := do
  let twoBytes (text : List Char) : Bool :=
    decide (2 ≤ (text.take 2).foldl (fun size c => size + c.utf8Size) 0)
  if !twoBytes text then .error .tooShort
  else
    let (hours, text) ← scanDigits 2 0 text
    let text ← scanMark [':'] text
    if !twoBytes text then .error .tooShort
    else
      let (minutes, text) ← scanDigits 2 0 text
      if 60 ≤ minutes then .error .outOfRange else .ok (hours * 3600 + minutes * 60, text)

/-- Reads a zone: the mark of universal time, or a signed distance from it. -/
def scanZone : List Char → Except TimestampFault (Int × List Char)
  | [] => .error .tooShort
  | c :: text =>
      if c = 'Z' || c = 'z' then .ok (0, text)
      else if c = '+' then
        (scanDistance text).map fun (seconds, text) => ((seconds : Int), text)
      else if c = '-' || c = '\u2212' then
        (scanDistance text).map fun (seconds, text) => (-(seconds : Int), text)
      else .error .invalid

/-- The date at the front of a timestamp. -/
def scanDate (text : List Char) : Except TimestampFault (Date × List Char) := do
  let (year, text) ← scanDigits 4 0 text
  let text ← scanMark ['-'] text
  let (month, text) ← scanDigits 2 0 text
  let text ← scanMark ['-'] text
  let (day, text) ← scanDigits 2 0 text
  let date : Date := ⟨year, month, day⟩
  if date.isValid then .ok (date, text) else .error .outOfRange

/-- The time of day of a timestamp. Second 60 is a leap second and may follow any minute. -/
def scanClock (text : List Char) : Except TimestampFault (Clock × List Char) := do
  let (hour, text) ← scanDigits 2 0 text
  let text ← scanMark [':'] text
  let (minute, text) ← scanDigits 2 0 text
  let text ← scanMark [':'] text
  let (second, text) ← scanDigits 2 0 text
  let (nano, text) ←
    match text with
    | '.' :: rest => scanFraction rest
    | _ => .ok (0, text)
  if 24 ≤ hour || 60 ≤ minute || 61 ≤ second then .error .outOfRange
  else if second = 60 then
    .ok (⟨(hour * 60 + minute) * 60 + 59, nanosPerSecond + nano⟩, text)
  else .ok (⟨(hour * 60 + minute) * 60 + second, nano⟩, text)

/-- The shortest text that may hold a date and a time of day. -/
def shortestTimestamp : Nat := 19

/-- Reads a whole text as a timestamp. -/
def Timestamp.ofText? (text : List Char) : Except TimestampFault Timestamp := do
  if text.foldr (fun c bytes => c.utf8Size + bytes) 0 < shortestTimestamp then .error .tooShort
  else
    let (date, text) ← scanDate text
    let text ← scanMark ['T', 't', ' '] text
    let (clock, text) ← scanClock text
    let (distance, text) ← scanZone text
    if !text.isEmpty then .error .tooLong
    else if 86400 ≤ distance.natAbs then .error .outOfRange
    else
      let second := (clock.second : Int) - distance
      .ok ⟨date.toDays + second / secondsPerDay,
        ⟨(second % secondsPerDay).toNat, clock.nano⟩⟩

end QueryWarden.Time
