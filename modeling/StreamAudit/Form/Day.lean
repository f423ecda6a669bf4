import StreamAudit.Calendar.Moment
import StreamAudit.Form.Number

/-!
Days in forms. A day may come as ten characters, as a moment at midnight, or as a count of seconds
since 1970 that falls on midnight; a large count is taken for milliseconds. The year 0 passes as a
form but is no day of the calendar.
-/

set_option autoImplicit false
set_option relaxedAutoImplicit false

namespace StreamAudit.Form.Day

open StreamAudit.Calendar StreamAudit.Number StreamAudit.Text

/-- A day of the calendar, or none for a day of the year 0. -/
abbrev Found :=
  Option Date

/-- Counts beyond this many are milliseconds. -/
def millisecondLimit : Int :=
  20000000000

/-- The first second of the year 0. -/
def firstSecond : Int :=
  -62167219200

/-- The last second of the year 9999. -/
def lastSecond : Int :=
  253402300799

/-- The number of the first day of 1970. -/
def epochNumber : Int :=
  719163

/-- Reads exactly that many digits. -/
def fixedDigits? (value : Nat) : Nat → List Char → Option (Nat × List Char)
  | 0, rest => some (value, rest)
  | _ + 1, [] => none
  | count + 1, c :: rest =>
    match asciiDigit? c with
    | some d => fixedDigits? (value * 10 + d) count rest
    | none => none

/-- Reads a mark in front. -/
def mark? (mark : Char) : List Char → Option (List Char)
  | c :: rest => if c = mark then some rest else none
  | [] => none

/-- Reads a day of ten characters in front. -/
def front? (s : List Char) : Option (Found × List Char) := do
  let (year, afterYear) ← fixedDigits? 0 4 s
  let (month, afterMonth) ← fixedDigits? 0 2 (← mark? '-' afterYear)
  let (day, rest) ← fixedDigits? 0 2 (← mark? '-' afterMonth)
  if 1 ≤ month ∧ month ≤ 12 ∧ 1 ≤ day ∧ day ≤ monthLength year month then
    some (Date.of? year month day, rest)
  else none

/-- Drops the fraction of a second and says whether any of its first six digits is not zero. -/
def fraction? : List Char → Option (Bool × List Char)
  | mark :: rest =>
    if mark == '.' || mark == ',' then
      let digits := rest.takeWhile isAsciiDigit
      if digits.isEmpty then none
      else some ((digits.take 6).any (· != '0'), rest.dropWhile isAsciiDigit)
    else some (false, mark :: rest)
  | [] => some (false, [])

/-- Reads an offset to the end: none, a letter, or hours and minutes behind a sign. -/
def isOffset (s : List Char) : Bool :=
  match s with
  | [] => true
  | ['Z'] | ['z'] => true
  | sign :: rest =>
    if sign == '+' || sign == '-' || sign.toNat == 0x2212 then
      match fixedDigits? 0 2 rest with
      | some (hours, ':' :: more) | some (hours, more) =>
        match fixedDigits? 0 2 more with
        | some (minutes, []) => hours < 24 && minutes < 60
        | _ => false
      | none => false
    else false

/-- Reads a time of day with its offset, and says whether it is midnight. -/
def midnight? (s : List Char) : Option Bool := do
  let (hour, afterHour) ← fixedDigits? 0 2 s
  let (minute, afterMinute) ← fixedDigits? 0 2 (← mark? ':' afterHour)
  let (second, afterSecond) ← match afterMinute with
    | ':' :: more => fixedDigits? 0 2 more
    | other => some (0, other)
  let (hasFraction, rest) ← match afterMinute with
    | ':' :: _ => fraction? afterSecond
    | _ => some (false, afterSecond)
  if hour < 24 ∧ minute < 60 ∧ second < 60 ∧ isOffset rest then
    some (hour == 0 && minute == 0 && second == 0 && !hasFraction)
  else none

/-- Whether a character stands between a day and a time. -/
def separates (c : Char) : Bool :=
  c == 'T' || c == 't' || c == ' ' || c == '_'

/-- Whether a count is one of milliseconds. -/
def inMillis (count : Int) : Bool :=
  count < -millisecondLimit || millisecondLimit < count

/-- The day of a number of seconds and microseconds since 1970. -/
def atSeconds (seconds : Int) (micro : Nat) : Except Cause Found :=
  if seconds < firstSecond ∨ lastSecond < seconds then .error .dateText
  else if seconds % 86400 ≠ 0 ∨ micro ≠ 0 then .error .dateInexact
  else .ok (Date.ofNumber? (seconds / 86400 + epochNumber).toNat)

/-- The day of a count with a fraction in microseconds; full seconds of the fraction are carried. -/
def ofCount (count : Int) (micro : Nat) : Except Cause Found :=
  let micros := micro + if inMillis count then ((count % 1000) * 1000).toNat else 0
  let seconds := if inMillis count then count / 1000 else count
  atSeconds (seconds + (micros / 1000000 : Nat)) (micros % 1000000)

/-- The whole part of a double, downwards, and the rest in microseconds, a half up. -/
def split? (x : Binary64) : Option (Int × Nat) := do
  let whole := (← x.units?) / (Binary64.unit : Int)
  let perUnit := if inMillis whole then 1000 else 1000000
  match (x.add (.ofInt (-whole))).scale perUnit with
  | .finite _ rest => some (whole, (2 * rest + Binary64.unit) / (2 * Binary64.unit))
  | _ => none

/-- The day of a double. -/
def ofReal (x : Binary64) : Except Cause Found :=
  match split? x with
  | some (whole, micro) => ofCount whole micro
  | none => .error .dateText

/-- A sign, if there is one, and what follows it; a minus sign counts. -/
def signed : List Char → Bool × List Char
  | '-' :: rest => (true, rest)
  | '+' :: rest => (false, rest)
  | other => (false, other)

/-- The count of a text of digits, if it fits 64 bits. -/
def count? (s : List Char) : Option Int :=
  match signed s with
  | (_, []) => none
  | (negative, digits) =>
    ((digits.mapM asciiDigit?).map (readDigits 0)).bind fun n ↦
      if n < wordLimit then some (if negative then -(n : Int) else n) else none

/-- The double of a text with a point behind its first digits or at its front. -/
def decimal? (s : List Char) : Option Binary64 :=
  let (negative, digits) := signed s
  match digits.dropWhile isAsciiDigit with
  | '.' :: _ => decimalOf? negative digits
  | _ => none

/-- Reads a day with a time of day, and says whether it is midnight. -/
def moment? (s : List Char) : Option (Found × Bool) := do
  let (day, rest) ← front? s
  match rest with
  | c :: time => if separates c then (midnight? time).map (day, ·) else none
  | [] => none

/-- The day of a text that is a moment or a number. -/
def ofMoment (s : List Char) : Except Cause Found :=
  match moment? s with
  | some (day, isMidnight) => if isMidnight then .ok day else .error .dateInexact
  | none =>
    match count? s, decimal? s with
    | some count, _ => ofCount count 0
    | none, some x => ofReal x
    | none, none => .error .dateText

/-- The day of a text. -/
def ofText (s : List Char) : Except Cause Found :=
  match front? s with
  | some (day, []) => .ok day
  | _ => ofMoment s

/-- The day of the calendar, which the year 0 is not part of. -/
def onCalendar : Found → Except Cause Date
  | some date => .ok date
  | none => .error .dateOffCalendar

/-- A day. -/
def reader : Reader Date :=
  leaf fun
    | .text s => (ofText s.toList).bind onCalendar
    | .int n =>
      if fitsWord n then (ofCount n 0).bind onCalendar
      else if (Binary64.ofInt n).units?.isSome then .error .dateText
      else .error .noDate
    | .real x => (ofReal x).bind onCalendar
    | _ => .error .noDate

end StreamAudit.Form.Day
