import StreamAudit.Calendar.Moment
import StreamAudit.Text.Blank
import StreamAudit.Text.Utf8

/-!
Reading ISO 8601 moments. The day is a calendar or a week date, with or without hyphens; any single
character separates it from the time; the time may stop after any of its parts, may leave out the
colons, and may carry a fraction and an offset. Places are counted in octets of the UTF-8 form, and
an octet past the end counts as zero.
-/

set_option autoImplicit false
set_option relaxedAutoImplicit false

namespace StreamAudit.Calendar.Iso

open StreamAudit.Text

/-- The octet of an ASCII character. -/
abbrev octet (c : Char) : Nat :=
  c.toNat

/-- The octet at a place, zero past the end. -/
def octetAt (s : List Nat) (place : Nat) : Nat :=
  s.getD place 0

/-- Whether an octet is a digit. -/
def isDigit (b : Nat) : Bool :=
  48 ≤ b && b ≤ 57

/-- Reads exactly that many digits behind a value already read. -/
def number? (value : Nat) : Nat → List Nat → Option (Nat × List Nat)
  | 0, rest => some (value, rest)
  | _ + 1, [] => none
  | count + 1, b :: rest =>
    if isDigit b then number? (value * 10 + (b - 48)) count rest else none

/-- Where the day ends, told apart by the marks at the fourth, fifth and eighth place. In a week
date without hyphens the digits that follow the week decide whether the first of them is the day. -/
def dayEnd? (s : List Nat) : Option Nat :=
  let size := s.length
  if size = 7 then some 7
  else if octetAt s 4 = octet '-' then
    if octetAt s 5 = octet 'W' then
      if 8 < size ∧ octetAt s 8 = octet '-' then
        if size = 9 then none
        else if 10 < size ∧ isDigit (octetAt s 10) then some 8
        else some 10
      else some 8
    else some 10
  else if octetAt s 4 = octet 'W' then
    let stop := 7 + ((s.drop 7).takeWhile isDigit).length
    if stop < 9 then some stop else if stop % 2 = 0 then some 7 else some 8
  else some 8

/-- The weekday of the first day of a year, Monday being zero. -/
def firstWeekday (year : Nat) : Nat :=
  daysBeforeYear year % 7

/-- Years that begin on a Thursday, or on a Wednesday if they are leap years, have 53 weeks. -/
def hasLongYear (year : Nat) : Bool :=
  firstWeekday year == 3 || (firstWeekday year == 2 && isLeap year)

/-- The number of the Monday of the first week, the one that holds the first Thursday. -/
def firstMonday (year : Nat) : Int :=
  let monday : Int := daysBeforeYear year + 1 - firstWeekday year
  if 3 < firstWeekday year then monday + 7 else monday

/-- The day of a week date. -/
def ofWeek? (year week weekday : Nat) : Option Date :=
  if (1 ≤ year ∧ year ≤ 9999) ∧ (1 ≤ week ∧ (week ≤ 52 ∨ week = 53 ∧ hasLongYear year)) ∧
      1 ≤ weekday ∧ weekday ≤ 7 then
    Date.ofNumber? (firstMonday year + ((week - 1) * 7 + (weekday - 1) : Nat)).toNat
  else none

/-- Reads a hyphen where the day is written with hyphens, and nothing otherwise. -/
def hyphen? (hyphens : Bool) (s : List Nat) : Option (List Nat) :=
  if hyphens then
    match s with
    | b :: rest => if b = octet '-' then some rest else none
    | [] => none
  else some s

/-- The day that ends at a place. -/
def date? (s : List Nat) (stop : Nat) : Option Date := do
  let (year, afterYear) ← number? 0 4 s
  let hyphens := afterYear.head? = some (octet '-')
  let rest := if hyphens then afterYear.drop 1 else afterYear
  if rest.head? = some (octet 'W') then
    let (week, afterWeek) ← number? 0 2 (rest.drop 1)
    if s.length - afterWeek.length < stop then
      let (weekday, _) ← number? 0 1 (← hyphen? hyphens afterWeek)
      ofWeek? year week weekday
    else ofWeek? year week 1
  else
    let (month, afterMonth) ← number? 0 2 rest
    let (day, _) ← number? 0 2 (← hyphen? hyphens afterMonth)
    Date.of? year month day

/-- Hours, minutes, seconds and microseconds as they were read, and whether something follows. -/
structure Clock where
  parts : List Nat
  micro : Nat
  followed : Bool

/-- Up to six digits of a fraction count; further digits are skipped. -/
def fraction? (parts : List Nat) (left : Nat) (s : List Nat) : Option Clock := do
  let count := min 6 left
  let (value, rest) ← number? 0 count s
  pure ⟨parts, value * Nat.pow 10 (6 - count), (rest.dropWhile isDigit).headD 0 != 0⟩

/-- Reads the parts of a time of which `left` octets are left. Whether there are colons is decided
behind the first part; a point or a comma begins the fraction after any part. -/
def clock? : Nat → Option Bool → List Nat → Nat → List Nat → Option Clock
  | 0, _, parts, left, s => fraction? parts left s
  | count + 1, colons?, parts, left, s =>
    match number? 0 2 s with
    | none => none
    | some (value, rest) =>
      let read := parts ++ [value]
      let next := rest.headD 0
      let colons := colons?.getD (next == octet ':')
      if left ≤ 3 then some ⟨read, 0, next != 0⟩
      else if colons && next == octet ':' then
        clock? count (some colons) read (left - 3) (rest.drop 1)
      else if next == octet '.' || next == octet ',' then fraction? read (left - 3) (rest.drop 1)
      else if !colons then clock? count (some colons) read (left - 2) rest
      else none

/-- The seconds of a time that was read. -/
def Clock.seconds (clock : Clock) : Nat :=
  (clock.parts.getD 0 0 * 60 + clock.parts.getD 1 0) * 60 + clock.parts.getD 2 0

/-- The time of day that was read. -/
def Clock.time? (clock : Clock) : Option TimeOfDay :=
  TimeOfDay.of? (clock.parts.getD 0 0) (clock.parts.getD 1 0) (clock.parts.getD 2 0) clock.micro

/-- The offset east of Greenwich in microseconds, shorter than a day; a fraction of a second alone
is no offset. -/
def offset? (negative : Bool) (clock : Clock) : Option Int :=
  let micros := clock.seconds * 1000000 + clock.micro
  if clock.followed then none
  else if clock.seconds = 0 then some 0
  else if Moment.microsPerDay ≤ micros then none
  else some (if negative then -(micros : Int) else micros)

/-- Whether an octet begins an offset. -/
def beginsOffset (b : Nat) : Bool :=
  b == octet '+' || b == octet '-' || b == octet 'Z'

/-- Reads a time of day with its offset. -/
def timeAndOffset? (s : List Nat) : Option (TimeOfDay × Option Int) := do
  let place := (s.takeWhile fun b ↦ !beginsOffset b).length
  let clock ← clock? 3 none [] place s
  let time ← clock.time?
  match s.drop place with
  | [] => if clock.followed then none else pure (time, none)
  | sign :: after =>
    if sign = octet 'Z' then
      if after.headD 0 = 0 then pure (time, some 0) else none
    else
      let offset ← offset? (sign == octet '-') (← clock? 3 none [] after.length after)
      pure (time, some offset)

/-- A moment that was read, with its offset if it has one. -/
structure Reading where
  moment : Moment
  offset : Option Int

/-- The number of octets of the character that begins with an octet. -/
def widthOf (lead : Nat) : Nat :=
  if lead < 0x80 then 1 else if lead < 0xE0 then 2 else if lead < 0xF0 then 3 else 4

/-- Reads a moment. A day may stand alone; what follows it is one character and a time. -/
def readOctets? (s : List Nat) : Option Reading :=
  if s.length < 7 then none
  else do
    let stop ← dayEnd? s
    let date ← date? s stop
    if s.length ≤ stop then pure ⟨⟨date, .midnight⟩, none⟩
    else
      let (time, offset) ← timeAndOffset? (s.drop (stop + widthOf (octetAt s stop)))
      pure ⟨⟨date, time⟩, offset⟩

/-- Reads a moment. -/
def readExact? (s : String) : Option Reading :=
  readOctets? (Utf8.encode s.toList)

/-- Reads a moment after trimming. -/
def read? (s : String) : Option Reading :=
  readOctets? (Utf8.encode (trimList isBlank s.toList))

/-- The moment in universal time, if it lies in the calendar. -/
def Reading.universal? (reading : Reading) : Option Moment :=
  match reading.offset with
  | none => some reading.moment
  | some offset => reading.moment.back? offset

end StreamAudit.Calendar.Iso
