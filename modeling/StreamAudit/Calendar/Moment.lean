import StreamAudit.Calendar.Date

/-!
Moments: a day with a time of day to the microsecond. Moments are counted in microseconds from the
first midnight of day 0, and shifted by an offset through that count.
-/

set_option autoImplicit false
set_option relaxedAutoImplicit false

namespace StreamAudit.Calendar

open StreamAudit.Text

/-- A time of day. -/
structure TimeOfDay where
  hour : Nat
  minute : Nat
  second : Nat
  micro : Nat
  hour_lt : hour < 24
  minute_lt : minute < 60
  second_lt : second < 60
  micro_lt : micro < 1000000
deriving DecidableEq

/-- A moment of the years 1 to 9999. -/
structure Moment where
  date : Date
  time : TimeOfDay
deriving DecidableEq

namespace TimeOfDay

/-- The time of its parts, if they are in range. -/
def of? (hour minute second micro : Nat) : Option TimeOfDay :=
  if h : hour < 24 ∧ minute < 60 ∧ second < 60 ∧ micro < 1000000 then
    some ⟨hour, minute, second, micro, h.1, h.2.1, h.2.2.1, h.2.2.2⟩
  else none

/-- The start of a day. -/
def midnight : TimeOfDay :=
  ⟨0, 0, 0, 0, by decide, by decide, by decide, by decide⟩

/-- The time with the seconds and all below dropped. -/
def toMinute (time : TimeOfDay) : TimeOfDay :=
  { time with second := 0, micro := 0, second_lt := by decide, micro_lt := by decide }

/-- Microseconds since midnight. -/
def micros (time : TimeOfDay) : Nat :=
  ((time.hour * 60 + time.minute) * 60 + time.second) * 1000000 + time.micro

/-- The time of a number of microseconds since midnight, whole days dropped. -/
def ofMicros (count : Nat) : TimeOfDay where
  hour := count / 3600000000 % 24
  minute := count / 60000000 % 60
  second := count / 1000000 % 60
  micro := count % 1000000
  hour_lt := Nat.mod_lt _ (by decide)
  minute_lt := Nat.mod_lt _ (by decide)
  second_lt := Nat.mod_lt _ (by decide)
  micro_lt := Nat.mod_lt _ (by decide)

end TimeOfDay

namespace Moment

/-- The microseconds of a day. -/
def microsPerDay : Nat :=
  86400000000

/-- The start of a day. -/
def midnight (date : Date) : Moment :=
  ⟨date, .midnight⟩

/-- The first moment of Unix time. -/
def unixStart : Moment :=
  midnight .unixStart

/-- Microseconds since midnight before the day that has the number 0. -/
def micros (moment : Moment) : Nat :=
  moment.date.number * microsPerDay + moment.time.micros

/-- The moment of a count of microseconds. -/
def ofMicros? (count : Int) : Option Moment :=
  if count < 0 then none
  else
    (Date.ofNumber? (count.toNat / microsPerDay)).map fun date ↦
      ⟨date, .ofMicros (count.toNat % microsPerDay)⟩

/-- The moment that many microseconds earlier. -/
def back? (moment : Moment) (micros : Int) : Option Moment :=
  ofMicros? (moment.micros - micros)

instance : LE Moment where
  le first second := first.micros ≤ second.micros

instance : LT Moment where
  lt first second := first.micros < second.micros

instance (first second : Moment) : Decidable (first ≤ second) :=
  inferInstanceAs (Decidable (first.micros ≤ second.micros))

instance (first second : Moment) : Decidable (first < second) :=
  inferInstanceAs (Decidable (first.micros < second.micros))

/-- The minute in which a moment lies. -/
def toMinute (moment : Moment) : Moment :=
  ⟨moment.date, moment.time.toMinute⟩

/-- Hours, minutes and seconds with colons between. -/
def clockText (time : TimeOfDay) : List Char :=
  twoDigits time.hour ++ ':' :: twoDigits time.minute ++ ':' :: twoDigits time.second

/-- Day and time of day, the year in four digits. -/
def text (moment : Moment) : String :=
  moment.date.text ++ String.ofList (' ' :: clockText moment.time)

/-- The start of the Unix epoch in microseconds. -/
def epoch : Nat :=
  719163 * microsPerDay

end Moment

/-- A span of time that holds its start but not its end. -/
structure Window where
  start : Moment
  stop : Moment
deriving DecidableEq

namespace Window

/-- The moments from the start of the first day to the end of the last; the last day of year 9999
has no such end. -/
def ofDays? (first last : Date) : Option Window :=
  last.next?.map fun after ↦ ⟨.midnight first, .midnight after⟩

/-- Whether a moment lies in the span. -/
def holds (window : Window) (moment : Moment) : Bool :=
  window.start ≤ moment && moment < window.stop

end Window

end StreamAudit.Calendar
