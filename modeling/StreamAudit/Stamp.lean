import StreamAudit.Calendar.Iso
import StreamAudit.Label
import StreamAudit.Number.Word

/-!
Labels of stored bucket keys. A text that reads as an ISO 8601 moment becomes the label of its
second in universal time and any other text stays as it is; a number counts milliseconds since 1970;
any other value is spelled out.
-/

set_option autoImplicit false
set_option relaxedAutoImplicit false

namespace StreamAudit.Stamp

open StreamAudit.Calendar StreamAudit.Number

/-- Why a key has no label. -/
inductive Fault where
  | shiftedOffCalendar
  | tooManySeconds
  | yearBeyondClock
  | yearOutOfRange
deriving DecidableEq, Repr

/-- The days before a year of any sign, counted from the first day of year 1. -/
def daysBefore (year : Int) : Int :=
  365 * (year - 1) + (year - 1) / 4 - (year - 1) / 100 + (year - 1) / 400

/-- The second since 1970 at which a year begins. -/
def secondAt (year : Int) : Int :=
  (daysBefore year - 719162) * 86400

/-- The whole seconds and the microseconds of a count of seconds, rounded to the nearest
microsecond, the even one of two. -/
def split? (seconds : Binary64) : Option (Int × Nat) := do
  let whole ← seconds.truncate?
  let micros ← (seconds.fraction.scale 1000000).round?
  if 1000000 ≤ micros then pure (whole + 1, (micros - 1000000).toNat)
  else if micros < 0 then pure (whole - 1, (micros + 1000000).toNat)
  else pure (whole, micros.toNat)

/-- The years on either side of 1900 that 32 bits count, 2^31. -/
def yearSpan : Int :=
  2147483648

/-- The moment that many seconds after the start of 1970. The clock holds 64 bits of seconds, as
doubles round their limit, and counts years since 1900 in 32 bits; the calendar ends earlier. -/
def atSeconds (seconds : Binary64) : Except Fault Moment :=
  match split? seconds with
  | none => .error (if seconds = .nan then .yearOutOfRange else .tooManySeconds)
  | some (whole, micros) =>
    if whole < -wordLimit ∨ wordLimit < whole then .error .tooManySeconds
    else if whole < secondAt (1900 - yearSpan) ∨ secondAt (1900 + yearSpan) ≤ whole then
      .error .yearBeyondClock
    else
      match Moment.ofMicros? (Moment.epoch + whole * 1000000 + micros) with
      | some moment => .ok moment
      | none => .error .yearOutOfRange

/-- The label of a key. -/
def label : Json → Except Fault String
  | .text s =>
    match Iso.read? s with
    | none => .ok s
    | some reading =>
      match reading.universal? with
      | some moment => .ok (Precision.second.render moment)
      | none => .error .shiftedOffCalendar
  | .int millis =>
    (atSeconds (.ofRatio (millis < 0) millis.natAbs 1000)).map Precision.second.render
  | .real millis => (atSeconds (millis.shrink 1000)).map Precision.second.render
  | value => .ok value.spelled

end StreamAudit.Stamp
