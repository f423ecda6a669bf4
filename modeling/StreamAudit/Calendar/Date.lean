import StreamAudit.Text.Digit

/-!
Days of the years 1 to 9999 in the Gregorian calendar. A day is a year, a month and a day of the
month that exist together; days are numbered from 1 at the first day of year 1, and the walk from
one day to another goes by that number.
-/

set_option autoImplicit false
set_option relaxedAutoImplicit false

namespace StreamAudit.Calendar

open StreamAudit.Text

/-- Every fourth year, but of the full centuries only every fourth. -/
def isLeap (year : Nat) : Bool :=
  year % 4 == 0 && (year % 100 != 0 || year % 400 == 0)

/-- The number of days of a month. -/
def monthLength (year month : Nat) : Nat :=
  if month = 2 then (if isLeap year then 29 else 28)
  else if month = 4 ∨ month = 6 ∨ month = 9 ∨ month = 11 then 30
  else 31

/-- A day of the years 1 to 9999. -/
structure Date where
  year : Nat
  month : Nat
  day : Nat
  year_mem : 1 ≤ year ∧ year ≤ 9999
  month_mem : 1 ≤ month ∧ month ≤ 12
  day_mem : 1 ≤ day ∧ day ≤ monthLength year month
deriving DecidableEq

theorem january_mem : 1 ≤ 1 ∧ 1 ≤ 12 := by
  decide

/-- The first day of Unix time. -/
def Date.unixStart : Date :=
  ⟨1970, 1, 1, by decide, january_mem, by decide⟩

/-- The days before a year. -/
def daysBeforeYear (year : Nat) : Nat :=
  365 * (year - 1) + (year - 1) / 4 - (year - 1) / 100 + (year - 1) / 400

/-- The days of the first months of a year. -/
def daysOfMonths (year : Nat) : Nat → Nat
  | 0 => 0
  | months + 1 => daysOfMonths year months + monthLength year (months + 1)

/-- The year in which a numbered day lies, by cycles of 400, 100, 4 and 1 years; the last century of
a cycle and the last year of four are a day longer than the others. -/
def yearOf (number : Nat) : Nat :=
  let cycles := (number - 1) / 146097
  let inCycle := (number - 1) % 146097
  let centuries := min 3 (inCycle / 36524)
  let inCentury := inCycle - 36524 * centuries
  let fours := inCentury / 1461
  let inFour := inCentury % 1461
  let years := min 3 (inFour / 365)
  400 * cycles + 100 * centuries + 4 * fours + years + 1

/-- The month and the day of the month of a day of the year, looked for among the last months. -/
def monthAndDay (year : Nat) : Nat → Nat → Nat × Nat
  | 0, day => (12, day)
  | later + 1, day =>
    let length := monthLength year (11 - later)
    if day ≤ length then (11 - later, day) else monthAndDay year later (day - length)

namespace Date

/-- The day of a year, a month and a day of the month, if it exists. -/
def of? (year month day : Nat) : Option Date :=
  if h : (1 ≤ year ∧ year ≤ 9999) ∧ (1 ≤ month ∧ month ≤ 12) ∧ 1 ≤ day ∧
    day ≤ monthLength year month
  then some ⟨year, month, day, h.1, h.2.1, h.2.2⟩
  else none

/-- The number of a day, counted from the first day of year 1. -/
def number (date : Date) : Nat :=
  daysBeforeYear date.year + daysOfMonths date.year (date.month - 1) + date.day

/-- The day of a number. -/
def ofNumber? (number : Nat) : Option Date :=
  let year := yearOf number
  let (month, day) := monthAndDay year 11 (number - daysBeforeYear year)
  of? year month day

/-- The next day; the last day of year 9999 has none. -/
def next? (date : Date) : Option Date :=
  ofNumber? (date.number + 1)

instance : LE Date where
  le first second := first.number ≤ second.number

instance (first second : Date) : Decidable (first ≤ second) :=
  inferInstanceAs (Decidable (first.number ≤ second.number))

theorem le_def {first second : Date} : first ≤ second ↔ first.number ≤ second.number :=
  Iff.rfl

theorem of?_eq_some_iff {year month day : Nat} {date : Date} :
    of? year month day = some date ↔ date.year = year ∧ date.month = month ∧ date.day = day := by
  unfold of?
  constructor
  · intro h
    split at h
    · rw [Option.some.injEq] at h
      subst h
      simp
    · simp at h
  · rintro ⟨rfl, rfl, rfl⟩
    rw [dif_pos ⟨date.year_mem, date.month_mem, date.day_mem⟩]

/-- A day and the days after it, at most the given number of them. -/
def walk : Nat → Date → List Date
  | 0, _ => []
  | count + 1, date => date :: (date.next?.map (walk count)).getD []

/-- The days from one to another, both included. -/
def upTo (first last : Date) : List Date :=
  walk (last.number + 1 - first.number) first

/-- Four digits, two and two, with hyphens between. -/
def text (date : Date) : String :=
  String.ofList (padded 4 date.year ++ '-' :: twoDigits date.month ++ '-' :: twoDigits date.day)

end Date

end StreamAudit.Calendar
