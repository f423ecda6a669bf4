import Mathlib.Algebra.Order.Group.Nat
import Mathlib.Data.Nat.Init
import Mathlib.Order.Basic
import StreamAudit.Calendar.Moment

/-!
The numbering of the days. Numbers grow with the year, the month and the day of the month in this
order (`number_lt_iff`), so a day is known by its number (`number_injective`). Every number from the
first day of year 1 to the last day of year 9999 is the number of a day (`exists_ofNumber?`), and
the day after another one has the next number (`next?_eq_some_iff`).
-/

set_option autoImplicit false
set_option relaxedAutoImplicit false

namespace StreamAudit.Calendar

/-- The number of days of a year. -/
def yearLength (year : Nat) : Nat :=
  if isLeap year then 366 else 365

theorem isLeap_iff {year : Nat} :
    isLeap year = true ↔ year % 4 = 0 ∧ (year % 100 ≠ 0 ∨ year % 400 = 0) := by
  simp [isLeap]

/-- One if a number divides another, as the leap days are counted. -/
def tick (length count : Nat) : Nat :=
  if count % length = 0 then 1 else 0

theorem tick_le_one (length count : Nat) : tick length count ≤ 1 := by
  unfold tick
  split <;> decide

theorem succ_div (length count : Nat) :
    (count + 1) / length = count / length + tick length (count + 1) := by
  rw [Nat.succ_div, tick]
  simp only [Nat.dvd_iff_mod_eq_zero]

theorem yearLength_add_tick (year : Nat) :
    yearLength year + tick 100 year = 365 + tick 4 year + tick 400 year := by
  unfold yearLength tick
  simp only [isLeap_iff]
  split_ifs <;> omega

theorem daysBeforeYear_succ {year : Nat} (hyear : 1 ≤ year) :
    daysBeforeYear (year + 1) = daysBeforeYear year + yearLength year := by
  obtain ⟨earlier, rfl⟩ := Nat.exists_eq_add_of_le' hyear
  have hlength := yearLength_add_tick (earlier + 1)
  have hcentury := tick_le_one 100 (earlier + 1)
  have hle : earlier / 100 ≤ earlier / 4 := by omega
  unfold daysBeforeYear
  simp only [Nat.add_sub_cancel, succ_div]
  omega

theorem daysBeforeYear_mono {first second : Nat} (hfirst : 1 ≤ first) (h : first ≤ second) :
    daysBeforeYear first ≤ daysBeforeYear second := by
  induction second, h using Nat.le_induction with
  | base => exact le_rfl
  | succ year hle ih =>
    rw [daysBeforeYear_succ (hfirst.trans hle)]
    exact ih.trans (Nat.le_add_right _ _)

theorem daysOfMonths_mono (year : Nat) {first second : Nat} (h : first ≤ second) :
    daysOfMonths year first ≤ daysOfMonths year second := by
  induction second, h using Nat.le_induction with
  | base => exact le_rfl
  | succ months _ ih => exact ih.trans (Nat.le_add_right _ _)

theorem daysOfMonths_twelve (year : Nat) : daysOfMonths year 12 = yearLength year := by
  simp only [daysOfMonths, monthLength, yearLength]
  cases isLeap year <;> rfl

namespace Date

/-- A day lies within its month. -/
theorem daysOfMonths_add_day_le (date : Date) :
    daysOfMonths date.year (date.month - 1) + date.day ≤ daysOfMonths date.year date.month := by
  obtain ⟨earlier, hearlier⟩ := Nat.exists_eq_add_of_le' date.month_mem.1
  have hday := date.day_mem.2
  rw [hearlier] at hday ⊢
  exact Nat.add_le_add_left hday _

theorem number_pos (date : Date) : 1 ≤ date.number :=
  date.day_mem.1.trans (Nat.le_add_left _ _)

/-- A day lies within its year. -/
theorem number_mem (date : Date) :
    daysBeforeYear date.year < date.number ∧ date.number ≤ daysBeforeYear (date.year + 1) := by
  have hmonth := date.daysOfMonths_add_day_le
  have htwelve := daysOfMonths_mono date.year date.month_mem.2
  have hday := date.day_mem.1
  rw [daysOfMonths_twelve] at htwelve
  rw [daysBeforeYear_succ date.year_mem.1]
  unfold number
  omega

theorem number_lt_of_year {first second : Date} (h : first.year < second.year) :
    first.number < second.number := by
  have hmono := daysBeforeYear_mono (Nat.succ_le_succ (Nat.zero_le _)) (Nat.succ_le_of_lt h)
  exact (first.number_mem.2.trans hmono).trans_lt second.number_mem.1

theorem year_le_of_le {first second : Date} (h : first ≤ second) : first.year ≤ second.year := by
  by_contra hlater
  exact absurd (number_lt_of_year (Nat.lt_of_not_le hlater)) (Nat.not_lt_of_le h)

theorem number_lt_of_month {first second : Date} (hyear : first.year = second.year)
    (h : first.month < second.month) : first.number < second.number := by
  have hfirst := first.daysOfMonths_add_day_le
  have hmono := daysOfMonths_mono second.year (Nat.le_sub_one_of_lt h)
  have hsecond := second.day_mem.1
  unfold number
  rw [hyear] at hfirst ⊢
  omega

/-- Days come in the order of their years, then of their months, then of their days of the month. -/
theorem number_lt_iff (first second : Date) :
    first.number < second.number ↔ first.year < second.year ∨ first.year = second.year ∧
      (first.month < second.month ∨ first.month = second.month ∧ first.day < second.day) := by
  rcases Nat.lt_trichotomy first.year second.year with hyear | hyear | hyear
  · simp [hyear, number_lt_of_year hyear]
  · rcases Nat.lt_trichotomy first.month second.month with hmonth | hmonth | hmonth
    · simp [hyear, hmonth, number_lt_of_month hyear hmonth]
    · simp [number, hyear, hmonth]
    · have := number_lt_of_month hyear.symm hmonth
      omega
  · have := number_lt_of_year hyear
    omega

theorem ext_parts {first second : Date} (hyear : first.year = second.year)
    (hmonth : first.month = second.month) (hday : first.day = second.day) : first = second := by
  cases first
  cases second
  simp_all

/-- A day is known by its number. -/
theorem number_injective {first second : Date} (h : first.number = second.number) :
    first = second := by
  have hforward := mt (number_lt_iff first second).mpr h.not_lt
  have hbackward := mt (number_lt_iff second first).mpr h.not_gt
  exact ext_parts (by omega) (by omega) (by omega)

end Date

/-! ### From the number to the day -/

/-- The days before a year that is counted by cycles of 400, 100, 4 and 1 years. -/
theorem daysBeforeYear_of_cycles {cycles centuries fours years : Nat} (hcenturies : centuries ≤ 3)
    (hfours : fours ≤ 24) (hyears : years ≤ 3) :
    daysBeforeYear (400 * cycles + 100 * centuries + 4 * fours + years + 1) =
      146097 * cycles + 36524 * centuries + 1461 * fours + 365 * years := by
  have hfour : (400 * cycles + 100 * centuries + 4 * fours + years) / 4 =
      100 * cycles + 25 * centuries + fours := by omega
  have hcentury : (400 * cycles + 100 * centuries + 4 * fours + years) / 100 =
      4 * cycles + centuries := by omega
  have hcycle : (400 * cycles + 100 * centuries + 4 * fours + years) / 400 = cycles := by omega
  unfold daysBeforeYear
  rw [Nat.add_sub_cancel, hfour, hcentury, hcycle]
  omega

theorem yearOf_pos (number : Nat) : 1 ≤ yearOf number :=
  Nat.le_add_left _ _

/-- The year that is found for a number is the one in which the number lies. -/
theorem yearOf_mem {number : Nat} (h : 1 ≤ number) :
    daysBeforeYear (yearOf number) < number ∧ number ≤ daysBeforeYear (yearOf number + 1) := by
  obtain ⟨count, rfl⟩ := Nat.exists_eq_add_of_le' h
  rw [daysBeforeYear_succ (yearOf_pos _)]
  unfold yearOf
  simp only [Nat.add_sub_cancel]
  generalize hcycles : count / 146097 = cycles
  generalize hinCycle : count % 146097 = inCycle
  generalize hcenturies : min 3 (inCycle / 36524) = centuries
  generalize hinCentury : inCycle - 36524 * centuries = inCentury
  generalize hfours : inCentury / 1461 = fours
  generalize hinFour : inCentury % 1461 = inFour
  generalize hyears : min 3 (inFour / 365) = years
  have hcenturies_le : centuries ≤ 3 := by omega
  have hfours_le : fours ≤ 24 := by omega
  have hyears_le : years ≤ 3 := by omega
  rw [daysBeforeYear_of_cycles hcenturies_le hfours_le hyears_le]
  have hcount : count = 146097 * cycles + 36524 * centuries + 1461 * fours + inFour := by omega
  refine ⟨by omega, ?_⟩
  -- A leap year holds every day that can be left; any other holds 365, which is all that can be
  -- left.
  by_cases hleap : isLeap (400 * cycles + 100 * centuries + 4 * fours + years + 1) = true
  · rw [yearLength, if_pos hleap]
    omega
  · rw [yearLength, if_neg hleap]
    rw [isLeap_iff] at hleap
    omega

/-- The month and the day of the month that are found for a day of the year, with the months passed
so far left out. -/
theorem monthAndDay_mem (year later day : Nat) (hlater : later ≤ 11) (hday : 1 ≤ day)
    (hle : daysOfMonths year (11 - later) + day ≤ yearLength year) :
    (1 ≤ (monthAndDay year later day).1 ∧ (monthAndDay year later day).1 ≤ 12) ∧
      (1 ≤ (monthAndDay year later day).2 ∧
        (monthAndDay year later day).2 ≤ monthLength year (monthAndDay year later day).1) ∧
      daysOfMonths year ((monthAndDay year later day).1 - 1) + (monthAndDay year later day).2 =
        daysOfMonths year (11 - later) + day := by
  induction later generalizing day with
  | zero =>
    have htwelve : daysOfMonths year 12 = daysOfMonths year 11 + monthLength year 12 := rfl
    rw [daysOfMonths_twelve] at htwelve
    rw [Nat.sub_zero] at hle
    have hfits : day ≤ monthLength year 12 := by omega
    exact ⟨⟨(by decide : 1 ≤ 12), le_rfl⟩, ⟨hday, hfits⟩, rfl⟩
  | succ later ih =>
    have hmonth : 11 - later = 11 - (later + 1) + 1 := by omega
    have hstep : daysOfMonths year (11 - later) =
        daysOfMonths year (11 - (later + 1)) + monthLength year (11 - later) := by
      rw [hmonth, daysOfMonths]
    unfold monthAndDay
    simp only
    split
    · rename_i hfits
      have hbefore : 11 - later - 1 = 11 - (later + 1) := by omega
      refine ⟨⟨by omega, by omega⟩, ⟨hday, hfits⟩, ?_⟩
      rw [hbefore]
    · rename_i hpast
      have hrest := ih (day - monthLength year (11 - later)) (by omega) (by omega) (by omega)
      omega

namespace Date

/-- The day of a year, a month and a day of the month that exist together. -/
def ofParts (year month day : Nat)
    (h : (1 ≤ day ∧ day ≤ monthLength year month) ∧ (1 ≤ month ∧ month ≤ 12) ∧ 1 ≤ year ∧
      year ≤ 9999 := by decide) :
    Date :=
  ⟨year, month, day, h.2.2, h.2.1, h.1⟩

/-- The first day of the year 2024. -/
def newYear : Date :=
  ⟨2024, 1, 1, by decide, by decide, by decide⟩

/-- The last day of the calendar. -/
def final : Date :=
  ⟨9999, 12, 31, by decide, by decide, by decide⟩

theorem number_le_final (date : Date) : date.number ≤ final.number := by
  have hmono := daysBeforeYear_mono (Nat.le_add_left 1 date.year) (Nat.succ_le_succ date.year_mem.2)
  exact date.number_mem.2.trans (hmono.trans (by decide))

theorem number_lt_final {date : Date} (h : date ≠ final) : date.number < final.number :=
  lt_of_le_of_ne date.number_le_final fun heq ↦ h (number_injective heq)

/-- Every number up to the one of the last day of the calendar belongs to a day. -/
theorem exists_ofNumber? {number : Nat} (hpos : 1 ≤ number) (hle : number ≤ final.number) :
    ∃ date, ofNumber? number = some date ∧ date.number = number := by
  obtain ⟨hlow, hhigh⟩ := yearOf_mem hpos
  have hyear : yearOf number ≤ 9999 := by
    by_contra hlate
    have hmono : daysBeforeYear 10000 ≤ daysBeforeYear (yearOf number) :=
      daysBeforeYear_mono (by decide) (by omega)
    have hend : final.number = daysBeforeYear 10000 := by decide
    omega
  rw [daysBeforeYear_succ (yearOf_pos number)] at hhigh
  have hzero : daysOfMonths (yearOf number) (11 - 11) = 0 := rfl
  obtain ⟨hmonth, hday, hsum⟩ := monthAndDay_mem (yearOf number) 11
    (number - daysBeforeYear (yearOf number)) le_rfl (by omega) (by omega)
  refine ⟨⟨_, _, _, ⟨yearOf_pos number, hyear⟩, hmonth, hday⟩,
    of?_eq_some_iff.mpr ⟨rfl, rfl, rfl⟩, ?_⟩
  unfold Date.number
  simp only
  omega

theorem ofNumber?_number (date : Date) : ofNumber? date.number = some date := by
  obtain ⟨found, hfound, hnumber⟩ := exists_ofNumber? date.number_pos date.number_le_final
  rw [hfound, number_injective hnumber]

/-- The day of a number, and the number of a day, are inverse to each other. -/
theorem ofNumber?_eq_some_iff {number : Nat} {date : Date} :
    ofNumber? number = some date ↔ date.number = number := by
  constructor
  · intro h
    rcases Nat.eq_zero_or_pos number with rfl | hpos
    · rw [show ofNumber? 0 = none by decide] at h
      exact absurd h (by simp)
    · have hyear := (of?_eq_some_iff.mp h).1
      have hle := (yearOf_mem hpos).2
      rw [← hyear] at hle
      have hmono :=
        daysBeforeYear_mono (Nat.le_add_left 1 date.year) (Nat.succ_le_succ date.year_mem.2)
      obtain ⟨found, hfound, hnumber⟩ := exists_ofNumber? hpos (hle.trans (hmono.trans (by decide)))
      rw [h, Option.some.injEq] at hfound
      rw [hfound, hnumber]
  · rintro rfl
    exact ofNumber?_number date

theorem next?_eq_some_iff {date after : Date} :
    date.next? = some after ↔ after.number = date.number + 1 :=
  ofNumber?_eq_some_iff

/-- Every day but the last one of the calendar has a day after it. -/
theorem exists_next? {date : Date} (h : date ≠ final) :
    ∃ after, date.next? = some after ∧ after.number = date.number + 1 :=
  exists_ofNumber? (Nat.le_add_left 1 _) (number_lt_final h)

end Date

end StreamAudit.Calendar
