import Mathlib.Data.List.Nodup
import StreamAudit.Proofs.Calendar.Spelling
import StreamAudit.Proofs.Calendar.Walk

/-!
The days of a range and its window cover the same time. Whoever goes on from day to day until the
last one is passed comes to an end with the days of the range (`walked_iff`), unless the calendar
itself ends with it. Each of these days follows the one before it, and a moment lies in the window
of the range exactly if its day is one of them (`days_cover_window`).
-/

set_option autoImplicit false
set_option relaxedAutoImplicit false

namespace StreamAudit.Calendar

namespace Date

/-- The days that are gone through from a day on: as long as the last one is not passed, the day
itself and those from the next day on. There is no next day at the end of the calendar, so a walk
that has to go on from there has no end. -/
inductive Walked (last : Date) : Date → List Date → Prop where
  | stop {day : Date} (hpast : ¬ day ≤ last) : Walked last day []
  | step {day after : Date} {later : List Date} (hday : day ≤ last)
      (hafter : day.next? = some after)
      (hlater : Walked last after later) : Walked last day (day :: later)

variable {first last : Date}

theorem upTo_of_not_le (h : ¬ first ≤ last) : upTo first last = [] := by
  rw [le_def] at h
  rw [upTo, show last.number + 1 - first.number = 0 by omega, walk]

theorem upTo_of_le {after : Date} (h : first ≤ last) (hafter : first.next? = some after) :
    upTo first last = first :: upTo after last := by
  have hnumber := next?_eq_some_iff.mp hafter
  rw [le_def] at h
  have hcount : last.number + 1 - first.number = last.number + 1 - after.number + 1 := by omega
  rw [upTo, hcount, walk, hafter, Option.map_some, Option.getD_some, upTo]

theorem eq_upTo_of_walked {days : List Date} (h : Walked last first days) :
    days = upTo first last := by
  induction h with
  | stop hpast => exact (upTo_of_not_le hpast).symm
  | step hday hafter _ ih => rw [upTo_of_le hday hafter, ih]

/-- Whoever sets out from a day up to the end of the calendar cannot stop behind it. -/
theorem not_walked_final {days : List Date} (h : first ≤ final) : ¬ Walked final first days := by
  intro hwalked
  induction hwalked with
  | stop hpast => exact hpast h
  | step _ _ _ ih => exact ih (number_le_final _)

theorem walked_upTo (first : Date) (h : last ≠ final) : Walked last first (upTo first last) := by
  -- Each step leaves one day less in front of the last one.
  induction hleft : last.number + 1 - first.number generalizing first with
  | zero =>
    have hpast : ¬ first ≤ last := by
      rw [le_def]
      omega
    rw [upTo_of_not_le hpast]
    exact .stop hpast
  | succ left ih =>
    have hday : first ≤ last := by
      rw [le_def]
      omega
    have hbefore : first.number < final.number := lt_of_le_of_lt hday (number_lt_final h)
    obtain ⟨after, hafter, hnumber⟩ := exists_next? (ne_final_of_lt hbefore)
    rw [upTo_of_le hday hafter]
    exact .step hday hafter (ih after (by omega))

/-- A walk ends exactly with the days of the range, and it ends unless it has to go on from the end
of the calendar. -/
theorem walked_iff {days : List Date} :
    Walked last first days ↔ days = upTo first last ∧ (first ≤ last → last ≠ final) := by
  constructor
  · intro hwalked
    refine ⟨eq_upTo_of_walked hwalked, ?_⟩
    rintro hrange rfl
    exact not_walked_final hrange hwalked
  · rintro ⟨rfl, hend⟩
    by_cases hrange : first ≤ last
    · exact walked_upTo first (hend hrange)
    · rw [upTo_of_not_le hrange]
      exact .stop hrange

/-- Each day of a walk is followed by the next one of the calendar. -/
theorem isChain_of_walked {days : List Date} (h : Walked last first days) :
    days.IsChain fun day later ↦ day.next? = some later := by
  induction h with
  | stop => exact .nil
  | @step day after later hday hafter hlater ih =>
    cases hlater with
    | stop => exact .singleton day
    | step => exact .cons_cons hafter ih

theorem nodup_upTo (first last : Date) : (upTo first last).Nodup := by
  refine (pairwise_upTo first last).imp fun hlt ↦ ?_
  rintro rfl
  exact lt_irrefl _ hlt

/-- Each day between the first and the last one is passed once, and no other one is passed. -/
theorem count_upTo (first last day : Date) :
    (upTo first last).count day = if first ≤ day ∧ day ≤ last then 1 else 0 := by
  split
  · exact List.count_eq_one_of_mem (nodup_upTo first last) (mem_upTo_iff.mpr ‹_›)
  · exact List.count_eq_zero_of_not_mem fun hmem ↦ ‹¬ _› (mem_upTo_iff.mp hmem)

/-- A range that does not end with the calendar is gone through day by day to its end: its days
follow each other, each comes once, and no other day comes. Its window holds the moments of these
days and no others. -/
theorem days_cover_window (first : Date) (h : last ≠ final) :
    (∀ days, Walked last first days ↔ days = upTo first last) ∧
    ((upTo first last).IsChain fun day later ↦ day.next? = some later) ∧
    (∀ day, (upTo first last).count day = if first ≤ day ∧ day ≤ last then 1 else 0) ∧
    (¬ first ≤ last → upTo first last = []) ∧
    ∃ window, Window.ofDays? first last = some window ∧ ∀ moment : Moment,
      window.start ≤ moment ∧ moment < window.stop ↔ moment.date ∈ upTo first last := by
  obtain ⟨window, hwindow⟩ := Window.exists_ofDays? first h
  refine ⟨fun days ↦ ?_, isChain_of_walked (walked_upTo first h), count_upTo first last,
    upTo_of_not_le, window, hwindow, fun moment ↦ ?_⟩
  · rw [walked_iff]
    exact and_iff_left fun _ ↦ h
  · rw [mem_upTo_iff, ← Window.holds_ofDays? hwindow, Window.holds, Bool.and_eq_true,
      decide_eq_true_eq, decide_eq_true_eq]

namespace LeapYear

/-- The day before the leap day. -/
def before : Date :=
  .ofParts 2024 2 28

/-- The leap day. -/
def leapDay : Date :=
  .ofParts 2024 2 29

/-- The day after it. -/
def after : Date :=
  .ofParts 2024 3 1

/-- The end of February is walked through by way of the leap day, whose last microsecond lies in the
window. -/
theorem leapDay_walked : after ≠ final ∧ Walked after before [before, leapDay, after] ∧
    ∃ window, Window.ofDays? before after = some window ∧
      window.start ≤ (⟨leapDay, .ofMicros 86399999999⟩ : Moment) ∧
        (⟨leapDay, .ofMicros 86399999999⟩ : Moment) < window.stop := by
  have hend : after ≠ final := by decide
  have hdays : [before, leapDay, after] = upTo before after := by decide +kernel
  obtain ⟨hwalked, -, -, -, window, hwindow, hcovers⟩ := days_cover_window before hend
  have hmem : leapDay ∈ upTo before after := by
    rw [← hdays]
    decide
  exact ⟨hend, (hwalked _).mpr hdays, window, hwindow,
    (hcovers ⟨leapDay, .ofMicros 86399999999⟩).mpr hmem⟩

end LeapYear

end Date

end StreamAudit.Calendar
