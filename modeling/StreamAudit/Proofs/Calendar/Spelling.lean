import StreamAudit.Proofs.Calendar.Numbering
import StreamAudit.Proofs.Text.FixedWidth

/-!
Moments in order, as points of time and as texts. A window of days holds the moments whose day is
one of them (`holds_ofDays?`), and moments of whole seconds come in the order of their texts
(`text_lt_text_iff`).
-/

set_option autoImplicit false
set_option relaxedAutoImplicit false

namespace StreamAudit.Calendar

open StreamAudit.Text

theorem monthLength_le (year month : Nat) : monthLength year month ≤ 31 := by
  unfold monthLength
  split_ifs <;> decide

theorem TimeOfDay.micros_lt (time : TimeOfDay) : time.micros < Moment.microsPerDay := by
  have := time.hour_lt
  have := time.minute_lt
  have := time.second_lt
  have := time.micro_lt
  unfold TimeOfDay.micros Moment.microsPerDay
  omega

namespace Moment

theorem le_def {first second : Moment} : first ≤ second ↔ first.micros ≤ second.micros :=
  Iff.rfl

theorem lt_def {first second : Moment} : first < second ↔ first.micros < second.micros :=
  Iff.rfl

theorem micros_midnight (date : Date) : (midnight date).micros = date.number * microsPerDay := by
  simp [micros, midnight, TimeOfDay.midnight, TimeOfDay.micros]

/-- A moment comes before another one if its day does, or else its time on the same day. -/
theorem lt_iff {first second : Moment} :
    first < second ↔ first.date.number < second.date.number ∨
      first.date.number = second.date.number ∧ first.time.micros < second.time.micros := by
  have hfirst := first.time.micros_lt
  have hsecond := second.time.micros_lt
  rw [lt_def]
  unfold micros microsPerDay at *
  omega

theorem midnight_le_iff {date : Date} {moment : Moment} :
    midnight date ≤ moment ↔ date ≤ moment.date := by
  have htime := moment.time.micros_lt
  rw [le_def, micros_midnight, Date.le_def]
  unfold micros microsPerDay at *
  omega

theorem lt_midnight_iff {date : Date} {moment : Moment} :
    moment < midnight date ↔ moment.date.number < date.number := by
  have htime := moment.time.micros_lt
  rw [lt_def, micros_midnight]
  unfold micros microsPerDay at *
  omega

end Moment

namespace Window

/-- Days have a window unless they end with the last day of the calendar. -/
theorem exists_ofDays? (first : Date) {last : Date} (h : last ≠ Date.final) :
    ∃ window, ofDays? first last = some window := by
  obtain ⟨after, hafter, _⟩ := Date.exists_next? h
  exact ⟨_, by rw [ofDays?, hafter]; rfl⟩

/-- The window of some days holds the moments of these days, whatever their time. -/
theorem holds_ofDays? {first last : Date} {window : Window} (h : ofDays? first last = some window)
    (moment : Moment) : window.holds moment = true ↔ first ≤ moment.date ∧ moment.date ≤ last := by
  obtain ⟨after, hafter, rfl⟩ := Option.map_eq_some_iff.mp h
  rw [Date.next?_eq_some_iff] at hafter
  simp only [holds, Bool.and_eq_true, decide_eq_true_eq, Moment.midnight_le_iff,
    Moment.lt_midnight_iff, hafter]
  exact and_congr_right fun _ ↦ Nat.lt_succ_iff

end Window

/-! ### Texts -/

namespace Moment

/-- The characters of a moment down to its seconds. -/
def secondText (moment : Moment) : List Char :=
  fourDigits moment.date.year ++ '-' :: (twoDigits moment.date.month ++ '-' ::
    (twoDigits moment.date.day ++ ' ' :: (twoDigits moment.time.hour ++ ':' ::
      (twoDigits moment.time.minute ++ ':' :: (twoDigits moment.time.second ++ [])))))

theorem toList_text (moment : Moment) : moment.text.toList = moment.secondText := by
  have hyear := moment.date.year_mem.2
  unfold text Date.text clockText secondText
  rw [padded_eq_fourDigits (by omega)]
  simp

/-- The bounds of all parts of a moment. -/
theorem inRange (moment : Moment) :
    moment.date.year ≤ 9999 ∧ (1 ≤ moment.date.month ∧ moment.date.month ≤ 12) ∧
      (1 ≤ moment.date.day ∧ moment.date.day ≤ 31) ∧
      moment.time.hour < 24 ∧ moment.time.minute < 60 ∧ moment.time.second < 60 :=
  ⟨moment.date.year_mem.2, moment.date.month_mem,
    ⟨moment.date.day_mem.1, moment.date.day_mem.2.trans (monthLength_le _ _)⟩,
    moment.time.hour_lt, moment.time.minute_lt, moment.time.second_lt⟩

/-- Texts of moments compare part by part, from the year to the second. -/
theorem text_lt_text_iff_parts {first second : Moment} :
    first.text < second.text ↔ first.date.number < second.date.number ∨
      first.date.number = second.date.number ∧
        (first.time.hour < second.time.hour ∨ first.time.hour = second.time.hour ∧
          (first.time.minute < second.time.minute ∨ first.time.minute = second.time.minute ∧
            first.time.second < second.time.second)) := by
  have hlt : first.text < second.text ↔ first.secondText < second.secondText := by
    rw [← toList_text, ← toList_text]
    rfl
  have hfirst := first.inRange
  have hsecond := second.inRange
  rw [hlt, secondText, secondText, fourDigits_append_lt_iff (by omega) (by omega),
    List.cons_lt_cons_self, twoDigits_append_lt_iff (by omega) (by omega),
    List.cons_lt_cons_self, twoDigits_append_lt_iff (by omega) (by omega),
    List.cons_lt_cons_self, twoDigits_append_lt_iff (by omega) (by omega),
    List.cons_lt_cons_self, twoDigits_append_lt_iff (by omega) (by omega),
    List.cons_lt_cons_self, twoDigits_append_lt_iff (by omega) (by omega)]
  have hforward := Date.number_lt_iff first.date second.date
  have hbackward := Date.number_lt_iff second.date first.date
  simp only [List.not_lt_nil, and_false, or_false]
  omega

theorem text_lt_text_iff {first second : Moment} (hfirst : first.time.micro = 0)
    (hsecond : second.time.micro = 0) : first.text < second.text ↔ first < second := by
  have := first.inRange
  have := second.inRange
  rw [text_lt_text_iff_parts, lt_iff]
  unfold TimeOfDay.micros
  omega

end Moment

end StreamAudit.Calendar
