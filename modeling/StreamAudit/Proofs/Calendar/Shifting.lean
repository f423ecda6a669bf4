import StreamAudit.Proofs.Calendar.Spelling

/-!
Moments as counts of microseconds. A moment is known by its count (`Moment.ofMicros?_eq_some_iff`),
and the counts of the calendar are those from its first midnight to its end. A shift by less than a
day leaves the calendar only from its first day backwards or from its last day forwards
(`Moment.exists_back?_iff`).
-/

set_option autoImplicit false
set_option relaxedAutoImplicit false

namespace StreamAudit.Calendar

namespace TimeOfDay

theorem ofMicros_micros (time : TimeOfDay) : ofMicros time.micros = time := by
  obtain ⟨hour, minute, second, micro, hhour, hminute, hsecond, hmicro⟩ := time
  simp only [ofMicros, micros, TimeOfDay.mk.injEq]
  omega

theorem micros_ofMicros {count : Nat} (h : count < Moment.microsPerDay) :
    (ofMicros count).micros = count := by
  unfold Moment.microsPerDay at h
  simp only [ofMicros, micros]
  omega

end TimeOfDay

/-- The first day of the calendar. -/
def Date.initial : Date :=
  { Date.newYear with year := 1, year_mem := by decide, day_mem := by decide }

theorem Date.eq_initial_iff {date : Date} : date = .initial ↔ date.number = 1 := by
  constructor
  · rintro rfl
    decide
  · intro h
    exact number_injective (h.trans (by decide))

theorem Date.eq_final_iff {date : Date} : date = .final ↔ date.number = Date.final.number :=
  ⟨congrArg Date.number, Date.number_injective⟩

namespace Moment

theorem ofMicros?_micros (moment : Moment) : ofMicros? moment.micros = some moment := by
  have htime := moment.time.micros_lt
  have hday : moment.micros / microsPerDay = moment.date.number := by
    unfold micros microsPerDay at *
    omega
  have hrest : moment.micros % microsPerDay = moment.time.micros := by
    unfold micros microsPerDay at *
    omega
  rw [ofMicros?, if_neg (by omega), Int.toNat_natCast, hday, hrest, Date.ofNumber?_number,
    Option.map_some, TimeOfDay.ofMicros_micros]

/-- A moment and its count are known by each other. -/
theorem ofMicros?_eq_some_iff {count : Int} {moment : Moment} :
    ofMicros? count = some moment ↔ (moment.micros : Int) = count := by
  constructor
  · intro h
    unfold ofMicros? at h
    split_ifs at h with hneg
    obtain ⟨date, hdate, rfl⟩ := Option.map_eq_some_iff.mp h
    have hnumber := Date.ofNumber?_eq_some_iff.mp hdate
    have hlt : count.toNat % microsPerDay < microsPerDay := Nat.mod_lt _ (by decide)
    simp only [micros, hnumber, TimeOfDay.micros_ofMicros hlt, Nat.div_add_mod']
    omega
  · rintro rfl
    exact ofMicros?_micros moment

/-- The counts of the calendar begin with its first midnight and go on to the end of its last
day. -/
theorem exists_ofMicros?_iff {count : Int} : (∃ moment, ofMicros? count = some moment) ↔
    (microsPerDay : Int) ≤ count ∧ count < ((Date.final.number + 1) * microsPerDay : Nat) := by
  simp only [ofMicros?_eq_some_iff]
  constructor
  · rintro ⟨moment, rfl⟩
    have htime := moment.time.micros_lt
    have hfirst := moment.date.number_pos
    have hlast := moment.date.number_le_final
    unfold micros microsPerDay at *
    omega
  · rintro ⟨hlow, hhigh⟩
    have hdays : 1 ≤ count.toNat / microsPerDay ∧
      count.toNat / microsPerDay ≤ Date.final.number := by
      unfold microsPerDay at *
      omega
    obtain ⟨date, -, hnumber⟩ := Date.exists_ofNumber? hdays.1 hdays.2
    refine ⟨⟨date, .ofMicros (count.toNat % microsPerDay)⟩, ?_⟩
    have hlt : count.toNat % microsPerDay < microsPerDay := Nat.mod_lt _ (by decide)
    simp only [micros, hnumber, TimeOfDay.micros_ofMicros hlt, Nat.div_add_mod']
    unfold microsPerDay at *
    omega

theorem back?_eq_some_iff {moment earlier : Moment} {shift : Int} :
    moment.back? shift = some earlier ↔ (earlier.micros : Int) + shift = moment.micros := by
  rw [back?, ofMicros?_eq_some_iff]
  omega

/-- A shift by less than a day stays on the calendar unless it leads from the first day to an
earlier one, or from the last day to a later one. -/
theorem exists_back?_iff {moment : Moment} {shift : Int} (h : shift.natAbs < microsPerDay) :
    (∃ earlier, moment.back? shift = some earlier) ↔
      ¬ (moment.date = .initial ∧ (moment.time.micros : Int) < shift ∨
        moment.date = .final ∧ (microsPerDay : Int) ≤ moment.time.micros - shift) := by
  have htime := moment.time.micros_lt
  have hfirst := moment.date.number_pos
  have hlast := moment.date.number_le_final
  rw [show moment.back? shift = ofMicros? (moment.micros - shift) from rfl, exists_ofMicros?_iff,
    Date.eq_initial_iff, Date.eq_final_iff]
  unfold micros microsPerDay at *
  omega

end Moment

end StreamAudit.Calendar
