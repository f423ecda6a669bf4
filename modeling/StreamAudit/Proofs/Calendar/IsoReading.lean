import StreamAudit.Proofs.Calendar.IsoText
import StreamAudit.Proofs.Calendar.Shifting
import StreamAudit.Proofs.Text.Blank

/-!
What is known of a text that reads as a moment. Four digits stand in front, for its year
(`readOctets?_eq_none`), and its offset from universal time is shorter than a day
(`natAbs_offset_lt`), so that universal time leaves the calendar only around its first and its last
midnight (`exists_universal?_iff`).
-/

set_option autoImplicit false
set_option relaxedAutoImplicit false

namespace StreamAudit.Calendar.Iso

open StreamAudit.Text

/-! ### The front of the text -/

/-- Digits that end too early are no number. -/
theorem number?_eq_none {front : List Nat} {count : Nat} (hshort : front.length < count)
    {mark : Nat} (hmark : isDigit mark = false) (value : Nat) (rest : List Nat) :
    number? value count (front ++ mark :: rest) = none := by
  induction front generalizing count value with
  | nil =>
    obtain ⟨left, rfl⟩ := Nat.exists_eq_add_of_lt hshort
    simp [number?, hmark]
  | cons b front ih =>
    obtain ⟨left, rfl⟩ := Nat.exists_eq_add_of_lt hshort
    rw [List.cons_append, number?]
    split_ifs
    · exact ih (by simp only [List.length_cons]; omega) _
    · rfl

/-- Only a text that begins with the four digits of a year reads as a moment. -/
theorem readOctets?_eq_none {front : List Nat} (hshort : front.length < 4) {mark : Nat}
    (hmark : isDigit mark = false) (rest : List Nat) :
    readOctets? (front ++ mark :: rest) = none := by
  have hdate : ∀ stop, date? (front ++ mark :: rest) stop = none := by
    intro stop
    rw [date?, number?_eq_none hshort hmark]
    rfl
  unfold readOctets?
  split_ifs
  · rfl
  · cases dayEnd? (front ++ mark :: rest) with
    | none => rfl
    | some stop => simp [hdate stop]

/-- A text that begins with a mark of one octet other than a digit reads as no moment. -/
theorem read?_eq_none {s : String} {first : Char} {rest : List Char} (h : s.toList = first :: rest)
    (hfirst : isBlank first = false ∧ Utf8.encodeChar first = [octet first] ∧
      isDigit (octet first) = false) : read? s = none := by
  obtain ⟨hkept, hoctet, hmark⟩ := hfirst
  obtain ⟨left, hleft⟩ := exists_trimList_cons hkept rest
  have hnone : readOctets? ([] ++ octet first :: Utf8.encode left) = none :=
    readOctets?_eq_none (by decide) hmark _
  rw [read?, h, hleft, encode_cons, hoctet]
  exact hnone

theorem encode_map_digitChar (digits : List Nat) :
    Utf8.encode (digits.map digitChar) = digits.map digitOctet := by
  rw [Utf8.encode, List.flatMap_map, List.map_eq_flatMap]
  simp only [encodeChar_digitChar]

/-! ### The offset -/

theorem natAbs_lt_of_offset? {negative : Bool} {clock : Clock} {shift : Int}
    (h : offset? negative clock = some shift) : shift.natAbs < Moment.microsPerDay := by
  unfold offset? at h
  simp only at h
  split_ifs at h with hfollowed hzero hlong hnegative
  all_goals
    obtain rfl := Option.some.inj h
    unfold Moment.microsPerDay at *
    omega

theorem natAbs_lt_of_timeAndOffset? {s : List Nat} {time : TimeOfDay} {shift : Int}
    (h : timeAndOffset? s = some (time, some shift)) : shift.natAbs < Moment.microsPerDay := by
  obtain ⟨clock, -, h⟩ := Option.bind_eq_some_iff.mp h
  obtain ⟨read, -, h⟩ := Option.bind_eq_some_iff.mp h
  split at h
  · split_ifs at h
    cases h
  · split_ifs at h
    · cases h
      decide
    · obtain ⟨later, -, h⟩ := Option.bind_eq_some_iff.mp h
      obtain ⟨offset, hoffset, h⟩ := Option.bind_eq_some_iff.mp h
      cases h
      exact natAbs_lt_of_offset? hoffset

/-- The offset of a moment that was read is shorter than a day. -/
theorem natAbs_offset_lt {s : List Nat} {reading : Reading} (h : readOctets? s = some reading)
    {shift : Int} (hshift : reading.offset = some shift) : shift.natAbs < Moment.microsPerDay := by
  unfold readOctets? at h
  split_ifs at h
  obtain ⟨stop, -, h⟩ := Option.bind_eq_some_iff.mp h
  obtain ⟨date, -, h⟩ := Option.bind_eq_some_iff.mp h
  split_ifs at h
  · cases h
    cases hshift
  · obtain ⟨⟨time, offset⟩, htime, h⟩ := Option.bind_eq_some_iff.mp h
    cases h
    obtain rfl : offset = some shift := hshift
    exact natAbs_lt_of_timeAndOffset? htime

/-! ### Universal time -/

namespace Reading

/-- Whether a reading is of a moment, told in universal time. -/
def IsAt (reading : Reading) (moment : Moment) : Prop :=
  (moment.micros : Int) + reading.offset.getD 0 = reading.moment.micros

/-- Whether a reading is of a time before the first midnight of the calendar or after its end, told
in universal time. -/
def OffCalendar (reading : Reading) : Prop :=
  ∃ shift, reading.offset = some shift ∧
    (reading.moment.date = .initial ∧ (reading.moment.time.micros : Int) < shift ∨
      reading.moment.date = .final ∧
        (Moment.microsPerDay : Int) ≤ reading.moment.time.micros - shift)

theorem universal?_eq_some_iff {reading : Reading} {moment : Moment} :
    reading.universal? = some moment ↔ reading.IsAt moment := by
  unfold universal? IsAt
  cases reading.offset with
  | some shift => exact Moment.back?_eq_some_iff
  | none =>
    rw [Option.some.injEq, Option.getD_none, Int.add_zero]
    constructor
    · rintro rfl
      rfl
    · intro h
      have hfound := Moment.ofMicros?_eq_some_iff.mpr h
      rw [Moment.ofMicros?_micros] at hfound
      exact Option.some.inj hfound

end Reading

/-- A text that reads as a moment has one in universal time unless the offset leads off the
calendar. -/
theorem exists_universal?_iff {s : String} {reading : Reading} (h : read? s = some reading) :
    (∃ moment, reading.universal? = some moment) ↔ ¬ reading.OffCalendar := by
  unfold Reading.universal? Reading.OffCalendar
  cases hshift : reading.offset with
  | none => simp
  | some shift => simpa using Moment.exists_back?_iff (natAbs_offset_lt h hshift)

end StreamAudit.Calendar.Iso
