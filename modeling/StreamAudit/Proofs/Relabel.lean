import StreamAudit.Proofs.Calendar.IsoText
import StreamAudit.Stamp

/-!
Labels that are read again. The key of a second, written as a text, is stamped with the label of
that second (`label_text`), and from the year 1000 on such a label is read at every precision as the
label of the same moment (`relabel?_render_second`). Years below 1000 are written without zeros in
front, so that their labels are too short to be read.
-/

set_option autoImplicit false
set_option relaxedAutoImplicit false

namespace StreamAudit

open StreamAudit.Calendar StreamAudit.Text

namespace Label

/-- A shape reads what it needs and leaves what follows. -/
theorem Shape.read?_append (shape : Shape) {s : List Char} (h : shape.length ≤ s.length)
    (value : Nat) (rest : List Char) : Shape.read? value shape (s ++ rest) =
      (Shape.read? value shape s).map fun found ↦ (found.1, found.2 ++ rest) := by
  induction shape generalizing s value with
  | nil => simp [Shape.read?]
  | cons slot slots ih =>
    cases s with
    | nil => simp at h
    | cons c left =>
      simp only [List.cons_append, Shape.read?]
      cases slot.read? c with
      | none => rfl
      | some d => exact ih (Nat.le_of_succ_le_succ h) _

theorem findSome?_append {shapes : List Shape} {s : List Char}
    (h : ∀ shape ∈ shapes, shape.length ≤ s.length) (rest : List Char) :
    shapes.findSome? (Shape.read? 0 · (s ++ rest)) =
      (shapes.findSome? (Shape.read? 0 · s)).map fun found ↦ (found.1, found.2 ++ rest) := by
  induction shapes with
  | nil => rfl
  | cons shape shapes ih =>
    simp only [List.findSome?_cons, Shape.read?_append shape (h shape (by simp)),
      ih fun other hother ↦ h other (by simp [hother])]
    cases Shape.read? 0 shape s <;> rfl

/-- The ways in which a part can be written, none if it is no number. -/
def Part.shapes : Part → List Shape
  | .number shapes => shapes
  | _ => []

/-- A number that its shapes read to the end is read in front of any rest. -/
theorem readParts_number {part : Part} (hnumber : part = .number part.shapes) {s : List Char}
    {value : Nat} (hread : part.shapes.findSome? (Shape.read? 0 · s) = some (value, []))
    (hlength : ∀ shape ∈ part.shapes, shape.length ≤ s.length) (parts : List Part)
    (rest : List Char) :
    readParts (part :: parts) (s ++ rest) = (readParts parts rest).map (value :: ·) := by
  rw [hnumber, readParts, findSome?_append hlength, hread]
  rfl

theorem readParts_mark (c : Char) (parts : List Part) (rest : List Char) :
    readParts (.mark c :: parts) (c :: rest) = readParts parts rest := by
  simp [readParts]

/-! ### The parts of a moment -/

theorem readParts_year {year : Nat} (h : year < 10000) (parts : List Part) (rest : List Char) :
    readParts (yearPart :: parts) (fourDigits year ++ rest) =
      (readParts parts rest).map (year :: ·) := by
  have hvalue : (((0 * 10 + year / 1000 % 10) * 10 + year / 100 % 10) * 10 + year / 10 % 10) * 10 +
      year % 10 = year := by omega
  refine readParts_number rfl ?_ (by simp [yearPart, Part.shapes, fourDigits]) parts rest
  simp only [yearPart, Part.shapes, List.findSome?_cons, fourDigits, Shape.read?, Slot.read?,
    digit?_digitChar, hvalue]

theorem readParts_month {month : Nat} (h : 1 ≤ month ∧ month ≤ 12) (parts : List Part)
    (rest : List Char) : readParts (monthPart :: parts) (twoDigits month ++ rest) =
      (readParts parts rest).map (month :: ·) := by
  have hall : ∀ n < 13, 1 ≤ n →
      monthPart.shapes.findSome? (Shape.read? 0 · (twoDigits n)) = some (n, []) := by decide
  exact readParts_number rfl (hall month (by omega) h.1)
    (by simp [monthPart, Part.shapes, twoDigits]) parts rest

theorem readParts_day {day : Nat} (h : 1 ≤ day ∧ day ≤ 31) (parts : List Part)
    (rest : List Char) : readParts (dayPart :: parts) (twoDigits day ++ rest) =
      (readParts parts rest).map (day :: ·) := by
  have hall : ∀ n < 32, 1 ≤ n →
      dayPart.shapes.findSome? (Shape.read? 0 · (twoDigits n)) = some (n, []) := by decide
  exact readParts_number rfl (hall day (by omega) h.1)
    (by simp [dayPart, Part.shapes, twoDigits]) parts rest

theorem readParts_hour {hour : Nat} (h : hour < 24) (parts : List Part) (rest : List Char) :
    readParts (hourPart :: parts) (twoDigits hour ++ rest) =
      (readParts parts rest).map (hour :: ·) := by
  have hall : ∀ n < 24, hourPart.shapes.findSome? (Shape.read? 0 · (twoDigits n)) =
      some (n, []) := by decide
  exact readParts_number rfl (hall hour h) (by simp [hourPart, Part.shapes, twoDigits]) parts rest

theorem readParts_minute {minute : Nat} (h : minute < 60) (parts : List Part) (rest : List Char) :
    readParts (minutePart :: parts) (twoDigits minute ++ rest) =
      (readParts parts rest).map (minute :: ·) := by
  have hall : ∀ n < 60, minutePart.shapes.findSome? (Shape.read? 0 · (twoDigits n)) =
      some (n, []) := by decide
  exact readParts_number rfl (hall minute h) (by simp [minutePart, Part.shapes, twoDigits])
    parts rest

theorem readParts_second {second : Nat} (h : second < 60) (parts : List Part) (rest : List Char) :
    readParts (secondPart :: parts) (twoDigits second ++ rest) =
      (readParts parts rest).map (second :: ·) := by
  have hall : ∀ n < 60, secondPart.shapes.findSome? (Shape.read? 0 · (twoDigits n)) =
      some (n, []) := by decide
  exact readParts_number rfl (hall second h) (by simp [secondPart, Part.shapes, twoDigits])
    parts rest

theorem readParts_gap (parts : List Part) (n : Nat) (rest : List Char) :
    readParts (.gap :: parts) (' ' :: (twoDigits n ++ rest)) =
      readParts parts (twoDigits n ++ rest) := by
  have hspace : isBlank ' ' = true := by decide
  have hdigit : isBlank (digitChar (n / 10)) ≠ true := by simp [isBlank_digitChar]
  simp only [readParts, hspace, if_true, twoDigits, List.cons_append,
    List.dropWhile_cons_of_neg hdigit]

/-- The part of a text that shows the day is read as the day. -/
theorem readParts_front (date : Date) (parts : List Part) (rest : List Char) :
    readParts (yearPart :: .mark '-' :: monthPart :: .mark '-' :: dayPart :: parts)
      (fourDigits date.year ++ '-' ::
        (twoDigits date.month ++ '-' :: (twoDigits date.day ++ rest))) =
      (readParts parts rest).map fun values ↦ date.year :: date.month :: date.day :: values := by
  have hyear := date.year_mem.2
  have hday := And.intro date.day_mem.1 (date.day_mem.2.trans (monthLength_le _ _))
  rw [readParts_year (by omega), readParts_mark, readParts_month date.month_mem, readParts_mark,
    readParts_day hday]
  simp only [Option.map_map]
  rfl

end Label

namespace Precision

open StreamAudit.Label

/-- The moment that a label still shows. -/
def floor (precision : Precision) (moment : Moment) : Moment :=
  match precision with
  | .second => moment.toSecond
  | .hour => ⟨moment.date, moment.time.toHour⟩
  | .day => .midnight moment.date

theorem render_floor (precision : Precision) (moment : Moment) :
    precision.render (precision.floor moment) = precision.render moment := by
  cases precision <;> rfl

/-- A label shows the first characters of the text of its moment. -/
theorem toList_render (precision : Precision) {moment : Moment} (h : 1000 ≤ moment.date.year) :
    (precision.render moment).toList = moment.secondText.take precision.width := by
  have hyear := moment.date.year_mem.2
  have hdigits := toDigits_eq_fourDigits h (by omega)
  cases precision <;>
    simp [render, hdigits, Moment.secondText, Moment.clockText, width, fourDigits, twoDigits]

theorem render_second_eq_text {moment : Moment} (h : 1000 ≤ moment.date.year) :
    Precision.second.render moment = moment.text := by
  rw [← String.toList_inj, toList_render _ h, Moment.toList_text]
  rfl

/-- The characters of a moment down to its day, with what follows them. -/
def frontText (date : Date) (rest : List Char) : List Char :=
  fourDigits date.year ++ '-' :: (twoDigits date.month ++ '-' :: (twoDigits date.day ++ rest))

theorem readAll?_take (precision : Precision) (moment : Moment) :
    precision.readAll? (moment.secondText.take precision.width) =
      some (precision.floor moment) := by
  have hdate := Iso.of?_parts moment.date
  cases precision with
  | day =>
    have htext : moment.secondText.take Precision.day.width = frontText moment.date [] := rfl
    rw [htext, readAll?, parts, frontText, readParts_front]
    simp [readParts, momentOf?, hdate, floor, Moment.midnight]
  | hour =>
    have htext : moment.secondText.take Precision.hour.width =
        frontText moment.date (' ' :: (twoDigits moment.time.hour ++ [])) := rfl
    have htime : TimeOfDay.of? moment.time.hour 0 0 0 = some moment.time.toHour := by
      rw [TimeOfDay.of?, dif_pos ⟨moment.time.hour_lt, by decide, by decide, by decide⟩]
      rfl
    rw [htext, readAll?, parts, frontText, readParts_front, readParts_gap,
      readParts_hour moment.time.hour_lt]
    simp [readParts, momentOf?, hdate, htime, floor]
  | second =>
    have htext : moment.secondText.take Precision.second.width =
        frontText moment.date (' ' :: (twoDigits moment.time.hour ++ ':' ::
          (twoDigits moment.time.minute ++ ':' :: (twoDigits moment.time.second ++ [])))) := rfl
    have htime := Iso.time_of?_parts moment.time
    rw [htext, readAll?, parts, frontText, readParts_front, readParts_gap,
      readParts_hour moment.time.hour_lt, readParts_mark, readParts_minute moment.time.minute_lt,
      readParts_mark, readParts_second moment.time.second_lt]
    simp [readParts, momentOf?, hdate, htime, floor, Moment.toSecond]

/-- A label of a second, from the year 1000 on, is read at every precision as its own moment. -/
theorem relabel?_render_second (precision : Precision) {moment : Moment}
    (h : 1000 ≤ moment.date.year) :
    precision.relabel? (.text (Precision.second.render moment)) =
      some (precision.render moment) := by
  rw [render_second_eq_text h, relabel?, read?, Moment.toList_text,
    trimList_eq_self isBlank moment.trimmed_secondText, readAll?_take, Option.map_some,
    render_floor]

theorem relabel?_text (precision : Precision) {moment : Moment} (h : 1000 ≤ moment.date.year) :
    precision.relabel? (.text moment.text) = some (precision.render moment) := by
  rw [← render_second_eq_text h, relabel?_render_second precision h]

end Precision

namespace Stamp

/-- The text of a moment is stamped with the label of its second. -/
theorem label_text (moment : Moment) :
    label (.text moment.text) = .ok (Precision.second.render moment) := by
  rw [label, Iso.read?_text]
  rfl

/-- From the year 1000 on the text of a moment is its own label. -/
theorem label_text_self {moment : Moment} (h : 1000 ≤ moment.date.year) :
    label (.text moment.text) = .ok moment.text := by
  rw [label_text, Precision.render_second_eq_text h]

end Stamp

end StreamAudit
