import StreamAudit.Proofs.Label.Cut
import StreamAudit.Proofs.Rollup.Exactness

/-!
Labels that a cut goes through. A text that reads whole as the label of a second is cut to the width
of a label before it is read at a precision. If no digit stands right behind the cut, what is read
is the moment of the text (`Precision.render_of_behind`). Otherwise the cut goes through the last
number of the label, and what is read is that number without its last digit
(`Precision.render_of_inside`), so that the point is counted under the label of another moment.
-/

set_option autoImplicit false
set_option relaxedAutoImplicit false

namespace StreamAudit

open StreamAudit.Calendar StreamAudit.Label StreamAudit.Text

/-- The numbers of a moment down to its second. -/
def Calendar.Moment.values (moment : Moment) : List Nat :=
  [moment.date.year, moment.date.month, moment.date.day, moment.time.hour, moment.time.minute,
    moment.time.second]

namespace Precision

/-! ### The numbers of a label -/

/-- How many numbers a label has. -/
def count : Precision → Nat
  | .second => 6
  | .hour => 4
  | .day => 3

/-- The parts of a label in front of its last number. -/
def init : Precision → List Part
  | .second =>
    [yearPart, .mark '-', monthPart, .mark '-', dayPart, .gap, hourPart, .mark ':', minutePart,
      .mark ':']
  | .hour => [yearPart, .mark '-', monthPart, .mark '-', dayPart, .gap]
  | .day => [yearPart, .mark '-', monthPart, .mark '-']

/-- The last number of a label. -/
def last : Precision → Part
  | .second => secondPart
  | .hour => hourPart
  | .day => dayPart

/-- The parts of the label of a second behind those of a label. -/
def later : Precision → List Part
  | .second => []
  | .hour => [.mark ':', minutePart, .mark ':', secondPart]
  | .day => [.gap, hourPart, .mark ':', minutePart, .mark ':', secondPart]

theorem parts_eq (precision : Precision) :
    precision.parts = precision.init ++ [precision.last] := by
  cases precision <;> rfl

theorem parts_second_eq (precision : Precision) :
    Precision.second.parts = precision.parts ++ precision.later := by
  cases precision <;> rfl

theorem isTight_parts (precision : Precision) :
    ∀ part ∈ precision.init ++ [precision.last], part.IsTight := by
  cases precision <;> decide

theorem length_values_of_parts {precision : Precision} {s rest : List Char} {values : List Nat}
    (h : readFront precision.parts s = some (values, rest)) : values.length = precision.count := by
  rw [length_values_of_readFront h]
  cases precision <;> rfl

theorem values_of_parts {year month day hour minute second : Nat} {moment : Moment}
    (h : ((Date.of? year month day).bind fun date ↦
      (TimeOfDay.of? hour minute second 0).bind fun time ↦ some (Moment.mk date time)) =
        some moment) :
    moment.values = [year, month, day, hour, minute, second] := by
  obtain ⟨date, hdate, h⟩ := Option.bind_eq_some_iff.mp h
  obtain ⟨time, htime, heq⟩ := Option.bind_eq_some_iff.mp h
  cases heq
  obtain ⟨rfl, rfl, rfl⟩ := Date.of?_eq_some_iff.mp hdate
  unfold TimeOfDay.of? at htime
  split at htime
  · cases htime
    rfl
  · cases htime

/-- The numbers that a moment was made of are its own. -/
theorem take_values_of_momentOf? {values : List Nat} {moment : Moment}
    (h : momentOf? values = some moment) :
    values = moment.values.take values.length := by
  unfold momentOf? at h
  split at h
  · obtain ⟨date, hdate, heq⟩ := Option.bind_eq_some_iff.mp h
    cases heq
    obtain ⟨rfl, rfl, rfl⟩ := Date.of?_eq_some_iff.mp hdate
    rfl
  · rw [values_of_parts h]
    rfl
  · rw [values_of_parts h]
    rfl
  · cases h

theorem take_values_of_append {front back : List Nat} {moment : Moment}
    (h : momentOf? (front ++ back) = some moment) :
    moment.values.take front.length = front := by
  have hfront := congrArg (List.take front.length) (take_values_of_momentOf? h)
  rw [List.take_left' rfl, List.take_take, List.length_append,
    min_eq_left (Nat.le_add_right _ _)] at hfront
  exact hfront.symm

/-- A label shows the first numbers of its moment. -/
theorem render_eq_of_values (precision : Precision) {first second : Moment}
    (h : first.values.take precision.count = second.values.take precision.count) :
    precision.render first = precision.render second := by
  cases precision <;> simp [count, Moment.values] at h <;> simp [render, Moment.clockText, h]

/-! ### The cut -/

/-- The moment without the last digit of the last number of a label. -/
def tenth (precision : Precision) (moment : Moment) : Moment :=
  match precision with
  | .second =>
    { moment with time :=
      { moment.time with
        second := moment.time.second / 10
        second_lt := lt_of_le_of_lt (Nat.div_le_self _ 10) moment.time.second_lt } }
  | .hour =>
    { moment with time :=
      { moment.time with
        hour := moment.time.hour / 10
        hour_lt := lt_of_le_of_lt (Nat.div_le_self _ 10) moment.time.hour_lt } }
  | .day => moment

/-- The last number of a label. -/
def finest (precision : Precision) (moment : Moment) : Nat :=
  match precision with
  | .second => moment.time.second
  | .hour => moment.time.hour
  | .day => moment.date.day

section Cut

variable {precision : Precision} {moment read : Moment} {used rest : List Char}
    {front back : List Nat}

/-- No blank is a digit of any script. -/
theorem digit?_of_isBlank {c : Char} (h : isBlank c = true) : digit? c = none := by
  -- the blanks lie in the gaps of the table
  have hgaps : ∀ first ∈ digitZeros, first = 0x30 ∨ (0x660 ≤ first ∧ first + 9 < 0x1680) ∨
      (0x1681 ≤ first ∧ first + 9 < 0x2000) ∨ 0x3001 ≤ first := by decide +kernel
  rw [digit?, Option.map_eq_none_iff, List.find?_eq_none]
  intro first hfirst
  have hgap := hgaps first hfirst
  simp only [isBlank, isWhiteSpace, Bool.or_eq_true, Bool.and_eq_true, decide_eq_true_eq,
    beq_iff_eq] at h ⊢
  omega

/-- What follows the parts of a label does not begin with a digit. -/
theorem digit?_of_later (h : readParts precision.later rest = some back) :
    rest.head?.bind digit? = none := by
  cases rest with
  | nil => rfl
  | cons c more =>
    cases precision with
    | second => cases h
    | hour =>
      rw [later, readParts] at h
      split at h
      · rename_i hcolon
        rw [hcolon]
        exact (by decide : digit? ':' = none)
      · cases h
    | day =>
      rw [later, readParts] at h
      split at h
      · exact digit?_of_isBlank ‹_›
      · cases h

/-- If the parts of a label end in front of the cut, the label is that of the moment, and no digit
stands behind the cut. -/
theorem render_of_behind (hfront : readFront precision.parts (used ++ rest) = some (front, rest))
    (hback : readParts precision.later rest = some back)
    (hmoment : momentOf? (front ++ back) = some moment) (hlength : used.length ≤ precision.width)
    {values : List Nat}
    (hcut : readParts precision.parts ((used ++ rest).take precision.width) = some values)
    (hread : momentOf? values = some read) :
    precision.render read = precision.render moment ∧
      (used ++ rest)[precision.width]?.bind digit? = none := by
  obtain ⟨n, hn⟩ := Nat.exists_eq_add_of_le hlength
  rw [hn, List.take_length_add_append] at hcut
  obtain ⟨rfl, hrest⟩ := Prod.mk.inj
    (Option.some.inj ((readParts_eq_some_iff.mp hcut).symm.trans (readFront_shorten hfront n)))
  have hcount := length_values_of_parts hfront
  constructor
  · refine precision.render_eq_of_values ?_
    rw [← hcount, take_values_of_append hmoment]
    exact (take_values_of_momentOf? hread).symm
  · rw [hn, List.getElem?_append_right (Nat.le_add_right _ _), Nat.add_sub_cancel_left]
    rcases List.take_eq_nil_iff.mp hrest.symm with rfl | rfl
    · rw [← List.head?_eq_getElem?]
      exact digit?_of_later hback
    · rfl

/-- The numbers of a moment without that digit. -/
theorem take_values_tenth (hday : precision ≠ .day) {start : List Nat} {value : Nat}
    (h : moment.values.take precision.count = start ++ [value]) :
    (precision.tenth moment).values.take precision.count = start ++ [value / 10] := by
  cases precision with
  | day => exact absurd rfl hday
  | hour =>
    obtain ⟨rfl, hvalue⟩ : [_, _, _] = start ∧ _ := List.append_inj' h rfl
    rw [← (List.cons.inj hvalue).1]
    rfl
  | second =>
    obtain ⟨rfl, hvalue⟩ : [_, _, _, _, _] = start ∧ _ := List.append_inj' h rfl
    rw [← (List.cons.inj hvalue).1]
    rfl

/-- If the cut goes through the last number of a label, only the first of its two digits is read. -/
theorem tens_of_last (hday : precision ≠ .day) {after : List Char} {whole cut : List Nat}
    {left : List Char} (hwhole : precision.last.read? (after ++ rest) = some (whole, rest))
    {n : Nat} (hn : n < after.length)
    (hcut : precision.last.read? (after.take n) = some (cut, left)) :
    ∃ first second value, after = [first, second] ∧ n = 1 ∧ (digit? second).isSome ∧
      whole = [value] ∧ cut = [value / 10] := by
  cases precision with
  | day => exact absurd rfl hday
  | hour => exact tens_of_cut hwhole hn hcut
  | second => exact tens_of_cut hwhole hn hcut

/-- If they do not, the cut goes through the last number, and its last digit stands behind the
cut. -/
theorem render_of_inside (hfront : readFront precision.parts (used ++ rest) = some (front, rest))
    (hmoment : momentOf? (front ++ back) = some moment)
    (hlength : precision.width < used.length) {values : List Nat}
    (hcut : readParts precision.parts ((used ++ rest).take precision.width) = some values)
    (hread : momentOf? values = some read) :
    precision ≠ .day ∧ precision.render read = precision.render (precision.tenth moment) ∧
      ((used ++ rest)[precision.width]?.bind digit?).isSome := by
  have hday : precision ≠ .day := by
    rintro rfl
    have hlimit : used.length ≤ [4, 1, 2, 1, 2].sum := length_used_le_of_readFront hfront rfl
    exact absurd hlimit (Nat.not_le.mpr hlength)
  have hcount := length_values_of_parts hfront
  have hshown := take_values_of_append hmoment
  rw [List.take_append_of_le_length hlength.le] at hcut
  rw [readParts_eq_some_iff] at hcut
  have hcutCount := length_values_of_parts hcut
  rw [precision.parts_eq] at hcut
  rw [precision.parts_eq] at hfront
  obtain ⟨before, after, start, whole, cut, rfl, hbefore, hafter, hwhole, hlast, rfl, rfl⟩ :=
    readFront_inside precision.isTight_parts hfront hlength hcut
  obtain ⟨first, second, value, rfl, hone, hsecond, rfl, rfl⟩ :=
    tens_of_last hday hwhole hafter hlast
  refine ⟨hday, precision.render_eq_of_values ?_, ?_⟩
  · rw [hcount] at hshown
    have hreadShown := take_values_of_momentOf? hread
    rw [hcutCount] at hreadShown
    rw [take_values_tenth hday hshown, ← hreadShown]
  · have hwidth : precision.width = before.length + 1 := by omega
    rw [hwidth, List.append_assoc, List.getElem?_append_right (Nat.le_add_right _ _),
      Nat.add_sub_cancel_left]
    exact hsecond

end Cut

theorem twoDigits_tenth : ∀ n < 60, twoDigits (n / 10) = twoDigits n ↔ n = 0 := by
  decide

/-- A label differs from that of the cut moment unless its last number is 0. -/
theorem render_tenth_eq_iff {precision : Precision} (hday : precision ≠ .day) (moment : Moment) :
    precision.render (precision.tenth moment) = precision.render moment ↔
      precision.finest moment = 0 := by
  cases precision with
  | day => exact absurd rfl hday
  | hour =>
    rw [finest, ← twoDigits_tenth _ (moment.time.hour_lt.trans (by decide))]
    simp [render, tenth, String.ofList_inj]
  | second =>
    rw [finest, ← twoDigits_tenth _ moment.time.second_lt]
    simp [render, tenth, Moment.clockText, String.ofList_inj]

/-- Whether a digit stands right behind the cut through a text. -/
def CutsNumber (precision : Precision) (s : String) : Prop :=
  ((trimList isBlank s.toList)[precision.width]?.bind digit?).isSome

instance (precision : Precision) (s : String) : Decidable (precision.CutsNumber s) :=
  inferInstanceAs (Decidable (_ = true))

/-- A text that reads whole as a moment has, if any, the label of that moment, unless the cut goes
through the last number of the label. -/
theorem relabel?_of_cut {precision : Precision} {s : String} {moment : Moment} {label : String}
    (hread : Precision.second.readAll? (trimList isBlank s.toList) = some moment)
    (hlabel : precision.relabel? (.text s) = some label) :
    (¬precision.CutsNumber s → label = precision.render moment) ∧
      (precision.CutsNumber s → precision ≠ .day ∧
        label = precision.render (precision.tenth moment)) := by
  obtain ⟨found, hfound, rfl⟩ := Option.map_eq_some_iff.mp hlabel
  obtain ⟨values, hcut, hvalues⟩ := Option.bind_eq_some_iff.mp hfound
  obtain ⟨whole, hwhole, hmoment⟩ := Option.bind_eq_some_iff.mp hread
  rw [precision.parts_second_eq, readParts_append] at hwhole
  obtain ⟨⟨front, rest⟩, hfront, hwhole⟩ := Option.bind_eq_some_iff.mp hwhole
  obtain ⟨back, hback, rfl⟩ := Option.map_eq_some_iff.mp hwhole
  obtain ⟨used, hused⟩ := exists_used_of_readFront hfront
  unfold CutsNumber
  rw [hused] at hfront hcut ⊢
  rcases Nat.lt_or_ge precision.width used.length with hinside | hbehind
  · obtain ⟨hday, hrender, hsome⟩ := render_of_inside hfront hmoment hinside hcut hvalues
    exact ⟨fun hnone ↦ absurd hsome hnone, fun _ ↦ ⟨hday, hrender⟩⟩
  · obtain ⟨hrender, hnone⟩ := render_of_behind hfront hback hmoment hbehind hcut hvalues
    exact ⟨fun _ ↦ hrender, fun hsome ↦ absurd hsome (by simp [hnone])⟩

end Precision

namespace Rollup

/-- A point whose text reads whole as the label of a second. -/
structure Timed where
  text : String
  moment : Moment
  count : Int
  delay : Int
  reads : Precision.second.readAll? (trimList isBlank text.toList) = some moment

namespace Timed

/-- The point as a series holds it. -/
def point (timed : Timed) : Point :=
  ⟨.text timed.text, timed.count, timed.delay⟩

/-- The moment that the text of a point shows in front of the cut. -/
def shown (precision : Precision) (timed : Timed) : Moment :=
  if precision.CutsNumber timed.text then precision.tenth timed.moment else timed.moment

/-- The points that have a label and show the given one. -/
def under (precision : Precision) (label : String) (points : List Timed) : List Timed :=
  points.filter fun timed ↦
    (precision.relabel? timed.point.key).isSome ∧ precision.render (timed.shown precision) = label

variable {precision : Precision} {timed : Timed} {label : String}

theorem label_eq (h : precision.relabel? timed.point.key = some label) :
    label = precision.render (timed.shown precision) := by
  obtain ⟨hwhole, hcut⟩ := Precision.relabel?_of_cut timed.reads h
  unfold shown
  split
  · exact (hcut ‹_›).2
  · exact hwhole ‹_›

/-- A point has another label than that of its moment exactly if the cut goes through a last number
other than 0. -/
theorem label_eq_moment_iff (h : precision.relabel? timed.point.key = some label) :
    label = precision.render timed.moment ↔
      ¬precision.CutsNumber timed.text ∨ precision.finest timed.moment = 0 := by
  obtain ⟨hwhole, hcut⟩ := Precision.relabel?_of_cut timed.reads h
  by_cases hcuts : precision.CutsNumber timed.text
  · obtain ⟨hday, rfl⟩ := hcut hcuts
    rw [Precision.render_tenth_eq_iff hday]
    simp [hcuts]
  · exact iff_of_true (hwhole hcuts) (.inl hcuts)

theorem pointsAt_eq (precision : Precision) (label : String) (points : List Timed) :
    pointsAt precision label (points.map point) = (under precision label points).map point := by
  rw [pointsAt, under, List.filter_map]
  refine congrArg (List.map point) (List.filter_congr fun timed _ ↦ ?_)
  simp only [Function.comp_apply, decide_eq_decide]
  constructor
  · intro h
    exact ⟨by rw [h]; rfl, (label_eq h).symm⟩
  · rintro ⟨hsome, rfl⟩
    obtain ⟨found, hfound⟩ := Option.isSome_iff_exists.mp hsome
    rw [hfound, label_eq hfound]

end Timed

/-- A point is booked under the label that its text shows in front of the cut, and a bucket adds up
these points. That label is the one of its moment unless the cut takes the last digit of an hour or
a second other than 0. -/
theorem booked_as_shown (precision : Precision) :
    (∀ (timed : Timed) (label : String), precision.relabel? timed.point.key = some label →
      label = precision.render (timed.shown precision) ∧
      (label = precision.render timed.moment ↔
        ¬precision.CutsNumber timed.text ∨ precision.finest timed.moment = 0) ∧
      (precision.CutsNumber timed.text → precision ≠ .day)) ∧
    ∀ (points : List Timed) (auditId : String) (nodeType : Option String),
      ∀ bucket ∈ (report precision ⟨auditId, nodeType, points.map Timed.point⟩).buckets,
        bucket.count = ((Timed.under precision bucket.label points).map Timed.count).sum ∧
        bucket.delay =
          averageDelay ((Timed.under precision bucket.label points).map Timed.delay).sum
            bucket.count := by
  refine ⟨fun timed label h ↦ ⟨Timed.label_eq h, Timed.label_eq_moment_iff h, fun hcuts ↦ ?_⟩,
    fun points auditId nodeType bucket hbucket ↦ ?_⟩
  · exact ((Precision.relabel?_of_cut timed.reads h).2 hcuts).1
  · rw [buckets_report] at hbucket
    obtain ⟨label, -, rfl⟩ := List.mem_map.mp hbucket
    simp only [bucketAt, countAt, delayAt, Timed.pointsAt_eq, List.map_map]
    exact ⟨rfl, rfl⟩

namespace Gaps

/-- Half past twelve on the first day of 2024, and 45 seconds. -/
def noon : Moment :=
  ⟨.newYear, .ofMicros (((12 * 60 + 30) * 60 + 45) * 1000000)⟩

/-- A point of that moment, written with one blank between day and hour. -/
def single : Timed where
  text := "2024-01-01 12:30:45"
  moment := noon
  count := 2
  delay := 7
  reads := by decide +kernel

/-- The same point, written with two. -/
def double : Timed where
  text := "2024-01-01  12:30:45"
  moment := noon
  count := 2
  delay := 7
  reads := by decide +kernel

/-- With one blank the point is counted under its own hour. -/
theorem single_booked : Precision.hour.relabel? single.point.key = some "2024-01-01 12" ∧
    "2024-01-01 12" = Precision.hour.render noon ∧
    ∃ bucket ∈ (report .hour ⟨"5", none, [single.point]⟩).buckets, bucket.label = "2024-01-01 12" ∧
      bucket.count = ((Timed.under .hour "2024-01-01 12" [single]).map Timed.count).sum := by
  have hlabel : Precision.hour.relabel? single.point.key = some "2024-01-01 12" := by decide +kernel
  have huncut : ¬Precision.hour.CutsNumber single.text := by decide +kernel
  obtain ⟨hpoint, hreport⟩ := booked_as_shown .hour
  obtain ⟨-, hmoment, -⟩ := hpoint single _ hlabel
  have hbucket : ⟨"2024-01-01 12", 2, 3⟩ ∈ (report .hour ⟨"5", none, [single.point]⟩).buckets := by
    decide +kernel
  exact ⟨hlabel, hmoment.mpr (.inl huncut), _, hbucket, rfl,
    (hreport [single] "5" none _ hbucket).1⟩

/-- With two blanks it is counted at one o'clock, and under the fourth second of its minute. -/
theorem double_misbooked :
    Precision.second.readAll? (trimList isBlank "2024-01-01  12:30:45".toList) = some noon ∧
    Precision.hour.relabel? (.text "2024-01-01  12:30:45") = some "2024-01-01 01" ∧
    Precision.hour.render noon = "2024-01-01 12" ∧
    Precision.second.relabel? (.text "2024-01-01  12:30:45") = some "2024-01-01 12:30:04" ∧
    Precision.second.render noon = "2024-01-01 12:30:45" ∧
    (report .hour ⟨"5", none, [double.point]⟩).buckets = [⟨"2024-01-01 01", 2, 3⟩] := by
  refine ⟨double.reads, ?_, ?_, ?_, ?_, ?_⟩ <;> decide +kernel

end Gaps

end Rollup

end StreamAudit
