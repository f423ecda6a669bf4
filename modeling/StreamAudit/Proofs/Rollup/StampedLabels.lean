import StreamAudit.Backend.SearchIndex
import StreamAudit.Backend.Total
import StreamAudit.Proofs.Backend.Grouping
import StreamAudit.Proofs.Calls
import StreamAudit.Proofs.Number.IntegerText
import StreamAudit.Proofs.Relabel
import StreamAudit.Proofs.Rollup.Exactness

/-!
The labels that keys are stamped with, read when a series is rolled up. A key that stands for a
moment is stamped with the label of its second (`Stamp.label_of_moment?`). A label with a year below
1000 is too short to be read again (`relabel?_render_of_lt`), so a point of such a year is skipped
at every precision, and a report counts exactly the points from the year 1000 on
(`count_of_stamped`).
-/

set_option autoImplicit false
set_option relaxedAutoImplicit false

namespace StreamAudit

open StreamAudit.Calendar StreamAudit.Label StreamAudit.Text

/-! ### Stamps -/

namespace Stamp

/-- The moment that a key stands for: the one its text reads as, in universal time, or the one so
many milliseconds after the start of 1970. -/
def moment? : Json → Option Moment
  | .text s => (Iso.read? s).bind Iso.Reading.universal?
  | .int millis => (atSeconds (.ofRatio (millis < 0) millis.natAbs 1000)).toOption
  | .real millis => (atSeconds (millis.shrink 1000)).toOption
  | _ => none

theorem label_of_moment? {key : Json} {moment : Moment} (h : moment? key = some moment) :
    label key = .ok (Precision.second.render moment) := by
  have hseconds : ∀ read : Except Fault Moment, read.toOption = some moment →
      read.map Precision.second.render = .ok (Precision.second.render moment) := by
    rintro (fault | other) h
    · cases h
    · cases h
      rfl
  cases key with
  | text s =>
    obtain ⟨reading, hread, huniversal⟩ := Option.bind_eq_some_iff.mp h
    rw [label, hread]
    simp only [huniversal]
  | int millis =>
    rw [moment?] at h
    rw [label, hseconds _ h]
  | real millis =>
    rw [moment?] at h
    rw [label, hseconds _ h]
  | _ => cases h

end Stamp

/-! ### Labels that are too short -/

namespace Label

/-- Digits that end too early are no number. -/
theorem Shape.read?_eq_none {shape : Shape} (hdigits : ∀ slot ∈ shape, slot = .digit)
    {front : List Char} (hshort : front.length < shape.length) {mark : Char}
    (hmark : digit? mark = none) (value : Nat) (rest : List Char) :
    Shape.read? value shape (front ++ mark :: rest) = none := by
  induction shape generalizing front value with
  | nil => simp at hshort
  | cons slot slots ih =>
    obtain ⟨rfl, hslots⟩ := List.forall_mem_cons.mp hdigits
    cases front with
    | nil => simp [Shape.read?, Slot.read?, hmark]
    | cons c front =>
      simp only [List.cons_append, Shape.read?]
      split
      · exact ih hslots (Nat.lt_of_succ_lt_succ hshort) _
      · rfl

theorem readParts_short_year {front : List Char} (h : front.length < 4) (parts : List Part)
    (rest : List Char) :
    readParts (yearPart :: parts) (front ++ '-' :: rest) = none := by
  have hslots : ∀ slot ∈ [Slot.digit, .digit, .digit, .digit], slot = .digit := by decide
  have hread := Shape.read?_eq_none hslots h (by decide : digit? '-' = none) 0 rest
  rw [yearPart, readParts, List.findSome?_cons, hread]
  rfl

end Label

namespace Precision

/-- What follows the year in the label of a second. -/
def afterYear (moment : Moment) : List Char :=
  twoDigits moment.date.month ++ '-' ::
    (twoDigits moment.date.day ++ ' ' :: Moment.clockText moment.time)

theorem toList_second (moment : Moment) :
    (Precision.second.render moment).toList = Nat.toDigits 10 moment.date.year ++ '-' ::
      afterYear moment := by
  simp [render, afterYear]

/-- The label of a second has no blanks around it. -/
theorem trimmed_second (moment : Moment) :
    Trimmed isBlank (Precision.second.render moment).toList := by
  obtain ⟨first, rest, hdigits, -⟩ := Number.exists_digits moment.date.year
  rw [toList_second, hdigits]
  constructor
  · intro c hc
    obtain rfl : digitChar first = c := by simpa using hc
    exact isBlank_digitChar first
  · intro c hc
    obtain rfl : digitChar moment.time.second = c := by
      simpa [afterYear, Moment.clockText, twoDigits, List.getLast?_append, List.getLast?_cons]
        using hc
    exact isBlank_digitChar _

/-- A label with a year below 1000 is read at no precision. -/
theorem relabel?_render_of_lt (precision : Precision) {moment : Moment}
    (h : moment.date.year < 1000) :
    precision.relabel? (.text (Precision.second.render moment)) = none := by
  have hshort : (Nat.toDigits 10 moment.date.year).length < 4 :=
    Nat.lt_succ_of_le (Number.length_toDigits_le (by decide) h)
  have htext := toList_second moment
  have hcut : ∀ rest, (Nat.toDigits 10 moment.date.year ++ '-' :: rest).take precision.width =
      Nat.toDigits 10 moment.date.year ++ '-' :: rest.take (precision.width -
        (Nat.toDigits 10 moment.date.year).length - 1) := by
    intro rest
    have hwidth : 4 ≤ precision.width := by cases precision <;> decide
    obtain ⟨left, hleft⟩ := Nat.exists_eq_add_of_lt (lt_of_lt_of_le hshort hwidth)
    rw [List.take_append, List.take_of_length_le (by omega), hleft]
    simp [Nat.add_assoc]
  have hparts : ∃ parts, precision.parts = yearPart :: parts := by
    cases precision <;> exact ⟨_, rfl⟩
  obtain ⟨parts, hparts⟩ := hparts
  rw [relabel?, read?, trimList_eq_self isBlank (trimmed_second moment), toList_second, hcut,
    readAll?, hparts, readParts_short_year hshort]
  rfl

/-- The label of a second is read at every precision as the label of its moment, from the year 1000
on. -/
theorem relabel?_second (precision : Precision) (moment : Moment) :
    precision.relabel? (.text (Precision.second.render moment)) =
      if 1000 ≤ moment.date.year then some (precision.render moment) else none := by
  split
  · exact precision.relabel?_render_second ‹_›
  · exact precision.relabel?_render_of_lt (by omega)

end Precision

/-! ### Points of a backend -/

namespace Backend

variable {moment : Moment} {point : Point}

/-- A total of a statement is reported under the label of the moment that its key stands for. -/
theorem Total.key_of_point {total : Total} (h : total.point = .ok point)
    (hmoment : Stamp.moment? total.key = some moment) :
    point.key = .text (Precision.second.render moment) := by
  rw [Total.point, Stamp.label_of_moment? hmoment] at h
  obtain ⟨label, hlabel, h⟩ := exists_of_bind_eq_ok h
  obtain ⟨count, -, h⟩ := exists_of_bind_eq_ok h
  obtain ⟨delay, -, h⟩ := exists_of_bind_eq_ok h
  cases hlabel
  cases h
  rfl

namespace SearchIndex

/-- The key of a bucket, its written form preferred. -/
def keyOf? (bucket : Json) : Option Json :=
  bucket.members?.map fun members ↦
    (members.get? "key_as_string").getD ((members.get? "key").getD .null)

/-- A bucket of an index is reported under the label of the moment that its key stands for. -/
theorem key_of_point {bucket key : Json} (h : SearchIndex.point bucket = .ok point)
    (hkey : keyOf? bucket = some key) (hmoment : Stamp.moment? key = some moment) :
    point.key = .text (Precision.second.render moment) := by
  obtain ⟨members, hmembers, rfl⟩ := Option.map_eq_some_iff.mp hkey
  rw [SearchIndex.point, hmembers] at h
  simp only [Stamp.label_of_moment? hmoment] at h
  obtain ⟨label, hlabel, h⟩ := exists_of_bind_eq_ok h
  obtain ⟨counted, -, h⟩ := exists_of_bind_eq_ok h
  obtain ⟨count, -, h⟩ := exists_of_bind_eq_ok h
  obtain ⟨delayed, -, h⟩ := exists_of_bind_eq_ok h
  obtain ⟨delay, -, h⟩ := exists_of_bind_eq_ok h
  cases hlabel
  cases h
  rfl

end SearchIndex

end Backend

/-! ### Reports of stamped points -/

namespace Rollup

variable {precision : Precision}

/-- A report counts what its labelled points count. -/
theorem sum_counts (precision : Precision) (series : Series) :
    ((report precision series).buckets.map Bucket.count).sum =
      ((labelled precision series).points.map Point.count).sum := by
  let labelOf (point : Point) : String := (precision.relabel? point.key).getD ""
  have hunder : ∀ label, pointsAt precision label series.points =
      (labelled precision series).points.filter fun point ↦ labelOf point = label := by
    intro label
    rw [pointsAt, labelled, List.filter_filter]
    refine List.filter_congr fun point _ ↦ ?_
    cases hlabel : precision.relabel? point.key <;> simp [labelOf, hlabel]
  have hlabels : ∀ point ∈ (labelled precision series).points,
      labelOf point ∈ labels precision series.points := by
    intro point hpoint
    obtain ⟨hmem, hsome⟩ := List.mem_filter.mp hpoint
    obtain ⟨label, hlabel⟩ := Option.isSome_iff_exists.mp hsome
    rw [mem_labels]
    exact ⟨point, hmem, by simp [labelOf, hlabel]⟩
  rw [buckets_report, List.map_map,
    ← Backend.sum_map_filter labelOf Point.count (Ascending.nodup_ofList _) hlabels]
  refine congrArg List.sum (List.map_congr_left fun label _ ↦ ?_)
  rw [← hunder]
  rfl

/-- Points with the moments under whose labels they are. -/
def Stamped (rows : List (Moment × Point)) : Prop :=
  ∀ row ∈ rows, row.2.key = .text (Precision.second.render row.1)

/-- The rows from the year 1000 on. -/
def readable (rows : List (Moment × Point)) : List (Moment × Point) :=
  rows.filter fun row ↦ 1000 ≤ row.1.date.year

theorem count_of_stamped {rows : List (Moment × Point)} (h : Stamped rows) (auditId : String)
    (nodeType : Option String) :
    ((report precision ⟨auditId, nodeType, rows.map Prod.snd⟩).buckets.map Bucket.count).sum =
      ((readable rows).map fun row ↦ row.2.count).sum := by
  rw [sum_counts, labelled, List.filter_map, List.map_map, readable]
  refine congrArg (fun part ↦ (part.map fun row : Moment × Point ↦ row.2.count).sum)
    (List.filter_congr fun row hrow ↦ ?_)
  simp only [Function.comp_apply, h row hrow, precision.relabel?_second]
  split <;> simp [*]

theorem mem_labels_of_stamped {rows : List (Moment × Point)} (h : Stamped rows) (auditId : String)
    (nodeType : Option String) (label : String) :
    label ∈ (report precision ⟨auditId, nodeType, rows.map Prod.snd⟩).buckets.map Bucket.label ↔
      ∃ row ∈ readable rows, precision.render row.1 = label := by
  have hread : ∀ row ∈ rows, (precision.relabel? row.2.key = some label ↔
      1000 ≤ row.1.date.year ∧ precision.render row.1 = label) := by
    intro row hrow
    rw [h row hrow, precision.relabel?_second]
    split <;> simp [*]
  rw [labels_buckets, mem_labels]
  constructor
  · rintro ⟨point, hpoint, hlabel⟩
    obtain ⟨row, hrow, rfl⟩ := List.mem_map.mp hpoint
    obtain ⟨hyear, hrender⟩ := (hread row hrow).mp hlabel
    exact ⟨row, List.mem_filter.mpr ⟨hrow, decide_eq_true hyear⟩, hrender⟩
  · rintro ⟨row, hmem, hrender⟩
    obtain ⟨hrow, hyear⟩ := List.mem_filter.mp hmem
    exact ⟨row.2, List.mem_map_of_mem hrow, (hread row hrow).mpr ⟨of_decide_eq_true hyear, hrender⟩⟩

/-- The text of a moment is stamped with a label, and a point of a backend has the label of the
moment that its key stands for. At every precision such a label is read as the label of the moment
from the year 1000 on, and not at all before, so a report has the labels and counts the points from
the year 1000 on and no others. -/
theorem stamped_labels_read (precision : Precision) :
    (∀ moment : Moment, ∃ label, Stamp.label (.text moment.text) = .ok label ∧
      precision.relabel? (.text label) =
        if 1000 ≤ moment.date.year then some (precision.render moment) else none) ∧
    (∀ (total : Backend.Total) (point : Point) (moment : Moment), total.point = .ok point →
      Stamp.moment? total.key = some moment → point.key = .text (Precision.second.render moment)) ∧
    (∀ (bucket key : Json) (point : Point) (moment : Moment),
      Backend.SearchIndex.point bucket = .ok point →
      Backend.SearchIndex.keyOf? bucket = some key → Stamp.moment? key = some moment →
        point.key = .text (Precision.second.render moment)) ∧
    ∀ (rows : List (Moment × Point)) (auditId : String) (nodeType : Option String), Stamped rows →
      (∀ row ∈ rows,
        (precision.relabel? row.2.key = some (precision.render row.1) ↔ row ∈ readable rows) ∧
        (precision.relabel? row.2.key = none ↔ row ∉ readable rows)) ∧
      let buckets := (report precision ⟨auditId, nodeType, rows.map Prod.snd⟩).buckets
      (∀ label, label ∈ buckets.map Bucket.label ↔
        ∃ row ∈ readable rows, precision.render row.1 = label) ∧
        (buckets.map Bucket.count).sum = ((readable rows).map fun row ↦ row.2.count).sum := by
  refine ⟨fun moment ↦ ⟨_, Stamp.label_text moment, precision.relabel?_second moment⟩,
    fun total point moment ↦ Backend.Total.key_of_point, fun bucket key point moment ↦
      Backend.SearchIndex.key_of_point,
    fun rows auditId nodeType hstamped ↦ ⟨fun row hrow ↦ ?_, ?_⟩⟩
  · rw [hstamped row hrow, precision.relabel?_second, readable, List.mem_filter, decide_eq_true_eq]
    split <;> simp [*]
  · exact ⟨mem_labels_of_stamped hstamped auditId nodeType,
      count_of_stamped hstamped auditId nodeType⟩

namespace Years

open Backend

/-- The first moment of a year of three digits. -/
def early : Moment :=
  .midnight { Date.newYear with year := 500, year_mem := by decide, day_mem := by decide }

/-- A total and a bucket of one moment, which two zones tell differently. -/
def total : Total :=
  ⟨.text "2024-01-01T02:00:00+02:00", .whole 2, .whole 7⟩

/-- The bucket of an index. -/
def bucket : Json :=
  .object [("key", .text "2024-01-01"), ("count", .object [("value", .int 2)]),
    ("delay", .object [("value", .int 7)])]

/-- The point of both. -/
def point : Point :=
  ⟨.text "2024-01-01 00:00:00", 2, 7⟩

/-- A point of the year 500 and one of the year 2024. -/
def rows : List (Moment × Point) :=
  [(early, ⟨.text "500-01-01 00:00:00", 5, 5⟩), (.midnight .newYear, point)]

theorem stamped_rows : Stamped rows := by
  have hearly : Precision.second.render early = "500-01-01 00:00:00" := by decide +kernel
  have hlater : Precision.second.render (.midnight .newYear) = "2024-01-01 00:00:00" := by
    decide +kernel
  refine List.forall_mem_cons.mpr ⟨?_, List.forall_mem_singleton.mpr ?_⟩
  · rw [hearly]
  · rw [hlater, point]

/-- Both keys give the point of 2024, and of the two points only that one has a bucket. -/
theorem later_counted :
    (total.point = .ok point ∧ point.key = .text (Precision.second.render (.midnight .newYear))) ∧
    (SearchIndex.point bucket = .ok point ∧
      point.key = .text (Precision.second.render (.midnight .newYear))) ∧
    Stamped rows ∧
    ((report .hour ⟨"5", none, rows.map Prod.snd⟩).buckets.map Bucket.count).sum = 2 := by
  have hmoment : Stamp.moment? total.key = some (.midnight .newYear) := by decide +kernel
  have hday : Stamp.moment? (.text "2024-01-01") = some (.midnight .newYear) := by decide +kernel
  have hlabel : Precision.second.render (.midnight .newYear) = "2024-01-01 00:00:00" := by
    decide +kernel
  have htotal : total.point = .ok point := by
    rw [Total.point, Stamp.label_of_moment? hmoment, hlabel]
    rfl
  have hbucket : SearchIndex.point bucket = .ok point := by
    have hpoint : SearchIndex.point bucket =
        ((Stamp.label (.text "2024-01-01")).mapError Malformed.key).bind
        fun label ↦ .ok ⟨.text label, 2, 7⟩ := rfl
    rw [hpoint, Stamp.label_of_moment? hday, hlabel]
    rfl
  obtain ⟨-, hofTotal, hofBucket, hreport⟩ := stamped_labels_read .hour
  obtain ⟨-, -, hcount⟩ := hreport rows "5" none stamped_rows
  exact ⟨⟨htotal, hofTotal total point _ htotal hmoment⟩,
    ⟨hbucket, hofBucket bucket _ point _ hbucket rfl hday⟩, stamped_rows, hcount.trans rfl⟩

/-- The text of a moment of the year 500 is stamped with a label that is read at no precision. -/
theorem early_skipped :
    Stamp.label (.text early.text) = .ok "500-01-01 00:00:00" ∧
      ∀ precision : Precision, precision.relabel? (.text "500-01-01 00:00:00") = none := by
  refine ⟨by decide +kernel, ?_⟩
  rintro (_ | _ | _) <;> decide +kernel

end Years

end Rollup

end StreamAudit
