import StreamAudit.Backend.Policy
import StreamAudit.Proofs.Calendar.IsoInstant
import StreamAudit.Proofs.Rollup.StampedLabels

/-!
The labels that texts are stamped with. A text that reads as no moment is its own label, and one
that does has the label of its second in universal time; only if the offset of the text leads off
the calendar it has no label (`label_of_text`). However an instant is written, it has one label
(`label_of_written`), and a label, whatever it is the label of, is its own label (`label_of_label`).
-/

set_option autoImplicit false
set_option relaxedAutoImplicit false

namespace StreamAudit

open StreamAudit.Calendar StreamAudit.Text

namespace Stamp

/-! ### Texts -/

theorem label_of_unread {s : String} (h : Iso.read? s = none) : label (.text s) = .ok s := by
  rw [label, h]

/-- A text is its own label if it reads as no moment, and otherwise has the label of the second of
universal time in which the moment lies. It has no label exactly if universal time leaves the
calendar. -/
theorem label_of_text (s : String) :
    (∀ found, label (.text s) = .ok found ↔ Iso.read? s = none ∧ found = s ∨
      ∃ reading moment, Iso.read? s = some reading ∧ reading.IsAt moment ∧
        found = Precision.second.render moment) ∧
    ∀ fault, label (.text s) = .error fault ↔ fault = .shiftedOffCalendar ∧
      ∃ reading, Iso.read? s = some reading ∧ reading.OffCalendar := by
  cases hread : Iso.read? s with
  | none => simp [label_of_unread hread, eq_comm]
  | some reading =>
    have hinside := Iso.exists_universal?_iff hread
    cases huniversal : reading.universal? with
    | some moment =>
      have hlabel : label (.text s) = .ok (Precision.second.render moment) :=
        label_of_moment? (by simp [moment?, hread, huniversal])
      have hmoment : ∀ other, reading.IsAt other ↔ moment = other := by
        intro other
        rw [← Iso.Reading.universal?_eq_some_iff, huniversal, Option.some.injEq]
      have hwithin : ¬ reading.OffCalendar := hinside.mp ⟨moment, huniversal⟩
      simp [hlabel, hmoment, hwithin, eq_comm]
    | none =>
      have hlabel : label (.text s) = .error .shiftedOffCalendar := by
        rw [label, hread]
        simp only [huniversal]
      -- Without a universal time no moment is meant, and that is so only off the calendar.
      have hmoment : ∀ other, ¬ reading.IsAt other := by
        intro other
        rw [← Iso.Reading.universal?_eq_some_iff, huniversal]
        simp
      have hoff : reading.OffCalendar := by
        by_contra hwithin
        obtain ⟨moment, hfound⟩ := hinside.mpr hwithin
        exact hmoment moment (Iso.Reading.universal?_eq_some_iff.mp hfound)
      simp [hlabel, hmoment, hoff, eq_comm]

namespace Shifted

open Backend

/-- The first midnight of the calendar five hours east of Greenwich, where universal time is still
in the year before. -/
def midnight : String :=
  "0001-01-01T00:00:00+05:00"

/-- A bucket with that midnight for a key. -/
def bucket : Json :=
  .object [("key_as_string", .text midnight), ("count", .object [("value", .int 2)]),
    ("delay", .object [("value", .int 7)])]

/-- An answer with that bucket. -/
def answer : Json :=
  .object
    [("aggregations", .object [(SearchIndex.keyField, .object [("buckets", .list [bucket])])])]

/-- A cluster with that answer for every index. -/
def cluster : SearchIndex.Cluster where
  existence _ := .ok true
  search _ := .ok answer

/-- The midnight has no label, and a query that finds it has no points and ends under every
policy. -/
theorem midnight_ends_query : label (.text midnight) = .error .shiftedOffCalendar ∧
    ∀ (policy : Policy) (auditId : String), policy.settle auditId
      (SearchIndex.run cluster ⟨"g", "s", auditId, .newYear, .newYear⟩).2 =
        .error (.broken (.malformed (.key .shiftedOffCalendar))) := by
  have hlabel : label (.text midnight) = .error .shiftedOffCalendar := by decide +kernel
  have hpoint : SearchIndex.point bucket = .error (.key .shiftedOffCalendar) := by
    have hopened : SearchIndex.point bucket = ((label (.text midnight)).mapError Malformed.key).bind
        fun label ↦ .ok ⟨.text label, 2, 7⟩ := rfl
    rw [hopened, hlabel]
    rfl
  refine ⟨hlabel, fun policy auditId ↦ ?_⟩
  have hday : Date.upTo .newYear .newYear = [.newYear] := by decide +kernel
  have hpoints : SearchIndex.points answer = .error (.key .shiftedOffCalendar) := by
    have hopened : SearchIndex.points answer = [bucket].mapM SearchIndex.point := rfl
    rw [hopened, List.mapM_cons, hpoint]
    rfl
  have hrun : (SearchIndex.run cluster ⟨"g", "s", auditId, .newYear, .newYear⟩).2 =
      .error (.broken (.malformed (.key .shiftedOffCalendar))) := by
    simp [SearchIndex.run, hday, SearchIndex.queryDays, cluster, hpoints]
  rw [hrun]
  rfl

end Shifted

/-! ### Instants -/

/-- Whatever the form in which an instant is written, with its local time at the offset of the form,
it has the label of its second. -/
theorem label_of_written {instant shown : Moment} {form : Iso.Form}
    (h : (shown.micros : Int) = instant.micros + form.zone.micros) :
    label (.text (form.write shown)) = .ok (Precision.second.render instant) := by
  have huniversal := Iso.universal?_write h
  have hlabel : label (.text (form.write shown)) =
      .ok (Precision.second.render (instant.cut form.places)) :=
    label_of_moment? (by rw [moment?, Iso.read?_write, Option.bind_some, huniversal])
  rw [hlabel]
  rfl

namespace LeapDay

theorem form_bounds : (5 < 24 ∧ 30 < 60) ∧ 3 ≤ 6 := by
  decide

/-- The last half hour of a leap day, a quarter of a second behind a second. -/
def instant : Moment where
  date := { Date.newYear with month := 2, day := 29, month_mem := by decide, day_mem := by decide }
  time := .ofMicros 84615250000

/-- Five and a half hours later. -/
def shown : Moment where
  date := { Date.newYear with month := 3, month_mem := by decide, day_mem := by decide }
  time := .ofMicros 18015250000

/-- A form with three places and an offset to the east, between blanks. -/
def form : Iso.Form where
  mark := 'T'
  places := 3
  zone := .signed false 5 30 form_bounds.1.1 form_bounds.1.2
  before := ['\t']
  after := ['\n']
  places_le := form_bounds.2
  blank_before := List.forall_mem_singleton.mpr (by decide)
  blank_after := List.forall_mem_singleton.mpr (by decide)

/-- What is the next month in the local time has a label of the leap day. -/
theorem written_in_march : (shown.micros : Int) = instant.micros + form.zone.micros ∧
    form.write shown = "\t2024-03-01T05:00:15.250+05:30\n" ∧
      label (.text (form.write shown)) = .ok "2024-02-29 23:30:15" := by
  have hshift : (shown.micros : Int) = instant.micros + form.zone.micros := by decide +kernel
  have htext : form.write shown = "\t2024-03-01T05:00:15.250+05:30\n" := by decide +kernel
  have hrender : Precision.second.render instant = "2024-02-29 23:30:15" := by decide +kernel
  exact ⟨hshift, htext, hrender ▸ label_of_written hshift⟩

end LeapDay

/-! ### Labels as texts -/

/-- A label with a year below 1000 reads as no moment. -/
theorem read?_render {moment : Moment} (h : moment.date.year < 1000) :
    Iso.read? (Precision.second.render moment) = none := by
  obtain ⟨first, others, hdigits, -⟩ := Number.exists_digits moment.date.year
  have hhyphen : Utf8.encodeChar '-' = [Iso.octet '-'] := by decide
  have hshort : ((first :: others).map Iso.digitOctet).length < 4 := by
    have hlength : (Nat.toDigits 10 moment.date.year).length ≤ 3 :=
      Number.length_toDigits_le (by decide) h
    rw [hdigits, List.length_map] at hlength
    rw [List.length_map]
    exact Nat.lt_succ_of_le hlength
  rw [Iso.read?, trimList_eq_self isBlank (Precision.trimmed_second moment),
    Precision.toList_second, hdigits, Iso.encode_append, Iso.encode_map_digitChar, Iso.encode_cons,
    hhyphen]
  exact Iso.readOctets?_eq_none hshort (by decide) _

/-- The label of a second is its own label. -/
theorem label_render (moment : Moment) :
    label (.text (Precision.second.render moment)) = .ok (Precision.second.render moment) := by
  by_cases h : moment.date.year < 1000
  · exact label_of_unread (read?_render h)
  · rw [Precision.render_second_eq_text (Nat.le_of_not_lt h), label_text_self (Nat.le_of_not_lt h)]

/-- Whatever has a label, the label is that of a second or reads as no moment. -/
theorem label_cases {key : Json} {found : String} (h : label key = .ok found) :
    (∃ moment, found = Precision.second.render moment) ∨ Iso.read? found = none := by
  have hseconds : ∀ read : Except Fault Moment, read.map Precision.second.render = .ok found →
      ∃ moment, found = Precision.second.render moment := by
    intro read hread
    obtain ⟨moment, -, hfound⟩ := exists_of_map_eq_ok hread
    exact ⟨moment, hfound.symm⟩
  cases key with
  | text s =>
    cases hread : Iso.read? s with
    | none =>
      rw [label_of_unread hread] at h
      cases h
      exact .inr hread
    | some reading =>
      simp only [label, hread] at h
      split at h
      · cases h
        exact .inl ⟨_, rfl⟩
      · cases h
  | int millis =>
    rw [label] at h
    exact .inl (hseconds _ h)
  | real millis =>
    rw [label] at h
    exact .inl (hseconds _ h)
  -- The spelling of any other value begins with a letter or a bracket, where a moment has the
  -- digits of its year.
  | null =>
    cases h
    have hword : Json.null.spelled.toList = 'N' :: "one".toList := rfl
    exact .inr (Iso.read?_eq_none hword (by decide))
  | bool value =>
    cases h
    cases value with
    | false =>
      have hword : (Json.bool false).spelled.toList = 'F' :: "alse".toList := rfl
      exact .inr (Iso.read?_eq_none hword (by decide))
    | true =>
      have hword : (Json.bool true).spelled.toList = 'T' :: "rue".toList := rfl
      exact .inr (Iso.read?_eq_none hword (by decide))
  | list items =>
    cases h
    have hbracket : (Json.list items).spelled.toList =
        '[' :: (", ".intercalate (Json.spelledItems items) ++ "]").toList := by
      simp [Json.spelled]
    exact .inr (Iso.read?_eq_none hbracket (by decide))
  | object members =>
    cases h
    have hbrace : (Json.object members).spelled.toList =
        '\x7b' :: (", ".intercalate (Json.spelledMembers members) ++ "\x7d").toList := by
      simp [Json.spelled]
    exact .inr (Iso.read?_eq_none hbrace (by decide))

/-- A label is its own label, whatever it is the label of. -/
theorem label_of_label {key : Json} {found : String} (h : label key = .ok found) :
    label (.text found) = .ok found := by
  rcases label_cases h with ⟨moment, rfl⟩ | hunread
  · exact label_render moment
  · exact label_of_unread hunread

/-- The label of a moment of the year 500, which is too short to be read, is its own label. -/
theorem short_label_kept : label (.text "0500-01-01T10:00:00+02:00") = .ok "500-01-01 08:00:00" ∧
    label (.text "500-01-01 08:00:00") = .ok "500-01-01 08:00:00" := by
  have hlabel : label (.text "0500-01-01T10:00:00+02:00") = .ok "500-01-01 08:00:00" := by
    decide +kernel
  exact ⟨hlabel, label_of_label hlabel⟩

end Stamp

end StreamAudit
