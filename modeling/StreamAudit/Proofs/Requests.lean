import StreamAudit.Proofs.Form.Day
import StreamAudit.Proofs.Form.Members
import StreamAudit.Request

/-!
Requests that are accepted. Their ids are trimmed and their range is in order, and each is read
again from the form of all its members (`normal_of_form`), since every reader takes what it gives.
For its first and its last day a request takes whatever tells a day that keeps the range in order;
that is more than the texts of days, and less by those with white space around (`days_of_form`).
-/

set_option autoImplicit false
set_option relaxedAutoImplicit false

namespace StreamAudit.Request

open StreamAudit.Calendar StreamAudit.Form StreamAudit.Text

/-- What the members of a form are read as. -/
theorem fields_eq_ok_iff {form : Json.Members} {request : Request} : fields form = .ok request ↔
    required form "group_id" (text stripWhiteSpace 1) = .ok request.groupId ∧
    required form "stream_id" (text stripWhiteSpace 1) = .ok request.streamId ∧
    Form.optional form "sink_id" (nullable integer) none = .ok request.sinkId ∧
    required form "start_date" Day.reader = .ok request.first ∧
    required form "end_date" Day.reader = .ok request.last ∧
    Form.optional form "time_granularity" (choice Granularity.ofName?) .minute =
      .ok request.granularity ∧
    Form.optional form "audit_ids" (list (text stripWhiteSpace 0)) [] = .ok request.auditIds := by
  simp only [fields, Checked.also_eq_ok_iff]
  constructor
  · rintro ⟨_, _, ⟨_, _, ⟨_, _, ⟨_, _, ⟨_, _, ⟨_, _, ⟨_, _, hmake, hgroup, rfl⟩, hstream, rfl⟩,
      hsink, rfl⟩, hfirst, rfl⟩, hlast, rfl⟩, hgranularity, rfl⟩, hids, rfl⟩
    cases hmake
    exact ⟨hgroup, hstream, hsink, hfirst, hlast, hgranularity, hids⟩
  · rintro ⟨hgroup, hstream, hsink, hfirst, hlast, hgranularity, hids⟩
    exact ⟨_, _, ⟨_, _, ⟨_, _, ⟨_, _, ⟨_, _, ⟨_, _, ⟨_, _, rfl, hgroup, rfl⟩, hstream, rfl⟩,
      hsink, rfl⟩, hfirst, rfl⟩, hlast, rfl⟩, hgranularity, rfl⟩, hids, rfl⟩

/-! ### Normal forms -/

/-- The form of all members of a request. -/
def toForm (request : Request) : Json.Members :=
  [("group_id", .text request.groupId), ("stream_id", .text request.streamId),
    ("sink_id", (request.sinkId.map Json.int).getD .null), ("start_date", .text request.first.text),
    ("end_date", .text request.last.text), ("time_granularity", .text request.granularity.name),
    ("audit_ids", .list (request.auditIds.map Json.text))]

/-- Whether the ids of a request are trimmed and there, and its range is in order. -/
structure IsNormal (request : Request) : Prop where
  groupId_ne : request.groupId ≠ ""
  groupId_trimmed : stripWhiteSpace request.groupId = request.groupId
  streamId_ne : request.streamId ≠ ""
  streamId_trimmed : stripWhiteSpace request.streamId = request.streamId
  auditIds_trimmed : ∀ auditId ∈ request.auditIds, stripWhiteSpace auditId = auditId
  inOrder : request.first ≤ request.last

theorem trimmed_of_text {minimum : Nat} {value : Json} {t : String}
    (h : text stripWhiteSpace minimum value = .ok t) :
    stripWhiteSpace t = t ∧ minimum ≤ t.length := by
  obtain ⟨s, -, rfl, hlength⟩ := text_eq_ok_iff.mp h
  exact ⟨stripWhiteSpace_stripWhiteSpace s, hlength⟩

theorem text_of_trimmed {minimum : Nat} {t : String} (htrimmed : stripWhiteSpace t = t)
    (hlength : minimum ≤ t.length) :
    text stripWhiteSpace minimum (.text t) = .ok t :=
  text_eq_ok_iff.mpr ⟨t, rfl, htrimmed, hlength⟩

theorem ne_empty_iff {t : String} : t ≠ "" ↔ 1 ≤ t.length := by
  rw [Nat.one_le_iff_ne_zero, ne_eq, ne_eq, String.length_eq_zero_iff]

/-- What is accepted is normal. -/
theorem isNormal_of_form {form : Json.Members} {request : Request} (h : ofForm form = .ok request) :
    request.IsNormal := by
  obtain ⟨hfields, hrange⟩ := ofForm_eq_ok_iff.mp h
  obtain ⟨hgroup, hstream, -, -, -, -, hids⟩ := fields_eq_ok_iff.mp hfields
  obtain ⟨_, -, hgroup⟩ := required_eq_ok_iff.mp hgroup
  obtain ⟨_, -, hstream⟩ := required_eq_ok_iff.mp hstream
  have htrimmed : ∀ auditId ∈ request.auditIds, stripWhiteSpace auditId = auditId := by
    rcases optional_eq_ok_iff.mp hids with ⟨-, hnone⟩ | ⟨value, -, hids⟩
    · rw [← hnone]
      simp
    · exact forall_of_list (fun _ _ hread ↦ (trimmed_of_text hread).1) hids
  exact {
    groupId_ne := ne_empty_iff.mpr (trimmed_of_text hgroup).2
    groupId_trimmed := (trimmed_of_text hgroup).1
    streamId_ne := ne_empty_iff.mpr (trimmed_of_text hstream).2
    streamId_trimmed := (trimmed_of_text hstream).1
    auditIds_trimmed := htrimmed
    inOrder := hrange }

theorem choice_name (granularity : Granularity) :
    choice Granularity.ofName? (.text granularity.name) = .ok granularity := by
  cases granularity <;> rfl

/-- A normal request is read from its own form. -/
theorem ofForm_toForm {request : Request} (h : request.IsNormal) :
    ofForm request.toForm = .ok request := by
  refine ofForm_eq_ok_iff.mpr ⟨fields_eq_ok_iff.mpr ⟨?_, ?_, ?_, ?_, ?_, ?_, ?_⟩, h.inOrder⟩
  · exact required_eq_ok_iff.mpr
      ⟨_, rfl, text_of_trimmed h.groupId_trimmed (ne_empty_iff.mp h.groupId_ne)⟩
  · exact required_eq_ok_iff.mpr
      ⟨_, rfl, text_of_trimmed h.streamId_trimmed (ne_empty_iff.mp h.streamId_ne)⟩
  · exact optional_eq_ok_iff.mpr (.inr ⟨_, rfl, nullable_integer request.sinkId⟩)
  · exact required_eq_ok_iff.mpr ⟨_, rfl, Day.reader_eq_ok_iff.mpr (Day.tells_text request.first)⟩
  · exact required_eq_ok_iff.mpr ⟨_, rfl, Day.reader_eq_ok_iff.mpr (Day.tells_text request.last)⟩
  · exact optional_eq_ok_iff.mpr (.inr ⟨_, rfl, choice_name request.granularity⟩)
  · exact optional_eq_ok_iff.mpr (.inr ⟨_, rfl,
      list_map fun auditId hid ↦ text_of_trimmed (h.auditIds_trimmed auditId hid) (Nat.zero_le _)⟩)

/-- An accepted request is normal, and it is read again from the form of all its members. -/
theorem normal_of_form {form : Json.Members} {request : Request} (h : ofForm form = .ok request) :
    request.IsNormal ∧ ofForm request.toForm = .ok request :=
  ⟨isNormal_of_form h, ofForm_toForm (isNormal_of_form h)⟩

/-! ### Days -/

section Days

variable {form : Json.Members} {request : Request}

/-- With another first day a request is accepted if that is a day not after the last one. -/
theorem ofForm_set_first (h : ofForm form = .ok request) (value : Json) (found : Request) :
    ofForm (form.set "start_date" value) = .ok found ↔
      ∃ date, Day.Tells date value ∧ date ≤ request.last ∧
        found = { request with first := date } := by
  obtain ⟨hgroup, hstream, hsink, -, hlast, hgranularity, hids⟩ :=
    fields_eq_ok_iff.mp (ofForm_eq_ok_iff.mp h).1
  rw [ofForm_eq_ok_iff, fields_eq_ok_iff, required_set_of_ne (by decide),
    required_set_of_ne (by decide), optional_set_of_ne (by decide), required_set_self,
    required_set_of_ne (by decide), optional_set_of_ne (by decide), optional_set_of_ne (by decide),
    hgroup, hstream, hsink, hlast, hgranularity, hids, Day.reader_eq_ok_iff]
  simp only [Checked.ok.injEq]
  constructor
  · rintro ⟨⟨hgroup, hstream, hsink, htells, hlast, hgranularity, hids⟩, hrange⟩
    refine ⟨found.first, htells, hlast ▸ hrange, ?_⟩
    rw [hgroup, hstream, hsink, hlast, hgranularity, hids]
  · rintro ⟨date, htells, hrange, rfl⟩
    exact ⟨⟨rfl, rfl, rfl, htells, rfl, rfl, rfl⟩, hrange⟩

/-- With another last day a request is accepted if that is a day not before the first one. -/
theorem ofForm_set_last (h : ofForm form = .ok request) (value : Json) (found : Request) :
    ofForm (form.set "end_date" value) = .ok found ↔
      ∃ date, Day.Tells date value ∧ request.first ≤ date ∧
        found = { request with last := date } := by
  obtain ⟨hgroup, hstream, hsink, hfirst, -, hgranularity, hids⟩ :=
    fields_eq_ok_iff.mp (ofForm_eq_ok_iff.mp h).1
  rw [ofForm_eq_ok_iff, fields_eq_ok_iff, required_set_of_ne (by decide),
    required_set_of_ne (by decide), optional_set_of_ne (by decide), required_set_of_ne (by decide),
    required_set_self, optional_set_of_ne (by decide), optional_set_of_ne (by decide), hgroup,
    hstream, hsink, hfirst, hgranularity, hids, Day.reader_eq_ok_iff]
  simp only [Checked.ok.injEq]
  constructor
  · rintro ⟨⟨hgroup, hstream, hsink, hfirst, htells, hgranularity, hids⟩, hrange⟩
    refine ⟨found.last, htells, hfirst ▸ hrange, ?_⟩
    rw [hgroup, hstream, hsink, hfirst, hgranularity, hids]
  · rintro ⟨date, htells, hrange, rfl⟩
    exact ⟨⟨rfl, rfl, rfl, rfl, htells, rfl, rfl⟩, hrange⟩

/-- With another first or last day a request is accepted if that tells a day which keeps the range
in order, and it then has that day. Values tell the days that are documented for them just where
they are the text of a day and nothing else, or else neither tell nor document it. -/
theorem days_of_form (h : ofForm form = .ok request) (value : Json) :
    (∀ found, ofForm (form.set "start_date" value) = .ok found ↔
      ∃ date, Day.Tells date value ∧ date ≤ request.last ∧ found = { request with first := date }) ∧
    (∀ found, ofForm (form.set "end_date" value) = .ok found ↔
      ∃ date, Day.Tells date value ∧ request.first ≤ date ∧ found = { request with last := date }) ∧
    ∀ date, (Day.Tells date value ↔ Day.Documented date value) ↔
      value = .text date.text ∨ (¬ Day.Tells date value ∧ ¬ Day.Documented date value) := by
  refine ⟨ofForm_set_first h value, ofForm_set_last h value, fun date ↦ ?_⟩
  rw [← Day.tells_documented_iff]
  exact iff_iff_and_or_not_and_not

end Days

namespace Lenient

/-- The day after New Year. -/
def secondDay : Date :=
  .ofParts 2024 1 2

/-- A form with white space around its ids, a text for the sink, seconds for its first day and
midnight for its last one. -/
def form : Json.Members :=
  [("group_id", .text " g\n"), ("stream_id", .text "s "), ("sink_id", .text "+07"),
    ("start_date", .int 1704067200), ("end_date", .text "2024-01-02T00:00:00.0Z"),
    ("time_granularity", .text "DAY"), ("audit_ids", .list [.text " 5", .text ""])]

/-- The request of the form. -/
def request : Request where
  groupId := "g"
  streamId := "s"
  sinkId := some 7
  first := .newYear
  last := secondDay
  granularity := .day
  auditIds := ["5", ""]

theorem ofForm_form : ofForm form = .ok request := by
  decide +kernel

/-- The request is normal and read again. -/
theorem form_read_again :
    ofForm form = .ok request ∧ request.IsNormal ∧ ofForm request.toForm = .ok request :=
  ⟨ofForm_form, normal_of_form ofForm_form⟩

/-- Texts of days tell the first and the last day. -/
theorem days_replaced : ofForm form = .ok request ∧
    ofForm (form.set "start_date" (.text "2024-01-02")) = .ok { request with first := secondDay } ∧
    ofForm (form.set "end_date" (.text "2024-01-01")) = .ok { request with last := .newYear } := by
  have hfirst : Date.newYear.text = "2024-01-01" := by decide +kernel
  have hsecond : secondDay.text = "2024-01-02" := by decide +kernel
  rw [← hfirst, ← hsecond]
  exact ⟨ofForm_form,
    ((days_of_form ofForm_form _).1 _).mpr ⟨secondDay, Day.tells_text _, by decide, rfl⟩,
    ((days_of_form ofForm_form _).2.1 _).mpr ⟨.newYear, Day.tells_text _, by decide, rfl⟩⟩

/-- The start of 1970. -/
def epochDay : Date :=
  .ofParts 1970 1 1

/-- A zero, which is no day, is taken for the first day of 1970, and New Year is refused for a blank
in front. -/
theorem zero_taken_blank_refused : ofForm form = .ok request ∧
    ofForm (form.set "start_date" (.text "0")) = .ok { request with first := epochDay } ∧
    (∀ date, ¬ Day.Documented date (.text "0")) ∧
    Day.Documented .newYear (.text " 2024-01-01") ∧
    ofForm (form.set "start_date" (.text " 2024-01-01")) =
      .wrong [⟨[.member "start_date"], .dateText⟩] := by
  refine ⟨ofForm_form, by decide +kernel, ?_, ⟨_, rfl, by decide +kernel⟩, by decide +kernel⟩
  rintro date ⟨s, hs, hdate⟩
  cases hs
  have hzero : stripWhiteSpace "0" = "0" := by decide +kernel
  have hlength := congrArg (fun t ↦ t.toList.length) (hzero.symm.trans hdate)
  simp [Day.toList_text, Precision.frontText, fourDigits, twoDigits] at hlength

end Lenient

end StreamAudit.Request
