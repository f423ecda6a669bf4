import StreamAudit.Form.Day
import StreamAudit.Granularity
import StreamAudit.Text.Blank

/-!
Audit requests: one stream over an inclusive range of days. The ids are trimmed and must not be
empty, and the range must not end before it starts.
-/

set_option autoImplicit false
set_option relaxedAutoImplicit false

namespace StreamAudit

open StreamAudit.Calendar StreamAudit.Form StreamAudit.Text

/-- A query for one stream. -/
structure Request where
  groupId : String
  streamId : String
  sinkId : Option Int := none
  first : Date
  last : Date
  granularity : Granularity := .minute
  auditIds : List String := []
deriving DecidableEq

namespace Request

/-- The form of a request, before its range is checked. -/
def fields (form : Json.Members) : Checked Request :=
  (((((((Checked.ok Request.mk).also
    (required form "group_id" (text stripWhiteSpace 1))).also
    (required form "stream_id" (text stripWhiteSpace 1))).also
    (optional form "sink_id" (nullable integer) none)).also
    (required form "start_date" Day.reader)).also
    (required form "end_date" Day.reader)).also
    (optional form "time_granularity" (choice Granularity.ofName?) .minute)).also
    (optional form "audit_ids" (list (text stripWhiteSpace 0)) [])

/-- The complaint about a range that ends before it starts. -/
def invertedRange : Complaint :=
  ⟨[], .rule "end_date must not be before start_date"⟩

/-- Reads a request. -/
def ofForm (form : Json.Members) : Checked Request :=
  match fields form with
  | .ok request => if request.first ≤ request.last then .ok request else .wrong [invertedRange]
  | wrong => wrong

theorem ofForm_eq_ok_iff {form : Json.Members} {request : Request} :
    ofForm form = .ok request ↔ fields form = .ok request ∧ request.first ≤ request.last := by
  unfold ofForm
  cases fields form with
  | wrong all => simp
  | ok found =>
    by_cases hrange : found.first ≤ found.last
    · simp only [hrange, if_true, Checked.ok.injEq]
      exact ⟨fun h ↦ ⟨h, h ▸ hrange⟩, fun h ↦ h.1⟩
    · simp only [hrange, if_false, Checked.ok.injEq, reduceCtorEq, false_iff]
      rintro ⟨rfl, h⟩
      exact hrange h

end Request

end StreamAudit
