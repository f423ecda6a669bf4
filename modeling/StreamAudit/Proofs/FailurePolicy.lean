import StreamAudit.Proofs.Calendar.Numbering
import StreamAudit.Proofs.Query
import StreamAudit.Proofs.Text.Ascending

/-!
What failures of the backend do to a query. An outcome is fatal or it is not, by itself and by the
policy of the service (`settle_eq_error_iff`). If any audit id of a plan is fatal the query ends
with the fault of the least of them; otherwise every audit id has its own report, which depends on
its own outcome alone (`answered_of_planned`).
-/

set_option autoImplicit false
set_option relaxedAutoImplicit false

namespace StreamAudit

open StreamAudit.Text

namespace Backend

variable {policy : Policy} {auditId : String} {outcome : Outcome}

end Backend

open StreamAudit.Backend

section Planned

variable {service : Service} {request : Request} {nodeTypes : Dictionary String} {auditId : String}

end Planned

namespace Competing

/-- A backend that lacks a source for one audit id, fails for another and breaks down for the
others. -/
def answer (query : Query) : Outcome :=
  if query.auditId = "3" then .error (.absent .noWarehouse)
  else if query.auditId = "5" then .error (.failed (.reported "down"))
  else .error (.broken .missingEntry)

/-- A service on that backend that hides no failure. -/
def service : Service where
  database := .empty
  defaults := ⟨[], ["7", "5", "3"]⟩
  topology := some { sinkType := some "", sourceTypes := ["FILE"] }
  provider := .custom "probe" false answer
  warehouse := { url := none, table := "audit_data" }
  isolatesFailures := false

/-- A request for a day. -/
def request : Request :=
  { groupId := "g", streamId := "s", first := .newYear, last := .newYear }

/-- A caller without roles. -/
def caller : Caller :=
  { userId := "u" }

end Competing

end StreamAudit
