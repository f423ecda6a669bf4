import StreamAudit.Calendar.Date
import StreamAudit.Series
import StreamAudit.Stamp

/-!
What a backend answers for one audit id: its points, or a reason why there are none. A backend may
be too slow, may have no data source, or may fail; everything else that stops a query is a
breakdown, which no policy covers.
-/

set_option autoImplicit false
set_option relaxedAutoImplicit false

namespace StreamAudit.Backend

open StreamAudit.Calendar

/-- One audit id of one stream over an inclusive range of days. -/
structure Query where
  groupId : String
  streamId : String
  auditId : String
  first : Date
  last : Date

/-- Why a backend has no data source. -/
inductive Absence where
  | noWarehouse
  | reported (message : String)
deriving DecidableEq, Repr

/-- The wording of an absence. -/
def Absence.message : Absence → String
  | .noWarehouse => "no ClickHouse audit source is configured"
  | .reported message => message

/-- Why the database of an address cannot be opened. -/
inductive Unopened where
  | unnamed
  | unreadable
  | badPort
  | unknownDialect
  | remote
  | badOption
  | repeatedOption
deriving DecidableEq, Repr

/-- Why a query failed. -/
inductive Failure where
  | relational (auditId : String)
  | warehouse (auditId : String)
  | searchIndex (index : String)
  | timedOut (auditId : String)
  | reported (message : String)
deriving DecidableEq, Repr

/-- The wording of a failure. -/
def Failure.message : Failure → String
  | .relational auditId => "relational audit query failed for audit_id=" ++ auditId
  | .warehouse auditId => "clickhouse audit query failed for audit_id=" ++ auditId
  | .searchIndex index => "elasticsearch audit query failed for index=" ++ index
  | .timedOut auditId => "audit query timed out for audit_id=" ++ auditId
  | .reported message => message

/-- What is wrong with an answer of the search index. -/
inductive Malformed where
  | noObject
  | noList
  | noNumber
  | noInteger
  | infinite
  | key (fault : Stamp.Fault)
deriving DecidableEq, Repr

/-- What stops a query outside of every policy. -/
inductive Breakdown where
  | dayOffCalendar
  | unopened (cause : Unopened)
  | badKey (fault : Stamp.Fault)
  | malformed (cause : Malformed)
  | missingEntry
deriving DecidableEq, Repr

/-- Why a query has no points. -/
inductive Refusal where
  | slow
  | absent (cause : Absence)
  | failed (cause : Failure)
  | broken (cause : Breakdown)
deriving DecidableEq, Repr

/-- The points of a query or the reason for their lack. -/
abbrev Outcome :=
  Except Refusal (List Point)

end StreamAudit.Backend
