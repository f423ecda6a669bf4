import StreamAudit.Backend.Grouped
import StreamAudit.Backend.Total
import StreamAudit.Store.Database

/-!
The relational backend. The rows of a stream and an audit id within the window of the days are
grouped by minute, and count and delay are summed in 64 bits in the order of the log times; a sum
that leaves the range on its way fails the query.
-/

set_option autoImplicit false
set_option relaxedAutoImplicit false

namespace StreamAudit.Backend.Relational

open StreamAudit.Calendar StreamAudit.Number StreamAudit.Store

/-- A function with its arguments, one of them the time column, as a query language writes the
minute of a time. -/
structure MinuteCall where
  function : String
  arguments : List String
deriving DecidableEq, Repr

/-- How a dialect truncates the time column to the minute. -/
def minuteCall (dialect : String) : MinuteCall :=
  if dialect = "sqlite" then ⟨"strftime", ["%Y-%m-%d %H:%M:00", "log_ts"]⟩
  else if dialect = "postgresql" then ⟨"to_char", ["log_ts", "YYYY-MM-DD HH24:MI:00"]⟩
  else ⟨"date_format", ["log_ts", "%Y-%m-%d %H:%i:00"]⟩

/-- Whether a row belongs to a query. -/
def selects (query : Query) (window : Window) (row : RawRow) : Bool :=
  row.groupId == query.groupId && row.streamId == query.streamId &&
    row.auditId == query.auditId && window.holds row.logTime

/-- The rows of a query in the order of their log times. -/
def selected (query : Query) (window : Window) (table : Table RawRow) : List RawRow :=
  ((table.map Row.data).filter (selects query window)).mergeSort fun first second ↦
    first.logTime ≤ second.logTime

/-- The minute under which a row is summed. -/
def minuteText (row : RawRow) : String :=
  row.logTime.toMinute.text

/-- Queries one audit id. -/
def run (table : Option (Table RawRow)) (query : Query) : Outcome :=
  match Window.ofDays? query.first query.last with
  | none => .error (.broken .dayOffCalendar)
  | some window =>
    let totals := table.bind fun rows ↦
      (grouped minuteText (selected query window rows)).mapM
        (Total.ofGroup? RawRow.count RawRow.delay)
    match totals with
    | none => .error (.failed (.relational query.auditId))
    | some sums => (sums.mapM Total.point).mapError Refusal.broken

end StreamAudit.Backend.Relational
