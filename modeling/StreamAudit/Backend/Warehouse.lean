import StreamAudit.Backend.Grouped
import StreamAudit.Backend.Opening
import StreamAudit.Backend.Total
import StreamAudit.Sql.Statement

/-!
The warehouse backend. Rows may be delivered more than once, so the rows of a query are taken once
each, told apart by all twelve columns, before count and delay are summed for every log time. Log
times are texts here and compared as such. A sum of whole numbers must stay within 64 bits on its
way; with a fraction among them it is a sum of doubles. The table that is read may be a selection
from the stored one.
-/

set_option autoImplicit false
set_option relaxedAutoImplicit false

namespace StreamAudit.Backend.Warehouse

open StreamAudit.Calendar StreamAudit.Number StreamAudit.Sql

/-- A row of the warehouse. -/
structure Row where
  ip : Option String := some ""
  dockerId : Option String := some ""
  threadId : Option String := some ""
  sdkTime : Option String := some ""
  packetId : Measure := .whole 0
  logTime : Option String := some ""
  groupId : Option String := some ""
  streamId : Option String := some ""
  auditId : Option String := some ""
  count : Measure := .whole 0
  size : Measure := .whole 0
  delay : Measure := .whole 0
deriving DecidableEq, Repr

/-- The columns of a row, in order. -/
def columns : List String :=
  ["ip", "docker_id", "thread_id", "sdk_ts", "packet_id", "log_ts", "inlong_group_id",
    "inlong_stream_id", "audit_id", "count", "size", "delay"]

/-- The values of a row, in the order of its columns. -/
def Row.values (row : Row) : List Value :=
  [.ofText? row.ip, .ofText? row.dockerId, .ofText? row.threadId, .ofText? row.sdkTime,
    .ofMeasure row.packetId, .ofText? row.logTime, .ofText? row.groupId, .ofText? row.streamId,
    .ofText? row.auditId, .ofMeasure row.count, .ofMeasure row.size, .ofMeasure row.delay]

/-- The statement that a query runs on a table. -/
def statement (table : String) : String :=
  "SELECT log_ts, sum(count) AS total, sum(delay) AS total_delay FROM (SELECT DISTINCT " ++
    ", ".intercalate columns ++ " FROM " ++ table ++
    " WHERE inlong_group_id = :group_id AND inlong_stream_id = :stream_id" ++
    " AND audit_id = :audit_id AND log_ts >= :start_ts AND log_ts < :end_ts) AS sub" ++
    " GROUP BY log_ts ORDER BY log_ts"

/-- Whether a text lies in a range that holds its start but not its end. -/
def within (start stop : String) (text : String) : Bool :=
  start ≤ text && text < stop

/-- Whether a row belongs to a query. -/
def selects (query : Query) (start stop : String) (row : Row) : Bool :=
  row.groupId == some query.groupId && row.streamId == some query.streamId &&
    row.auditId == some query.auditId && row.logTime.any (within start stop)

/-- The sums of the distinct rows of a query for each log time in ascending order. -/
def totals? (query : Query) (window : Window) (rows : List Row) :
    Option (List Total) :=
  let start := Precision.second.render window.start
  let stop := Precision.second.render window.stop
  let found := distinct (rows.filter (selects query start stop))
  (grouped (fun row ↦ row.logTime.getD "") found).mapM (Total.ofGroup? Row.count Row.delay)

/-- The name of the table that holds the rows. -/
def storedTable : String :=
  "audit_data"

/-- The columns that hold numbers. -/
def measureColumns : List String :=
  ["packet_id", "count", "size", "delay"]

/-- The stored rows as a table of statements. Every row has the number of its place. -/
def tableOf (rows : List Row) : Table where
  name := storedTable
  isStored := true
  source _ := some
    { columns :=
        (columns.map fun name ↦
          { owners := [storedTable], isStored := true, name := some name
            affinity := if measureColumns.contains name then .numbers else .texts }) ++
        [{ owners := [storedTable], isStored := true, name := none, affinity := .numbers
           collation := none, access := .rowNumber }]
      rows := fun _ ↦ some (rows.zipIdx.map fun (row, place) ↦ row.values ++ [.whole (place + 1)]) }

/-- A warehouse: where it is, what is read there as a table, and the stored rows if their table
exists. Which urls can be opened is up to the drivers that are installed; by default there are none
but the one for databases in memory. -/
structure Connection where
  url : Option String
  table : String
  rows : Option (List Row) := none
  opens : Option String → Except Unopened Unit := Opening.attempt

/-- What a query makes of a warehouse that cannot be opened. -/
def refusal (auditId : String) : Unopened → Refusal
  | .unnamed => .absent .noWarehouse
  | .unreadable | .unknownDialect | .remote => .failed (.warehouse auditId)
  | cause => .broken (.unopened cause)

/-- The values of the parameters of a statement. -/
def parameters (query : Query) (window : Window) : List (String × Value) :=
  [("group_id", .text query.groupId), ("stream_id", .text query.streamId),
    ("audit_id", .text query.auditId), ("start_ts", .text (Precision.second.render window.start)),
    ("end_ts", .text (Precision.second.render window.stop))]

/-- A value as a key of a total. -/
def keyOf : Value → Json
  | .whole n => .int n
  | .real x => .real x
  | .text s => .text s
  | _ => .null

/-- The total that a row of an answer is. -/
def totalOf? : List Value → Option Total
  | [key, count, delay] => some ⟨keyOf key, count.measure, delay.measure⟩
  | _ => none

/-- The totals that the statement answers on what is read as a table. -/
def answer? (connection : Connection) (query : Query) (window : Window) : Option (List Total) := do
  let tables := (connection.rows.map tableOf).toList
  let rows ← Sql.answer? tables (parameters query window) (statement connection.table)
  rows.mapM totalOf?

/-- The totals of a query. Where the stored table itself is read they are those of its rows, as the
statement answers them. -/
def totalsOf? (connection : Connection) (query : Query) (window : Window) : Option (List Total) :=
  if Text.sameButAsciiCase connection.table storedTable then
    connection.rows.bind (totals? query window)
  else answer? connection query window

/-- Queries one audit id. -/
def run (connection : Connection) (query : Query) : Outcome :=
  match Window.ofDays? query.first query.last with
  | none => .error (.broken .dayOffCalendar)
  | some window =>
    match connection.opens connection.url with
    | .error cause => .error (refusal query.auditId cause)
    | .ok _ =>
      match totalsOf? connection query window with
      | none => .error (.failed (.warehouse query.auditId))
      | some totals => (totals.mapM Total.point).mapError Refusal.broken

end StreamAudit.Backend.Warehouse
