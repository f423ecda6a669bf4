import StreamAudit.CommandLine.Arguments
import StreamAudit.CommandLine.PlainText
import StreamAudit.Json.Writer
import StreamAudit.Service

/-!
Running commands. The commands of a session share a database and one connection to it. A query that
reads several audit ids from the relational backend at once ties the connection to its run, and a
later run that would do the same finds it busy. Faults of the service are reported in a line; any
other fault ends the command without one.
-/

set_option autoImplicit false
set_option relaxedAutoImplicit false

namespace StreamAudit.CommandLine

open StreamAudit.Backend StreamAudit.Calendar StreamAudit.Store StreamAudit.Text

/-- What the commands of one session work on. -/
structure Session where
  settings : Settings
  database : Database
  cluster : SearchIndex.Cluster
  isTied : Bool := false

/-- What a command prints and how it ends; a fault that no line reports is kept. -/
structure Reply where
  exitCode : Nat
  output : String := ""
  fault : Option Fault := none
deriving DecidableEq, Repr

namespace Reply

/-- A command that did its work. -/
def done (output : String) : Reply :=
  ⟨0, plainText (output ++ "\n"), none⟩

/-- A command that could not do its work, with the reason in a line. -/
def refused (reason : String) : Reply :=
  ⟨1, plainText ("Error: " ++ reason ++ "\n"), none⟩

/-- A command that cannot be understood. -/
def usage : Reply :=
  ⟨2, "", none⟩

/-- A command that ended with a fault. -/
def ofFault (fault : Fault) : Reply :=
  if fault.isReported then refused fault.message else ⟨1, "", some fault⟩

end Reply

namespace Session

/-- The value or the fault of a call on a service of its own. -/
def result {α : Type} (session : Session) (call : Service.Call α) : Except Fault α := do
  let service ← Service.ofSettings session.settings session.database session.cluster
  (call.run service).1

/-- The form of the request of a query. -/
def form (options : QueryOptions) : Json.Members :=
  [("group_id", .text options.group), ("stream_id", .text options.stream),
    ("sink_id", (options.sinkId.map Json.int).getD .null), ("start_date", .text options.start),
    ("end_date", .text options.stop), ("time_granularity", .text options.granularity.name)]

/-- The caller of a query. -/
def caller (options : QueryOptions) : Caller where
  userId := options.user
  roles := if options.isAdmin then [Caller.tenantAdmin] else []

/-- A bucket as JSON. -/
def bucketJson (bucket : Bucket) : Json :=
  .object [("log_ts", .text bucket.label), ("count", .int bucket.count),
    ("delay", .int bucket.delay)]

/-- A report as JSON. -/
def reportJson (report : Report) : Json :=
  .object [("audit_id", .text report.auditId), ("node_type", Json.ofText? report.nodeType),
    ("points", .list (report.buckets.map bucketJson))]

/-- Whether a query reads several audit ids through the connection at once. -/
def sharesConnection (session : Session) (request : Request) (auditIds : List String) : Bool :=
  session.settings.audit.querySource == .relational && 2 ≤ auditIds.length &&
    (Window.ofDays? request.first request.last).isSome

/-- The reports of a request, and whether the connection is tied afterwards. -/
def query (session : Session) (request : Request) (caller : Caller) :
    Except Fault (List Report) × Bool :=
  match session.result (Service.plan request caller) with
  | .error fault => (.error fault, session.isTied)
  | .ok (auditIds, _) =>
    let shares := session.sharesConnection request auditIds
    if shares && session.isTied then (.error .busy, true)
    else
      ((session.result (Service.query request caller)).map (·.2), session.isTied || shares)

/-- Whether a report holds a number of too many digits. -/
def isTooLong (report : Report) : Bool :=
  report.buckets.any fun bucket ↦ Number.isTooLong bucket.count || Number.isTooLong bucket.delay

/-- What a query prints, unless one of its numbers cannot be written. -/
def queryReply : Except Fault (List Report) → Reply
  | .ok reports =>
    if reports.any isTooLong then .ofFault .numberTooLong
    else .done (Json.list (reports.map reportJson)).indentedText
  | .error fault => .ofFault fault

/-- Runs a command. -/
def run (session : Session) : Command → Reply × Session
  | .initDatabase =>
    (.done "Initializing database...\nDatabase initialized successfully!",
      { session with database := session.database.create })
  | .refreshCache =>
    match session.result Service.refresh with
    | .ok true => (.done "Audit base items reloaded", session)
    | .ok false => (.refused "Failed to reload audit base items", session)
    | .error fault => (.ofFault fault, session)
  | .auditId type direction =>
    match session.result (Service.auditId (some type) direction) with
    | .ok (some auditId) => (.done auditId, session)
    | .ok none => (.refused ("No audit id for type " ++ quoted type), session)
    | .error fault => (.ofFault fault, session)
  | .query options =>
    match Request.ofForm (form options) with
    | .wrong _ => (.usage, session)
    | .ok request =>
      let (answer, isTied) := session.query request (caller options)
      (queryReply answer, { session with isTied })

/-- Runs a command line. -/
def runLine (session : Session) (arguments : List String) : Reply × Session :=
  match parse? arguments with
  | some command => session.run command
  | none => (.usage, session)

end Session

end StreamAudit.CommandLine
