import StreamAudit.CommandLine.Session
import StreamAudit.Proofs.Calendar.Numbering
import StreamAudit.Proofs.CommandLine.PlainText
import StreamAudit.Proofs.Json.RoundTrip
import StreamAudit.Proofs.Query
import StreamAudit.Proofs.Requests
import StreamAudit.Proofs.Traversal

/-!
The command that queries a stream shows what the service answers. Its options make a request or are
refused as a usage error. The reports of an answer are printed as a JSON text from which they are
read back (`reportsOf?_map`), and a fault of the service's own is told in a line, which is its
message unless that holds what plain text leaves out. A number of too many digits is not printed;
the command then ends with a fault (`query_follows_service`).
-/

set_option autoImplicit false
set_option relaxedAutoImplicit false

namespace StreamAudit.CommandLine

open StreamAudit.Form StreamAudit.Text

namespace Session

/-! ### Reports as JSON and back -/

/-- The bucket of a JSON value. -/
def bucketOf? (value : Json) : Option Bucket :=
  match value.get? "log_ts", value.get? "count", value.get? "delay" with
  | some (.text label), some (.int count), some (.int delay) => some ⟨label, count, delay⟩
  | _, _, _ => none

/-- The report of a JSON value. -/
def reportOf? (value : Json) : Option Report :=
  match value.get? "audit_id", value.get? "node_type", value.get? "points" with
  | some (.text auditId), some (.text nodeType), some (.list points) =>
    (points.mapM bucketOf?).map fun buckets ↦ ⟨auditId, some nodeType, buckets⟩
  | some (.text auditId), some .null, some (.list points) =>
    (points.mapM bucketOf?).map fun buckets ↦ ⟨auditId, none, buckets⟩
  | _, _, _ => none

/-- The reports of a JSON value. -/
def reportsOf? : Json → Option (List Report)
  | .list items => items.mapM reportOf?
  | _ => none

theorem bucketOf?_bucketJson (bucket : Bucket) : bucketOf? (bucketJson bucket) = some bucket :=
  rfl

theorem reportOf?_reportJson (report : Report) : reportOf? (reportJson report) = some report := by
  obtain ⟨auditId, nodeType, buckets⟩ := report
  have hbuckets := mapM_map_eq_some bucketOf?_bucketJson buckets
  cases nodeType <;> exact congrArg (Option.map _) hbuckets

/-- Reports are found again in their JSON. -/
theorem reportsOf?_map (reports : List Report) :
    reportsOf? (.list (reports.map reportJson)) = some reports :=
  mapM_map_eq_some reportOf?_reportJson reports

theorem writable_ofText? (text? : Option String) : (Json.ofText? text?).Writable := by
  cases text? with
  | none => exact .null
  | some text => exact .text text

theorem writable_bucketJson {bucket : Bucket} (hcount : Number.isTooLong bucket.count = false)
    (hdelay : Number.isTooLong bucket.delay = false) : (bucketJson bucket).Writable := by
  refine .object _ (by simp [Dictionary.keys]) ?_
  simp only [List.forall_mem_cons]
  exact ⟨.text _, .int _ hcount, .int _ hdelay, by simp⟩

theorem writable_reportJson {report : Report} (h : isTooLong report = false) :
    (reportJson report).Writable := by
  simp only [isTooLong, List.any_eq_false, Bool.or_eq_true, not_or, Bool.not_eq_true] at h
  refine .object _ (by simp [Dictionary.keys]) ?_
  simp only [List.forall_mem_cons]
  exact ⟨.text _, writable_ofText? _, .list _ (List.forall_mem_map.mpr fun bucket hbucket ↦
    writable_bucketJson (h bucket hbucket).1 (h bucket hbucket).2), by simp⟩

/-! ### Replies -/

/-- Whether a reply tells a message in a line; the line is the message as it is exactly if it is
plain. -/
structure Tells (reply : Reply) (message : String) : Prop where
  exitCode : reply.exitCode = 1
  fault : reply.fault = none
  output : reply.output = plainText ("Error: " ++ message ++ "\n")
  whole : reply.output = "Error: " ++ message ++ "\n" ↔ IsPlain ("Error: " ++ message ++ "\n")

/-- Whether a reply shows some reports: its output is JSON from which exactly these are read. -/
structure Shows (reply : Reply) (reports : List Report) : Prop where
  exitCode : reply.exitCode = 0
  fault : reply.fault = none
  reads : Json.read? reply.output = some (.list (reports.map reportJson))
  decodes : (Json.read? reply.output).bind reportsOf? = some reports

theorem tells_refused (message : String) : Tells (.refused message) message :=
  ⟨rfl, rfl, rfl, plainText_eq_self_iff _⟩

theorem shows_done {reports : List Report} (h : reports.any isTooLong = false) :
    Shows (.done (Json.list (reports.map reportJson)).indentedText) reports := by
  have hwritable : (Json.list (reports.map reportJson)).Writable :=
    .list _ (List.forall_mem_map.mpr fun report hreport ↦
      writable_reportJson (by simpa using List.any_eq_false.mp h report hreport))
  have hplain : plainText ((Json.list (reports.map reportJson)).indentedText ++ "\n") =
      (Json.list (reports.map reportJson)).indentedText ++ "\n" := by
    refine plainText_of_forall fun c hc ↦ ?_
    rcases Json.printable_indentedText hwritable c hc with hprintable | rfl
    · refine ⟨fun hescape ↦ ?_, ?_⟩
      · rw [Json.Printable, hescape] at hprintable
        omega
      · rintro rfl
        exact absurd hprintable (by decide)
    · decide
  have hread := Json.read?_indentedText hwritable
  refine ⟨rfl, rfl, ?_, ?_⟩
  · rw [Reply.done, hplain, hread]
  · rw [Reply.done, hplain, hread, Option.bind_some, reportsOf?_map]

/-! ### The request -/

/-- Whether a request asks for what the options of a query say. -/
structure Asks (request : Request) (options : QueryOptions) : Prop where
  groupId : request.groupId = stripWhiteSpace options.group
  streamId : request.streamId = stripWhiteSpace options.stream
  sinkId : request.sinkId = options.sinkId
  first : Day.reader (.text options.start) = .ok request.first
  last : Day.reader (.text options.stop) = .ok request.last
  granularity : request.granularity = options.granularity

/-- The request of a query asks for what its options say. -/
theorem asks_of_form {options : QueryOptions} {request : Request}
    (h : Request.ofForm (form options) = .ok request) : Asks request options := by
  obtain ⟨hgroup, hstream, hsink, hfirst, hlast, hgranularity, -⟩ :=
    Request.fields_eq_ok_iff.mp (Request.ofForm_eq_ok_iff.mp h).1
  have hsink := read_of_optional hsink rfl
  have hgranularity := read_of_optional hgranularity rfl
  rw [nullable_integer] at hsink
  rw [Request.choice_name] at hgranularity
  exact {
    groupId := prepared_of_text (read_of_required hgroup rfl)
    streamId := prepared_of_text (read_of_required hstream rfl)
    sinkId := (Checked.ok.inj hsink).symm
    first := read_of_required hfirst rfl
    last := read_of_required hlast rfl
    granularity := (Checked.ok.inj hgranularity).symm }

theorem isTenantAdmin_caller (options : QueryOptions) :
    (caller options).isTenantAdmin = options.isAdmin := by
  unfold caller Caller.isTenantAdmin
  cases options.isAdmin <;> rfl

/-! ### The command -/

theorem result_of_service {α : Type} {session : Session} {service : Service}
    (h : Service.ofSettings session.settings session.database session.cluster = .ok service)
    (call : Service.Call α) : session.result call = (call.run service).1 := by
  rw [result, h]
  rfl

/-- On a free connection a query is answered as the service answers it. -/
theorem query_of_free {session : Session} (h : session.isTied = false) (request : Request)
    (caller : Caller) :
    (session.query request caller).1 =
      (session.result (Service.query request caller)).map (·.2) := by
  cases hservice : Service.ofSettings session.settings session.database session.cluster with
  | error fault => simp [query, result, hservice, Except.map, Except.bind, bind]
  | ok service =>
    have hanswered := Service.answered_eq service request caller
    rw [Service.answered, Service.planned, ← result_of_service hservice,
      ← result_of_service hservice] at hanswered
    cases hplan : session.result (Service.plan request caller) with
    | error fault =>
      rw [hplan] at hanswered
      rw [query, hplan, hanswered]
      rfl
    | ok plan =>
      rw [query, hplan, h]
      simp only [Bool.and_false, Bool.false_eq_true, if_false]

section Line

variable {arguments : List String} {options : QueryOptions}
    (hparse : parse? arguments = some (.query options))
include hparse

theorem runLine_of_wrong {complaints : List Complaint}
    (h : Request.ofForm (form options) = .wrong complaints) (session : Session) :
    session.runLine arguments = (.usage, session) := by
  unfold runLine run
  rw [hparse]
  dsimp only
  rw [h]

theorem runLine_of_ok {request : Request} (h : Request.ofForm (form options) = .ok request)
    (session : Session) :
    (session.runLine arguments).1 = queryReply (session.query request (caller options)).1 := by
  unfold runLine run
  rw [hparse]
  dsimp only
  rw [h]

end Line

/-- What the command for a query does. A form that is no request is a usage error, whatever the
database. Of a request the answer is that of the service, unless the connection is taken. A fault of
the service's own is told in a line; reports are shown, unless a number among them has too many
digits. -/
theorem query_follows_service {arguments : List String} {options : QueryOptions}
    (hparse : parse? arguments = some (.query options)) (session : Session) :
    (caller options).isTenantAdmin = options.isAdmin ∧
    (∀ complaints, Request.ofForm (form options) = .wrong complaints →
      session.runLine arguments = (.usage, session)) ∧
    ∀ request, Request.ofForm (form options) = .ok request → Asks request options ∧
      (session.isTied = false → (session.query request (caller options)).1 =
        (session.result (Service.query request (caller options))).map (·.2)) ∧
      (∀ fault, (session.query request (caller options)).1 = .error fault →
        fault.isReported = true → Tells (session.runLine arguments).1 fault.message) ∧
      ∀ reports, (session.query request (caller options)).1 = .ok reports →
        (reports.any isTooLong = false → Shows (session.runLine arguments).1 reports) ∧
        (reports.any isTooLong = true →
          (session.runLine arguments).1 = ⟨1, "", some .numberTooLong⟩) := by
  refine ⟨isTenantAdmin_caller options, fun complaints h ↦ runLine_of_wrong hparse h session, ?_⟩
  intro request hrequest
  have hreply := runLine_of_ok hparse hrequest session
  refine ⟨asks_of_form hrequest, fun hfree ↦ query_of_free hfree request _, ?_,
    fun reports hreports ↦ ?_⟩
  · intro fault hfault hreported
    rw [hreply, hfault, queryReply, Reply.ofFault, if_pos hreported]
    exact tells_refused fault.message
  · rw [hreply, hreports, queryReply]
    refine ⟨fun hshort ↦ ?_, fun hlong ↦ ?_⟩
    · rw [hshort, if_neg Bool.false_ne_true]
      exact shows_done hshort
    · rw [hlong, if_pos rfl]
      rfl

/-! ### A stream in a search index -/

namespace Indexed

open StreamAudit.Backend StreamAudit.Store

/-- The answer of an index with one bucket. -/
def answerOf (count : Int) : Json :=
  .object [("aggregations", .object [(SearchIndex.keyField, .object [("buckets", .list [.object
    [("key_as_string", .text "2024-01-01T10:00:00Z"), ("count", .object [("value", .int count)]),
      ("delay", .object [("value", .int 10)])]])])])]

/-- A session on a search index that gives a count for a group. -/
def session (count : Int) : Session where
  settings := { audit := { querySource := .searchIndex, userIds := [] } }
  database := { Database.empty with
    items := some [⟨1, ⟨⟨Selection.proxyType, .sent⟩, "5"⟩⟩]
    groups := some [⟨1, { groupId := "g" }⟩]
    streamSources := some [⟨1, ⟨"g", "s", "FILE"⟩⟩] }
  cluster := ⟨fun _ ↦ .ok true, fun _ ↦ .ok (answerOf count)⟩

/-- The service of the session. -/
def service (count : Int) : Service where
  database := (session count).database
  defaults := ⟨["3", "4", "5", "6"], []⟩
  provider := .searchIndex (session count).cluster
  warehouse := { url := none, table := "audit_data" }

/-- A query for a group on New Year. -/
def line (group : String) : List String :=
  ["query-audit", "--group", group, "--stream", "s", "--start", "2024-01-01", "--end", "2024-01-01"]

/-- The options of the query. -/
def options (group : String) : QueryOptions :=
  ⟨group, "s", "2024-01-01", "2024-01-01", .minute, none, "cli", false⟩

/-- The request of the query. -/
def request (group : String) : Request :=
  { groupId := group, streamId := "s", first := .newYear, last := .newYear }

/-- What is reported of a count. -/
def report (count delay : Int) : Report :=
  ⟨"5", none, [⟨"2024-01-01 10:00:00", count, delay⟩]⟩

theorem parse?_line (group : String) : parse? (line group) = some (.query (options group)) := by
  rfl

theorem ofForm_options : Request.ofForm (form (options "g")) = .ok (request "g") := by
  decide +kernel

theorem ofSettings_session (count : Int) : Service.ofSettings (session count).settings
    (session count).database (session count).cluster = .ok (service count) := by
  have hcomplete : NodeAddress.isComplete "http://localhost:9200" = true := by decide +kernel
  have hprovider : Service.providerOf (session count).settings (session count).cluster =
      .ok (.searchIndex (session count).cluster) :=
    if_pos hcomplete
  rw [Service.ofSettings, hprovider]
  rfl

theorem result_session (count : Int) (request : Request) (caller : Caller) :
    (session count).result (Service.query request caller) =
      (service count).answered request caller :=
  result_of_service (ofSettings_session count) _

theorem answered_four :
    (service 4).answered (request "g") (caller (options "g")) = .ok (["5"], [report 4 2]) := by
  decide +kernel

/-- The count of the index is printed and read back. -/
theorem query_follows_service_indexed :
    parse? (line "g") = some (.query (options "g")) ∧
    Request.ofForm (form (options "g")) = .ok (request "g") ∧
      ((session 4).query (request "g") (caller (options "g"))).1 = .ok [report 4 2] ∧
      Shows ((session 4).runLine (line "g")).1 [report 4 2] := by
  have hanswer : ((session 4).query (request "g") (caller (options "g"))).1 = .ok [report 4 2] := by
    rw [query_of_free rfl, result_session, answered_four]
    rfl
  have hfollows :=
    (query_follows_service (parse?_line "g") (session 4)).2.2 (request "g") ofForm_options
  exact ⟨parse?_line "g", ofForm_options, hanswer, (hfollows.2.2.2 _ hanswer).1 (by decide +kernel)⟩

/-- The name of a group that holds a control sequence. -/
def red : String :=
  "\x1b[31mg"

/-- A message with a control sequence is not in the output, and a count of too many digits is not
printed. -/
theorem message_cut_and_count_withheld :
    (parse? (line red) = some (.query (options red)) ∧
      Request.ofForm (form (options red)) = .ok (request red) ∧
      (session 4).result (Service.query (request red) (caller (options red))) =
        .error (.noGroup red) ∧
      (Fault.noGroup red).isReported = true ∧
      ¬ (Fault.noGroup red).message.toList <:+: ((session 4).runLine (line red)).1.output.toList) ∧
    parse? (line "g") = some (.query (options "g")) ∧
    Request.ofForm (form (options "g")) = .ok (request "g") ∧
    (session (10 ^ 4300)).result (Service.query (request "g") (caller (options "g"))) =
      .ok (["5"], [report (10 ^ 4300) 0]) ∧
    ((session (10 ^ 4300)).runLine (line "g")).1 = ⟨1, "", some .numberTooLong⟩ := by
  have hform : Request.ofForm (form (options red)) = .ok (request red) := by decide +kernel
  have hmissing : (session 4).result (Service.query (request red) (caller (options red))) =
      .error (.noGroup red) := by
    rw [result_session]
    decide +kernel
  have hcounted :
      (session (10 ^ 4300)).result (Service.query (request "g") (caller (options "g"))) =
      .ok (["5"], [report (10 ^ 4300) 0]) := by
    rw [result_session]
    decide +kernel
  refine ⟨⟨parse?_line red, hform, hmissing, rfl, ?_⟩, parse?_line "g", ofForm_options,
    hcounted, ?_⟩
  · rw [runLine_of_ok (parse?_line red) hform, query_of_free rfl, hmissing]
    decide +kernel
  · rw [runLine_of_ok (parse?_line "g") ofForm_options, query_of_free rfl, hcounted]
    decide +kernel

end Indexed

end Session

end StreamAudit.CommandLine
