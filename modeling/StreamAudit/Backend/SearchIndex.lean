import StreamAudit.Backend.Outcome
import StreamAudit.Number.IntegerText

/-!
The search index backend. Every day of an audit id has an index of its own; a query asks day by day
whether the index exists and, if so, for the sums of its buckets. The first error ends the query, so
that a series is never partial, and the trace of a run holds the indices in the order in which they
were asked about.
-/

set_option autoImplicit false
set_option relaxedAutoImplicit false

namespace StreamAudit.Backend.SearchIndex

open StreamAudit.Calendar StreamAudit.Number StreamAudit.Text

/-- The field under which rows are summed. -/
def keyField : String :=
  "log_ts"

/-- The number of buckets asked for: all that fit 31 bits. -/
def bucketLimit : Int :=
  2147483647

/-- The weight of a condition. -/
def neutralWeight : Json :=
  .real (.ofInt 1)

/-- The name of the index of a day and an audit id. -/
def indexName (day : Date) (auditId : String) : String :=
  String.ofList (Nat.toDigits 10 day.year ++ twoDigits day.month ++ twoDigits day.day) ++ "_" ++
    auditId

/-- The condition that a field has a value. -/
def term (field value : String) : Json :=
  .object [("term", .object [(field, .object [("value", .text value), ("boost", neutralWeight)])])]

/-- The sum of a field. -/
def sum (field : String) : String × Json :=
  (field, .object [("sum", .object [("field", .text field)])])

/-- What is asked of an index: no rows, only the sums of count and delay for each key in order. -/
def request (groupId streamId : String) : Json.Members :=
  [("from", .int 0), ("size", .int 0),
    ("query", .object [("bool", .object [
      ("must", .list [term "inlong_group_id" groupId, term "inlong_stream_id" streamId]),
      ("adjust_pure_negative", .bool true), ("boost", neutralWeight)])]),
    ("sort", .list [.object [(keyField, .object [("order", .text "asc")])]]),
    ("aggregations", .object [(keyField, .object [
      ("terms", .object [("field", .text keyField), ("size", .int bucketLimit),
        ("order", .object [("_key", .text "asc")])]),
      ("aggregations", .object [sum "count", sum "delay"])])])]

/-- The value under a name; a value that stands for nothing has no members. -/
def child (name : String) (value : Json) : Except Malformed Json :=
  if value.isNothing then .ok .null
  else
    match value.members? with
    | some members => .ok ((members.get? name).getD .null)
    | none => .error .noObject

/-- The integer of a sum, its fraction dropped; nothing counts as zero. -/
def integer (value : Json) : Except Malformed Int :=
  if value.isNothing then .ok 0
  else
    match value with
    | .int n => .ok n
    | .bool b => .ok (if b then 1 else 0)
    | .real x =>
      match x.truncate? with
      | some n => .ok n
      | none => .error (if x = .nan then .noNumber else .infinite)
    | .text s =>
      match readInteger? s with
      | some n => .ok n
      | none => .error .noNumber
    | _ => .error .noInteger

/-- The point of one bucket; the written form of its key is preferred, even if it is null. -/
def point (bucket : Json) : Except Malformed Point := do
  let some members := bucket.members? | throw .noObject
  let key := (members.get? "key_as_string").getD ((members.get? "key").getD .null)
  let label ← (Stamp.label key).mapError Malformed.key
  let count ← integer (← child "value" ((members.get? "count").getD .null))
  let delay ← integer (← child "value" ((members.get? "delay").getD .null))
  pure ⟨.text label, count, delay⟩

/-- The buckets of a list; the parts of a text or an object are no buckets. -/
def buckets (value : Json) : Except Malformed (List Json) :=
  if value.isNothing then .ok []
  else
    match value with
    | .list items => .ok items
    | .text _ | .object _ => .error .noObject
    | _ => .error .noList

/-- The points of an answer; a missing part of it yields none. -/
def points (answer : Json) : Except Malformed (List Point) := do
  let sums ← child "aggregations" answer
  let keyed ← child keyField sums
  (← buckets (← child "buckets" keyed)).mapM point

/-- How a call to the cluster fails: in a way that the client knows, or in any other. -/
inductive CallError where
  | client
  | other
deriving DecidableEq, Repr

/-- A cluster, by its answers to the two calls. -/
structure Cluster where
  existence : String → Except CallError Bool
  search : String → Except CallError Json

/-- The indices asked about so far, and those searched. -/
structure Trace where
  checked : List String := []
  searched : List String := []
deriving DecidableEq, Repr

/-- Why a call ends the query. -/
def refusal (index : String) : CallError → Refusal
  | .client => .failed (.searchIndex index)
  | .other => .broken .missingEntry

/-- Queries the days in order, each only if those before it went well. -/
def queryDays (cluster : Cluster) (auditId : String) (trace : Trace) :
    List Date → Trace × Outcome
  | [] => (trace, .ok [])
  | day :: later =>
    let index := indexName day auditId
    let checked := { trace with checked := trace.checked ++ [index] }
    match cluster.existence index with
    | .error error => (checked, .error (refusal index error))
    | .ok false => queryDays cluster auditId checked later
    | .ok true =>
      let searched := { checked with searched := checked.searched ++ [index] }
      match cluster.search index with
      | .error error => (searched, .error (refusal index error))
      | .ok answer =>
        match points answer with
        | .error cause => (searched, .error (.broken (.malformed cause)))
        | .ok found =>
          match queryDays cluster auditId searched later with
          | (trace, .ok others) => (trace, .ok (found ++ others))
          | (trace, .error refusal) => (trace, .error refusal)

/-- Queries the days of a range. The day after the last is needed too, and the calendar may end. -/
def run (cluster : Cluster) (query : Query) : Trace × Outcome :=
  match queryDays cluster query.auditId {} (Date.upTo query.first query.last) with
  | (trace, .ok points) =>
    if query.first ≤ query.last ∧ query.last.next? = none then
      (trace, .error (.broken .dayOffCalendar))
    else (trace, .ok points)
  | stopped => stopped

end StreamAudit.Backend.SearchIndex
