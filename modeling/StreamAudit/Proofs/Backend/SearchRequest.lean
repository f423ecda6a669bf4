import StreamAudit.Backend.Grouped
import StreamAudit.Proofs.Backend.SearchIndex

/-!
What a request asks of a search index. A cluster answers it from the documents that satisfy its
conditions, with a bucket for each value of the field that it names and with the sums that it names
(`answer?`). The points that are read from that answer are those of the documents of the stream, one
for each log time, whatever the cluster takes for the sum of some values (`points_answer?`). So the
names under which sums are asked for are the names under which they are read, and a day of a query
is answered from the documents of its index (`dayOutcome_ofDocuments`).
-/

set_option autoImplicit false
set_option relaxedAutoImplicit false

namespace StreamAudit.Backend.SearchIndex

open StreamAudit.Calendar

/-- The text that a document holds in a field. -/
def textIn? (field : String) (document : Json.Members) : Option String :=
  match document.get? field with
  | some (.text value) => some value
  | _ => none

/-- Whether a document holds the text that a condition asks of a field. -/
def satisfies (document : Json.Members) (condition : Json) : Bool :=
  match condition.get? "term" with
  | some (.object [(field, options)]) =>
    match options.get? "value" with
    | some (.text wanted) => textIn? field document == some wanted
    | _ => false
  | _ => false

/-- The conditions of a request, all of which a document must satisfy. -/
def conditions (request : Json.Members) : List Json :=
  match ((request.get? "query").bind (·.get? "bool")).bind (·.get? "must") with
  | some (.list conditions) => conditions
  | _ => []

/-- The values of some documents that go into a sum. -/
def summands (sum : Json) (documents : List Json.Members) : List Json :=
  match (sum.get? "sum").bind (·.get? "field") with
  | some (.text field) => documents.filterMap (·.get? field)
  | _ => []

/-- What a cluster answers to a request from some documents. How it sums the values of a field is up
to the cluster; a document without a text in the field of the buckets is in none of them. -/
def answer? (total : List Json → Json) (documents : List Json.Members) (request : Json.Members) :
    Option Json :=
  match request.get? "aggregations" with
  | some (.object [(name, asked)]) => do
    let .text field ← (asked.get? "terms").bind (·.get? "field") | none
    let .object sums ← asked.get? "aggregations" | none
    let found := documents.filter fun document ↦
      (conditions request).all (satisfies document) && (textIn? field document).isSome
    let bucket (group : String × List Json.Members) : Json :=
      .object (("key", .text group.1) :: sums.map fun sum ↦
        (sum.1, .object [("value", total (summands sum.2 group.2))]))
    let buckets := (grouped (fun document ↦ (textIn? field document).getD "") found).map bucket
    pure (.object [("aggregations", .object [(name, .object [("buckets", .list buckets)])])])
  | _ => none

/-- Whether a document counts for a stream: it has the ids of the stream, and a log time. -/
def countsFor (groupId streamId : String) (document : Json.Members) : Bool :=
  textIn? "inlong_group_id" document == some groupId &&
    textIn? "inlong_stream_id" document == some streamId && (textIn? keyField document).isSome

/-- The point of the documents of one log time. -/
def pointOf (total : List Json → Json) (group : String × List Json.Members) :
    Except Malformed Point := do
  let label ← (Stamp.label (.text group.1)).mapError Malformed.key
  let count ← integer (total (group.2.filterMap (·.get? "count")))
  let delay ← integer (total (group.2.filterMap (·.get? "delay")))
  pure ⟨.text label, count, delay⟩

theorem satisfies_term (field value : String) (document : Json.Members) :
    satisfies document (term field value) = (textIn? field document == some value) :=
  rfl

theorem satisfies_conditions_request (groupId streamId : String) (document : Json.Members) :
    (conditions (request groupId streamId)).all (satisfies document) =
      (textIn? "inlong_group_id" document == some groupId &&
        textIn? "inlong_stream_id" document == some streamId) := by
  have hconditions : conditions (request groupId streamId) =
      [term "inlong_group_id" groupId, term "inlong_stream_id" streamId] := rfl
  rw [hconditions, List.all_cons, List.all_cons, List.all_nil, Bool.and_true, satisfies_term,
    satisfies_term]

/-- The bucket of the documents of one log time. -/
def bucketOf (total : List Json → Json) (group : String × List Json.Members) : Json :=
  .object [("key", .text group.1),
    ("count", .object [("value", total (group.2.filterMap (·.get? "count")))]),
    ("delay", .object [("value", total (group.2.filterMap (·.get? "delay")))])]

theorem answer?_request (total : List Json → Json) (documents : List Json.Members)
    (groupId streamId : String) : answer? total documents (request groupId streamId) =
      some (.object [("aggregations", .object [(keyField, .object [("buckets", .list
        ((grouped (fun document ↦ (textIn? keyField document).getD "")
          (documents.filter (countsFor groupId streamId))).map (bucketOf total)))])])]) := by
  have hfound : (fun document ↦ (conditions (request groupId streamId)).all (satisfies document) &&
      (textIn? keyField document).isSome) = countsFor groupId streamId := by
    funext document
    rw [satisfies_conditions_request, countsFor]
  rw [← hfound]
  rfl

theorem point_bucketOf (total : List Json → Json) (group : String × List Json.Members) :
    point (bucketOf total group) = pointOf total group :=
  rfl

/-- The points of the documents of a stream, one for each log time. -/
def pointsOf (total : List Json → Json) (documents : List Json.Members)
    (groupId streamId : String) : Except Malformed (List Point) :=
  (grouped (fun document ↦ (textIn? keyField document).getD "")
    (documents.filter (countsFor groupId streamId))).mapM (pointOf total)

/-- The points that are read from the answer to a request are those of the documents of the
stream. -/
theorem points_answer? (total : List Json → Json) (documents : List Json.Members)
    (groupId streamId : String) :
    (answer? total documents (request groupId streamId)).map points =
      some (pointsOf total documents groupId streamId) := by
  rw [answer?_request, Option.map_some]
  have hbuckets : ∀ items : List Json, buckets (.list items) = .ok items := by
    intro items
    cases items <;> rfl
  have hread : ∀ items : List Json, points (.object [("aggregations", .object [(keyField,
      .object [("buckets", .list items)])])]) = (buckets (.list items)).bind (List.mapM point) :=
    fun items ↦ rfl
  rw [hread, hbuckets]
  have hpoint : point ∘ bucketOf total = pointOf total :=
    funext fun group ↦ point_bucketOf total group
  simp only [Except.bind, List.mapM_map, hpoint, pointsOf]

/-- A cluster that holds some documents in each of its indices, asked for a stream. -/
def Cluster.ofDocuments (total : List Json → Json) (indices : String → Option (List Json.Members))
    (groupId streamId : String) : Cluster where
  existence index := .ok (indices index).isSome
  search index := .ok (((indices index).bind fun documents ↦
    answer? total documents (request groupId streamId)).getD .null)

/-- A day is answered from the documents of its index, and without points if it has none. -/
theorem dayOutcome_ofDocuments (total : List Json → Json)
    (indices : String → Option (List Json.Members)) (groupId streamId auditId : String)
    (day : Date) :
    dayOutcome (.ofDocuments total indices groupId streamId) auditId day =
      match indices (indexName day auditId) with
      | none => .ok []
      | some documents => (pointsOf total documents groupId streamId).mapError fun cause ↦
          .broken (.malformed cause) := by
  unfold dayOutcome Cluster.ofDocuments
  cases hindex : indices (indexName day auditId) with
  | none => simp only [hindex, Option.isSome_none]
  | some documents =>
    obtain ⟨answer, hanswer, hpoints⟩ :=
      Option.map_eq_some_iff.mp (points_answer? total documents groupId streamId)
    simp only [hindex, Option.isSome_some, Option.bind_some, hanswer, Option.getD_some, hpoints]

end StreamAudit.Backend.SearchIndex
