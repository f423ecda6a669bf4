import StreamAudit.Proofs.Backend.DayIndices
import StreamAudit.Proofs.Query

/-!
Series of the search index are whole or not there. A run over a range of days has read the index of
every day, or it has failed at the first one about which a call erred; what was gathered before the
failure is dropped. So with a policy that isolates failures a report is of all days of the request,
or it has no buckets (`whole_or_failed`).
-/

set_option autoImplicit false
set_option relaxedAutoImplicit false

namespace StreamAudit

open StreamAudit.Backend StreamAudit.Backend.SearchIndex StreamAudit.Calendar

/-- Whether some days are those of a query, each once and in ascending order. -/
structure Backend.Query.HasDays (query : Query) (days : List Date) : Prop where
  ascending : days.Pairwise fun day later ↦ day.number < later.number
  mem_iff : ∀ day, day ∈ days ↔ query.first ≤ day ∧ day ≤ query.last

/-- Whether a report sums up the points of a run that has read the indices of some days whole. -/
def Report.SumsUp (report : Report) (cluster : Cluster) (request : Request) (days : List Date) :
    Prop :=
  ∃ points, (run cluster (request.queryFor report.auditId)).2 = .ok points ∧
    ReadsAll cluster (days.map fun day ↦ indexName day report.auditId)
      (run cluster (request.queryFor report.auditId)) ∧
    report = Rollup.report request.granularity.precision ⟨report.auditId, report.nodeType, points⟩

theorem hasDays_upTo (query : Query) : query.HasDays (Date.upTo query.first query.last) :=
  ⟨Date.pairwise_upTo query.first query.last, fun _ ↦ Date.mem_upTo_iff⟩

section Reports

variable {cluster : Cluster} (hregular : cluster.Regular) {service : Service} {request : Request}
  {nodeTypes : Dictionary String} {auditId : String}

include hregular

/-- A series that the search index answers is of all days, or has no points. -/
theorem whole_or_empty_of_series (hprovider : service.provider = .searchIndex cluster)
    (hlast : request.last ≠ Date.final) {series : Series}
    (h : service.series request nodeTypes auditId = .ok series) :
    (Rollup.report request.granularity.precision series).SumsUp cluster request
        (Date.upTo request.first request.last) ∨
      (Rollup.report request.granularity.precision series).buckets = [] := by
  obtain ⟨points, hsettled, rfl⟩ := exists_of_map_eq_ok h
  have houtcome : service.outcome (request.queryFor auditId) =
      (run cluster (request.queryFor auditId)).2 := by
    rw [Service.outcome, hprovider]
  change service.policy.settle auditId (service.outcome (request.queryFor auditId)) = _ at hsettled
  rw [houtcome] at hsettled
  by_cases herrs : ∃ index ∈ indicesOf (request.queryFor auditId), cluster.Errs index
  · obtain ⟨index, hstops⟩ := stops_of_errs hregular hlast herrs
    rw [hstops.failed, Policy.settle] at hsettled
    -- an isolated failure leaves no points, and any other one no series
    split at hsettled
    · cases hsettled
    · cases hsettled
      exact .inr rfl
  · have hnone : ∀ index ∈ indicesOf (request.queryFor auditId), ¬ cluster.Errs index :=
      fun index hindex herr ↦ herrs ⟨index, hindex, herr⟩
    have hall := readsAll_of_not_errs hregular hlast hnone
    obtain ⟨parts, -, hjoined⟩ := hall.joined
    rw [hjoined] at hsettled
    obtain rfl := Except.ok.inj hsettled
    exact .inl ⟨parts.flatten, hjoined, hall, rfl⟩

end Reports

/-- Where calls to the cluster err only in ways that its client knows, a run over the days of a
query reads their indices whole if no call about one of them errs, and fails at the first one about
which a call errs otherwise. Their names write the day in eight digits from the year 1000 on, and in
none of the years before. Each report of a request that is answered is of all its days, or has no
buckets. -/
theorem whole_or_failed {cluster : Cluster} (hregular : cluster.Regular) :
    (∀ query : Query, query.last ≠ Date.final → ∃ days indices, query.HasDays days ∧
      indices = (days.map fun day ↦ indexName day query.auditId) ∧
      ((∀ index ∈ indices, ¬ cluster.Errs index) → ReadsAll cluster indices (run cluster query)) ∧
      ((∃ index ∈ indices, cluster.Errs index) →
        ∃ index, StopsAt cluster indices index (run cluster query))) ∧
    (∀ day auditId, indexName day auditId = compactName day auditId ↔ 1000 ≤ day.year) ∧
    ∀ (service : Service) (request : Request) (caller : Caller) (auditIds : List String)
      (reports : List Report), service.provider = .searchIndex cluster → request.last ≠ Date.final →
      service.answered request caller = .ok (auditIds, reports) →
      ∀ report ∈ reports, (∃ days, (request.queryFor report.auditId).HasDays days ∧
        report.SumsUp cluster request days) ∨ report.buckets = [] := by
  refine ⟨fun query hlast ↦ ⟨Date.upTo query.first query.last, _, hasDays_upTo query, rfl,
    readsAll_of_not_errs hregular hlast, stops_of_errs hregular hlast⟩,
    fun day auditId ↦ indexName_eq_compactName_iff, ?_⟩
  intro service request caller auditIds reports hprovider hlast hanswered report hreport
  rw [Service.answered_eq] at hanswered
  obtain ⟨plan, -, hanswered⟩ := exists_of_bind_eq_ok hanswered
  obtain ⟨found, hfound, hanswered⟩ := exists_of_map_eq_ok hanswered
  cases hanswered
  obtain ⟨series, hseries, rfl⟩ := List.mem_map.mp hreport
  obtain ⟨auditId, -, hauditId⟩ := exists_of_mem_mapM hfound series hseries
  rcases whole_or_empty_of_series hregular hprovider hlast hauditId with hsums | hempty
  · exact .inl ⟨_, hasDays_upTo _, hsums⟩
  · exact .inr hempty

/-! ### A gap and a failure -/

namespace Gap

theorem second_mem : 1 ≤ 2 ∧ 2 ≤ monthLength Date.newYear.year Date.newYear.month := by
  decide

theorem third_mem : 1 ≤ 3 ∧ 3 ≤ monthLength Date.newYear.year Date.newYear.month := by
  decide

/-- The day after New Year. -/
def secondDay : Date :=
  { Date.newYear with day := 2, day_mem := second_mem }

/-- The second day after New Year. -/
def thirdDay : Date :=
  { Date.newYear with day := 3, day_mem := third_mem }

/-- A first day of a year of three digits. -/
def oldDay : Date :=
  { Date.newYear with year := 999, year_mem := by decide, day_mem := by decide }

/-- An answer with one bucket. -/
def answer : Json :=
  .object [("aggregations", .object [(keyField, .object [("buckets", .list [
    .object [("key", .text "2024-01-01 00:00:00"), ("count", .object [("value", .int 2)]),
      ("delay", .object [("value", .int 4)])]])])])]

/-- A cluster with some indices, on one of which the search fails. -/
def cluster (indices : List String) (failing : String) : Cluster where
  existence index := .ok (indices.contains index)
  search index := if index = failing then .error .client else .ok answer

/-- The cluster with an index for the first and for the third day, the third one failing. -/
def faltering : Cluster :=
  cluster ["20240101_5", "20240103_5"] "20240103_5"

/-- A request for the days from New Year on. -/
def request (last : Date) : Request :=
  { groupId := "g", streamId := "s", first := .newYear, last := last }

/-- The service on the cluster, which isolates failures. -/
def service : Service where
  database := .empty
  defaults := ⟨[], ["5"]⟩
  topology := some { sinkType := some "", sourceTypes := ["FILE"] }
  provider := .searchIndex faltering
  warehouse := { url := none, table := "audit_data" }

/-- A caller without roles. -/
def caller : Caller :=
  { userId := "u" }

theorem regular_cluster (indices : List String) (failing : String) :
    (cluster indices failing).Regular where
  existence index error h := by cases h
  search index error _ h := by
    simp only [cluster] at h
    split at h <;> cases h
    rfl
  answers index found _ h := by
    simp only [cluster] at h
    split at h <;> cases h
    exact ⟨_, rfl⟩

/-- Up to the third day the run fails and no buckets are reported; up to the day before it all days
are. -/
theorem failed_on_thirdDay : faltering.Regular ∧
    (∃ days indices, ((request thirdDay).queryFor "5").HasDays days ∧
      indices = (days.map fun day ↦ indexName day "5") ∧
      ∃ index, StopsAt faltering indices index (run faltering ((request thirdDay).queryFor "5"))) ∧
    service.answered (request thirdDay) caller = .ok (["5"], [⟨"5", none, []⟩]) ∧
    ∃ reports, service.answered (request secondDay) caller = .ok (["5"], reports) ∧
      ∀ report ∈ reports, (∃ days, ((request secondDay).queryFor report.auditId).HasDays days ∧
        report.SumsUp faltering (request secondDay) days) ∨ report.buckets = [] := by
  have hregular : faltering.Regular := regular_cluster _ _
  obtain ⟨hruns, -, hreports⟩ := whole_or_failed hregular
  refine ⟨hregular, ?_, rfl, _, rfl, hreports service _ caller ["5"] _ rfl (by decide) rfl⟩
  obtain ⟨days, indices, hdays, hindices, -, hstops⟩ :=
    hruns ((request thirdDay).queryFor "5") (by decide)
  have hthird : thirdDay ∈ days := (hdays.mem_iff _).mpr ⟨by decide, by decide⟩
  refine ⟨days, indices, hdays, hindices, hstops ⟨"20240103_5", ?_, .inr ⟨by decide, .client, rfl⟩⟩⟩
  rw [hindices]
  exact List.mem_map.mpr ⟨_, hthird, by decide⟩

/-- In the year 999 the index whose name has the day in eight digits is not the one that is asked
about, and what it holds is not found. -/
theorem unpadded_year :
    let query : Query := ⟨"g1", "s1", "5", oldDay, oldDay⟩
    let stored := cluster [compactName oldDay "5"] ""
    stored.Regular ∧ compactName oldDay "5" = "09990101_5" ∧
      stored.Gives "09990101_5" [⟨.text "2024-01-01 00:00:00", 2, 4⟩] ∧
      (run stored query).1 = ⟨["9990101_5"], []⟩ ∧ (run stored query).2 = .ok [] :=
  ⟨regular_cluster _ _, by decide, ⟨answer, rfl, rfl⟩, rfl, rfl⟩

end Gap

end StreamAudit
