import StreamAudit.Proofs.Backend.Health
import StreamAudit.Proofs.Query

/-!
Ranges of days in queries. What is answered for a range can be put together from any two ranges that
it is cut into (`outcome_cut`). A range that is accepted is answered by backends in good health
unless it ends with the last day of the calendar, and then by none of them (`outcome_of_accepted`).
-/

set_option autoImplicit false
set_option relaxedAutoImplicit false

namespace StreamAudit

open StreamAudit.Backend StreamAudit.Calendar StreamAudit.Form StreamAudit.Store

namespace Service

/-! ### Cutting a range -/

/-- Whether one of the three backends serves the queries, the warehouse from its stored table. -/
def ServesStored (service : Service) : Prop :=
  match service.provider with
  | .relational => True
  | .searchIndex _ => True
  | .warehouse => Text.sameButAsciiCase service.warehouse.table Warehouse.storedTable = true
  | .custom _ _ _ => False

/-- What is answered for a range of days from the year 1000 on is what is answered for the days up
to one of them, followed by what is answered for the days after it. -/
theorem outcome_cut {service : Service} {query : Query} {mid : Date} {points : List Point}
    (hstored : service.ServesStored) (hyear : 1000 ≤ query.first.year) (hfirst : query.first ≤ mid)
    (hlast : mid.number < query.last.number) (h : service.outcome query = .ok points) :
    ∃ after front back, mid.next? = some after ∧
      service.outcome { query with last := mid } = .ok front ∧
      service.outcome { query with first := after } = .ok back ∧ points = front ++ back := by
  obtain ⟨after, hafter, -⟩ := Date.exists_next? (Date.ne_final_of_lt hlast)
  refine ⟨after, ?_⟩
  unfold outcome at h ⊢
  unfold ServesStored at hstored
  cases hprovider : service.provider with
  | relational =>
    rw [hprovider] at h
    obtain ⟨front, back, hcut⟩ := Relational.run_cut hafter hfirst hlast h
    exact ⟨front, back, hafter, hcut⟩
  | searchIndex cluster =>
    rw [hprovider] at h
    obtain ⟨front, back, hcut⟩ := SearchIndex.run_cut hafter hfirst hlast h
    exact ⟨front, back, hafter, hcut⟩
  | warehouse =>
    rw [hprovider] at h hstored
    obtain ⟨front, back, hcut⟩ := Warehouse.run_cut hstored hyear hafter hfirst hlast h
    exact ⟨front, back, hafter, hcut⟩
  | custom name isStrict answer =>
    rw [hprovider] at hstored
    exact hstored.elim

/-! ### Accepted ranges -/

/-- Whether one of the three backends serves the queries, and has all that it needs to answer for
the ids of a query, on whatever days. -/
def Healthy (service : Service) (query : Query) : Prop :=
  match service.provider with
  | .relational => Relational.Healthy service.database.rawRows query
  | .searchIndex cluster => SearchIndex.Healthy cluster query.auditId
  | .warehouse => Warehouse.Healthy service.warehouse query
  | .custom _ _ _ => False

theorem exists_outcome_eq_ok {service : Service} {query : Query} (hhealthy : service.Healthy query)
    (hlast : query.last ≠ Date.final) : ∃ points, service.outcome query = .ok points := by
  unfold Healthy at hhealthy
  unfold outcome
  cases hprovider : service.provider with
  | relational =>
    rw [hprovider] at hhealthy
    exact Relational.exists_run_eq_ok hhealthy hlast
  | searchIndex cluster =>
    rw [hprovider] at hhealthy
    exact SearchIndex.exists_run_eq_ok hhealthy hlast
  | warehouse =>
    rw [hprovider] at hhealthy
    exact Warehouse.exists_run_eq_ok hhealthy hlast
  | custom name isStrict answer =>
    rw [hprovider] at hhealthy
    exact hhealthy.elim

theorem outcome_final {service : Service} {query : Query} (hhealthy : service.Healthy query)
    (hrange : query.first ≤ query.last) (hlast : query.last = Date.final) :
    service.outcome query = .error (.broken .dayOffCalendar) := by
  unfold Healthy at hhealthy
  unfold outcome
  cases hprovider : service.provider with
  | relational => exact Relational.run_final _ hlast
  | searchIndex cluster =>
    rw [hprovider] at hhealthy
    exact SearchIndex.run_final hhealthy hrange hlast
  | warehouse => exact Warehouse.run_final _ hlast
  | custom name isStrict answer =>
    rw [hprovider] at hhealthy
    exact hhealthy.elim

end Service

/-- An accepted range does not end before it starts. -/
theorem Request.first_le_last {form : Json.Members} {request : Request}
    (h : Request.ofForm form = .ok request) : request.first ≤ request.last :=
  (ofForm_eq_ok_iff.mp h).2

namespace Service

/-- A backend in good health answers every accepted range that does not end with the last day of the
calendar. On one that does it breaks down, which no policy on failures covers. -/
theorem outcome_of_accepted {form : Json.Members} {request : Request}
    (hform : Request.ofForm form = .ok request) {service : Service} {auditId : String}
    (hhealthy : service.Healthy (request.queryFor auditId)) :
    (request.last ≠ Date.final →
      ∃ points, service.outcome (request.queryFor auditId) = .ok points) ∧
      (request.last = Date.final →
        service.outcome (request.queryFor auditId) = .error (.broken .dayOffCalendar) ∧
        ∀ policy : Policy, policy.settle auditId (service.outcome (request.queryFor auditId)) =
          .error (.broken .dayOffCalendar)) := by
  have hrange : (request.queryFor auditId).first ≤ (request.queryFor auditId).last :=
    Request.first_le_last hform
  refine ⟨exists_outcome_eq_ok hhealthy, fun hlast ↦ ?_⟩
  have houtcome := outcome_final hhealthy hrange hlast
  refine ⟨houtcome, fun policy ↦ ?_⟩
  rw [houtcome, Policy.settle]

/-! ### The ends of two days -/

namespace Midnight

/-- The day after New Year. -/
def secondDay : Date :=
  { Date.newYear with day := 2, day_mem := by decide }

/-- A row at a time of day. -/
def row (date : Date) (seconds : Nat) (count delay : Int) : RawRow where
  logTime := ⟨date, .ofMicros (seconds * 1000000)⟩
  groupId := "g"
  streamId := "s"
  auditId := "5"
  count := .whole count
  delay := .whole delay

/-- The last minute of New Year, the first one of the day after it, and one of the last day of the
calendar. -/
def table : Table RawRow :=
  [⟨1, row .newYear 86340 2 10⟩, ⟨2, row secondDay 0 1 4⟩, ⟨3, row .final 36000 3 6⟩]

/-- The rows in the warehouse, one of them twice. -/
def rows : List Warehouse.Row :=
  [⟨3, row .final 36000 3 6⟩, ⟨2, row secondDay 0 1 4⟩, ⟨1, row .newYear 86340 2 10⟩,
    ⟨2, row secondDay 0 1 4⟩].map fun stored : Row RawRow ↦
      Warehouse.ofRaw (fun _ ↦ some "") stored.data

/-- A bucket of an index. -/
def bucket (key : String) (count delay : Int) : Json :=
  .object [("key_as_string", .text key), ("count", .object [("value", .int count)]),
    ("delay", .object [("value", .int delay)])]

/-- The answer of an index with some buckets. -/
def answerOf (buckets : List Json) : Json :=
  .object [("aggregations", .object [(SearchIndex.keyField, .object [("buckets", .list buckets)])])]

/-- A cluster with the indices of the three days. -/
def cluster : SearchIndex.Cluster where
  existence index := .ok (["20240101_5", "20240102_5", "99991231_5"].contains index)
  search index := .ok (answerOf (
    if index = "20240101_5" then [bucket "2024-01-01T23:59:00Z" 2 10]
    else if index = "20240102_5" then [bucket "2024-01-02T00:00:00Z" 1 4]
    else [bucket "9999-12-31T10:00:00Z" 3 6]))

/-- The warehouse in memory. -/
def connection : Warehouse.Connection :=
  { url := some "sqlite+aiosqlite://", table := "audit_data", rows := some rows }

/-- The service on one of the backends. -/
def service (provider : Provider) : Service where
  database := { rawRows := some table }
  defaults := ⟨[], ["5"]⟩
  provider := provider
  warehouse := connection

/-- A form for a range of days. -/
def form (first last : String) : Json.Members :=
  [("group_id", .text "g"), ("stream_id", .text "s"), ("start_date", .text first),
    ("end_date", .text last)]

/-- The request of the first two days. -/
def bothDays : Request :=
  { groupId := "g", streamId := "s", first := .newYear, last := secondDay }

/-- The request of the last day of the calendar. -/
def lastDay : Request :=
  { groupId := "g", streamId := "s", first := .final, last := .final }

theorem ofForm_bothDays : Request.ofForm (form "2024-01-01" "2024-01-02") = .ok bothDays := by
  decide +kernel

theorem ofForm_lastDay : Request.ofForm (form "9999-12-31" "9999-12-31") = .ok lastDay := by
  decide +kernel

/-- The three backends. -/
def backends : List Provider :=
  [.relational, .searchIndex cluster, .warehouse]

theorem countable_table : Countable RawRow.count (table.map Row.data) ∧
    Countable RawRow.delay (table.map Row.data) :=
  ⟨⟨by simp [table, row], by decide +kernel⟩, ⟨by simp [table, row], by decide +kernel⟩⟩

theorem countable_rows : Countable Warehouse.Row.count rows ∧ Countable Warehouse.Row.delay rows :=
  ⟨⟨by simp [rows, row, Warehouse.ofRaw], by decide +kernel⟩,
    ⟨by simp [rows, row, Warehouse.ofRaw], by decide +kernel⟩⟩

theorem healthy_cluster (auditId : String) : SearchIndex.Healthy cluster auditId := by
  intro day
  generalize SearchIndex.indexName day auditId = index
  by_cases hindex : ["20240101_5", "20240102_5", "99991231_5"].contains index = true
  · refine .inr ⟨congrArg Except.ok hindex, ?_⟩
    by_cases hfirst : index = "20240101_5"
    · subst hfirst
      exact ⟨_, _, rfl, rfl⟩
    · by_cases hsecond : index = "20240102_5"
      · subst hsecond
        exact ⟨_, _, rfl, rfl⟩
      · refine ⟨answerOf [bucket "9999-12-31T10:00:00Z" 3 6], _, ?_, rfl⟩
        simp only [cluster, if_neg hfirst, if_neg hsecond]
  · exact .inl (congrArg Except.ok (Bool.eq_false_iff.mpr hindex))

theorem sameButAsciiCase_table :
    Text.sameButAsciiCase connection.table Warehouse.storedTable = true := by
  decide +kernel

theorem opens_connection : connection.opens connection.url = .ok () :=
  connection.opens_memory rfl rfl

theorem healthy_connection (query : Query) : Warehouse.Healthy connection query := by
  have hlabels : ∀ row ∈ rows, ∃ label, Stamp.label (.text (Warehouse.logText row)) =
      .ok label := by
    intro row hrow
    obtain ⟨stored, -, rfl⟩ := List.mem_map.mp hrow
    exact ⟨_, Stamp.label_text stored.data.logTime⟩
  exact Warehouse.healthy_of_countable opens_connection sameButAsciiCase_table rfl countable_rows.1
    countable_rows.2 hlabels query

theorem healthy_backends (query : Query) :
    ∀ provider ∈ backends, (service provider).Healthy query := by
  rw [backends, List.forall_mem_cons, List.forall_mem_cons, List.forall_mem_singleton]
  exact ⟨Relational.healthy_of_countable countable_table.1 countable_table.2 query,
    healthy_cluster query.auditId, healthy_connection query⟩

/-- What each of the backends answers for the first two days. -/
def points : List Point :=
  [⟨.text "2024-01-01 23:59:00", 2, 10⟩, ⟨.text "2024-01-02 00:00:00", 1, 4⟩]

/-- The window of the first two days. -/
def window : Window :=
  ⟨.midnight .newYear, .midnight { Date.newYear with day := 3, day_mem := by decide }⟩

theorem outcome_bothDays :
    ∀ provider ∈ backends, (service provider).outcome (bothDays.queryFor "5") = .ok points := by
  have hwindow : Window.ofDays? bothDays.first bothDays.last = some window := by rfl
  have hfilter : (table.map Row.data).filter (Relational.selects (bothDays.queryFor "5") window) =
      [row .newYear 86340 2 10, row secondDay 0 1 4] := by
    decide +kernel
  have hselected : Relational.selected (bothDays.queryFor "5") window table =
      [row .newYear 86340 2 10, row secondDay 0 1 4] := by
    rw [Relational.selected, hfilter]
    exact List.mergeSort_of_pairwise (by decide +kernel)
  have hrelational : Relational.run (some table) (bothDays.queryFor "5") = .ok points := by
    refine Relational.run_eq_ok_iff_answers.mpr ⟨table, window, rfl, hwindow, ?_⟩
    rw [hselected]
    exact ⟨_, rfl, rfl⟩
  have hwarehouse : Warehouse.run connection (bothDays.queryFor "5") = .ok points := by
    rw [Warehouse.run_eq_ok_iff_answers sameButAsciiCase_table]
    exact ⟨opens_connection, rows, window, rfl, hwindow, _, rfl, rfl⟩
  rw [backends, List.forall_mem_cons, List.forall_mem_cons, List.forall_mem_singleton]
  exact ⟨hrelational, rfl, hwarehouse⟩

/-- Between the two days every backend cuts its answer into two that it gives, too. -/
theorem cut_at_midnight : Date.newYear.next? = some secondDay ∧ ∀ provider ∈ backends,
    (service provider).ServesStored ∧ (service provider).outcome (bothDays.queryFor "5") =
      .ok points ∧
    ∃ front back, (service provider).outcome { bothDays.queryFor "5" with last := .newYear } =
      .ok front ∧
      (service provider).outcome { bothDays.queryFor "5" with first := secondDay } = .ok back ∧
      points = front ++ back := by
  have hnext : Date.newYear.next? = some secondDay := by decide
  refine ⟨hnext, fun provider hprovider ↦ ?_⟩
  have hstored : (service provider).ServesStored := by
    simp only [backends, List.mem_cons, List.not_mem_nil, or_false] at hprovider
    rcases hprovider with rfl | rfl | rfl
    · exact trivial
    · exact trivial
    · exact sameButAsciiCase_table
  have houtcome := outcome_bothDays provider hprovider
  obtain ⟨after, front, back, hafter, hcut⟩ :=
    outcome_cut hstored (by decide) (le_refl Date.newYear.number) (by decide) houtcome
  obtain rfl : after = secondDay := Option.some.inj (hafter.symm.trans hnext)
  exact ⟨hstored, houtcome, front, back, hcut⟩

/-- The accepted range of the two days is answered by each of the backends. -/
theorem bothDays_answered : Request.ofForm (form "2024-01-01" "2024-01-02") = .ok bothDays ∧
    ∀ provider ∈ backends, (service provider).Healthy (bothDays.queryFor "5") ∧
      ∃ points, (service provider).outcome (bothDays.queryFor "5") = .ok points := by
  refine ⟨ofForm_bothDays, fun provider hprovider ↦ ?_⟩
  have hhealthy := healthy_backends (bothDays.queryFor "5") provider hprovider
  exact ⟨hhealthy, (outcome_of_accepted ofForm_bothDays hhealthy).1 (by decide)⟩

/-- The last day of the calendar is accepted too, yet each of the backends breaks down on it, for
all its good health. -/
theorem lastDay_breaks_down : Request.ofForm (form "9999-12-31" "9999-12-31") = .ok lastDay ∧
    ∀ provider ∈ backends, (service provider).Healthy (lastDay.queryFor "5") ∧
      (service provider).outcome (lastDay.queryFor "5") = .error (.broken .dayOffCalendar) := by
  refine ⟨ofForm_lastDay, fun provider hprovider ↦ ?_⟩
  have hhealthy := healthy_backends (lastDay.queryFor "5") provider hprovider
  exact ⟨hhealthy, outcome_final hhealthy (le_refl Date.final.number) rfl⟩

end Midnight

end Service

end StreamAudit
