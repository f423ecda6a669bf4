import StreamAudit.Proofs.Backend.Relational
import StreamAudit.Proofs.Query

/-!
What the reports of the relational backend account for. Wherever a query is answered, the buckets of
an audit id stand for the rows of the stream and the audit id on the days of the request: one bucket
for each label that a row has, in ascending order, and in it the totals of the rows of that label
and of no other row (`accounts_of_answered`). Totals are taken minute by minute; where the columns
hold whole numbers they are the sums over the rows.
-/

set_option autoImplicit false
set_option relaxedAutoImplicit false

namespace StreamAudit

open StreamAudit.Backend StreamAudit.Backend.Relational StreamAudit.Calendar StreamAudit.Number
open StreamAudit.Sql StreamAudit.Store StreamAudit.Text

/-- The label of the minute of a row. -/
def rowLabel (precision : Precision) (row : RawRow) : String :=
  precision.render row.logTime.toMinute

/-- The rows of one label. -/
def rowsUnder (precision : Precision) (label : String) (rows : List RawRow) : List RawRow :=
  rows.filter fun row ↦ rowLabel precision row = label

/-- The total of a column over some rows, the integer parts of the sums of their minutes added
up. -/
def minutesTotal (column : RawRow → Measure) (rows : List RawRow) : Int :=
  ((grouped minuteText rows).map fun group ↦ columnTotal column group.2).sum

/-- The sum of the whole numbers that a column holds. -/
def wholeSum (column : RawRow → Measure) (rows : List RawRow) : Int :=
  (rows.map fun row ↦ (column row).wholeValue).sum

/-- Whether a column holds whole numbers and nulls only. -/
def HoldsIntegers (column : RawRow → Measure) (rows : List RawRow) : Prop :=
  ∀ row ∈ rows, (column row).isInteger = true

/-- Whether buckets account for some rows: every row is booked under the label of its minute and
under no other one, once, and nothing else is booked. -/
structure Accounts (precision : Precision) (rows : List RawRow) (buckets : List Bucket) : Prop where
  ascending : Ascending.Sorted (buckets.map Bucket.label)
  mem_labels : ∀ label, label ∈ buckets.map Bucket.label ↔
    ∃ row ∈ rows, rowLabel precision row = label
  count_eq : ∀ bucket ∈ buckets,
    bucket.count = minutesTotal RawRow.count (rowsUnder precision bucket.label rows)
  delay_eq : ∀ bucket ∈ buckets, bucket.delay = if 0 < bucket.count then
    (minutesTotal RawRow.delay (rowsUnder precision bucket.label rows)).tdiv bucket.count else 0
  count_exact : ∀ bucket ∈ buckets,
    HoldsIntegers RawRow.count (rowsUnder precision bucket.label rows) →
      bucket.count = wholeSum RawRow.count (rowsUnder precision bucket.label rows)
  delay_exact : ∀ bucket ∈ buckets,
    HoldsIntegers RawRow.count (rowsUnder precision bucket.label rows) →
      HoldsIntegers RawRow.delay (rowsUnder precision bucket.label rows) →
        bucket.delay = if 0 < wholeSum RawRow.count (rowsUnder precision bucket.label rows) then
          (wholeSum RawRow.delay (rowsUnder precision bucket.label rows)).tdiv
            (wholeSum RawRow.count (rowsUnder precision bucket.label rows)) else 0

section Rows

variable {precision : Precision} {rows : List RawRow}

theorem relabel?_minuteText (hyears : ∀ row ∈ rows, 1000 ≤ row.logTime.date.year) :
    ∀ row ∈ rows, precision.relabel? (.text (minuteText row)) = some (rowLabel precision row) := by
  intro row hrow
  have hyear : 1000 ≤ row.logTime.toMinute.date.year := hyears row hrow
  rw [minuteText, Precision.relabel?_text precision hyear, rowLabel]

/-- The minutes of the rows of a label are minutes of all rows. -/
theorem mem_grouped_of_rowsUnder (hyears : ∀ row ∈ rows, 1000 ≤ row.logTime.date.year)
    {label : String} {group : String × List RawRow}
    (hgroup : group ∈ grouped minuteText (rowsUnder precision label rows)) :
    group ∈ grouped minuteText rows := by
  rw [rowsUnder, grouped_labelled (relabel?_minuteText hyears)] at hgroup
  exact (List.mem_filter.mp hgroup).1

/-- Where a column holds whole numbers its total is their sum, however the minutes fall. -/
theorem minutesTotal_eq_wholeSum {column : RawRow → Measure}
    (htotals : ∀ group ∈ grouped minuteText rows, HasTotal column group.2)
    (hwhole : HoldsIntegers column rows) : minutesTotal column rows = wholeSum column rows := by
  have hgroups : ∀ group ∈ grouped minuteText rows,
      columnTotal column group.2 = (group.2.map fun row ↦ (column row).wholeValue).sum := by
    intro group hgroup
    refine columnTotal_eq_sum (fun row hrow ↦ hwhole row ?_) (htotals group hgroup)
    rw [(mem_grouped.mp hgroup).2] at hrow
    exact (List.mem_filter.mp hrow).1
  rw [minutesTotal, List.map_congr_left hgroups, sum_grouped, wholeSum]

theorem averageDelay_eq (total count : Int) :
    Rollup.averageDelay total count = if 0 < count then total.tdiv count else 0 := by
  unfold Rollup.averageDelay
  split_ifs with hlow hhigh
  · omega
  · rfl
  · rfl
  · omega

/-- The bucket of a label over some rows. -/
def bucketUnder (precision : Precision) (rows : List RawRow) (label : String) : Bucket where
  label := label
  count := minutesTotal RawRow.count (rowsUnder precision label rows)
  delay := Rollup.averageDelay (minutesTotal RawRow.delay (rowsUnder precision label rows))
    (minutesTotal RawRow.count (rowsUnder precision label rows))

/-- The points of the minutes of some rows are rolled up to one bucket for each label of a row. -/
theorem buckets_of_minutes (hyears : ∀ row ∈ rows, 1000 ≤ row.logTime.date.year) :
    (Rollup.tallies precision (pointsOf (columnTotal RawRow.count) (columnTotal RawRow.delay)
      (grouped minuteText rows))).map Rollup.Tally.bucket =
      (Ascending.ofList (rows.map (rowLabel precision))).map (bucketUnder precision rows) := by
  rw [tallies_grouped (relabel?_minuteText hyears), List.map_map]
  rfl

/-- The buckets of minutes that all have totals account for the rows. -/
theorem accounts_of_totals (hyears : ∀ row ∈ rows, 1000 ≤ row.logTime.date.year)
    (htotals : ∀ group ∈ grouped minuteText rows,
      HasTotal RawRow.count group.2 ∧ HasTotal RawRow.delay group.2) :
    Accounts precision rows
      ((Ascending.ofList (rows.map (rowLabel precision))).map (bucketUnder precision rows)) := by
  have hlabels : ((Ascending.ofList (rows.map (rowLabel precision))).map
      (bucketUnder precision rows)).map Bucket.label =
        Ascending.ofList (rows.map (rowLabel precision)) := by
    rw [List.map_map]
    exact List.map_id _
  have hexact : ∀ {column : RawRow → Measure} (label : String),
      (∀ group ∈ grouped minuteText rows, HasTotal column group.2) →
        HoldsIntegers column (rowsUnder precision label rows) →
          minutesTotal column (rowsUnder precision label rows) =
            wholeSum column (rowsUnder precision label rows) := by
    intro column label hcolumn hwhole
    refine minutesTotal_eq_wholeSum (fun group hgroup ↦ ?_) hwhole
    exact hcolumn group (mem_grouped_of_rowsUnder hyears hgroup)
  constructor
  case ascending =>
    rw [hlabels]
    exact Ascending.sorted_ofList _
  case mem_labels =>
    intro label
    rw [hlabels, Ascending.mem_ofList, List.mem_map]
  all_goals
    intro bucket hbucket
    obtain ⟨label, _, rfl⟩ := List.mem_map.mp hbucket
  case count_eq => rfl
  case delay_eq => exact averageDelay_eq _ _
  case count_exact => exact hexact label fun group hgroup ↦ (htotals group hgroup).1
  case delay_exact =>
    intro hcount hdelay
    have hcounts := hexact label (fun group hgroup ↦ (htotals group hgroup).1) hcount
    have hdelays := hexact label (fun group hgroup ↦ (htotals group hgroup).2) hdelay
    rw [bucketUnder, hcounts, hdelays, averageDelay_eq]

end Rows

/-- The rows of a request for an audit id. -/
def Request.rowsOf (request : Request) (auditId : String) (table : Table RawRow) : List RawRow :=
  covered (request.queryFor auditId) table

/-- A backend that neither hides failures nor is slow answers with the points of its rows. -/
theorem outcome_of_series {service : Service} {request : Request} {nodeTypes : Dictionary String}
    {auditId : String} {series : Series} (hprovider : service.provider = .relational)
    (hisolates : service.isolatesFailures = false)
    (hseries : service.series request nodeTypes auditId = .ok series) :
    series.auditId = auditId ∧
      Relational.run service.database.rawRows (request.queryFor auditId) = .ok series.points := by
  rw [Service.series_eq, Service.outcome_relational hprovider] at hseries
  obtain ⟨points, hsettled, rfl⟩ := exists_of_map_eq_ok hseries
  refine ⟨rfl, ?_⟩
  cases hrun : Relational.run service.database.rawRows (request.queryFor auditId) with
  | ok answered =>
    rw [hrun, Policy.settle] at hsettled
    rw [Except.ok.inj hsettled]
  | error refusal =>
    rw [hrun] at hsettled
    rcases refusal_of_run hrun with ⟨cause, rfl⟩ | ⟨cause, rfl⟩
    · simp [Policy.settle, Service.policy, hisolates] at hsettled
    · simp [Policy.settle] at hsettled

/-- The report of an audit id over its rows. -/
def Request.reportOf (request : Request) (nodeTypes : Dictionary String) (table : Table RawRow)
    (auditId : String) : Report where
  auditId := auditId
  nodeType := nodeTypes.get? auditId
  buckets := (Ascending.ofList ((request.rowsOf auditId table).map
    (rowLabel request.granularity.precision))).map
      (bucketUnder request.granularity.precision (request.rowsOf auditId table))

/-- The series of an audit id with a point for each minute of its rows. -/
def Request.minutesOf (request : Request) (nodeTypes : Dictionary String) (table : Table RawRow)
    (auditId : String) : Series where
  auditId := auditId
  nodeType := nodeTypes.get? auditId
  points := pointsOf (columnTotal RawRow.count) (columnTotal RawRow.delay)
    (grouped minuteText (request.rowsOf auditId table))

theorem report_minutesOf {request : Request} (hyear : 1000 ≤ request.first.year)
    (nodeTypes : Dictionary String) (table : Table RawRow) (auditId : String) :
    Rollup.report request.granularity.precision (request.minutesOf nodeTypes table auditId) =
      request.reportOf nodeTypes table auditId := by
  have hyears : ∀ row ∈ request.rowsOf auditId table, 1000 ≤ row.logTime.date.year :=
    year_of_mem_covered hyear
  rw [Rollup.report, Request.minutesOf, buckets_of_minutes hyears, Request.reportOf]

/-- An audit id has its series if every minute of its rows has totals. -/
theorem series_of_totals {service : Service} {request : Request} {table : Table RawRow}
    (hprovider : service.provider = .relational) (htable : service.database.rawRows = some table)
    (hyear : 1000 ≤ request.first.year) (hlast : request.last ≠ Date.final) {auditId : String}
    (htotals : ∀ group ∈ grouped minuteText (request.rowsOf auditId table),
      HasTotal RawRow.count group.2 ∧ HasTotal RawRow.delay group.2)
    (nodeTypes : Dictionary String) :
    service.series request nodeTypes auditId = .ok (request.minutesOf nodeTypes table auditId) := by
  obtain ⟨window, hwindow⟩ := Window.exists_ofDays? request.first hlast
  have hyears : ∀ row ∈ request.rowsOf auditId table, 1000 ≤ row.logTime.date.year :=
    year_of_mem_covered hyear
  have hiff := fun points ↦
    @run_eq_ok_iff (request.queryFor auditId) window hwindow table hyears points
  have hrun : Relational.run (some table) (request.queryFor auditId) =
      .ok (request.minutesOf nodeTypes table auditId).points :=
    (hiff _).mpr ⟨htotals, rfl⟩
  rw [Service.series_eq, Service.outcome_relational hprovider, htable, hrun]
  rfl

/-- A query is answered if the sums of every minute of every audit id are. -/
theorem answered_of_totals {service : Service} {request : Request} {caller : Caller}
    {auditIds : List String} {nodeTypes : Dictionary String} {table : Table RawRow}
    (hprovider : service.provider = .relational)
    (hplanned : service.planned request caller = .ok (auditIds, nodeTypes))
    (htable : service.database.rawRows = some table) (hyear : 1000 ≤ request.first.year)
    (hlast : request.last ≠ Date.final)
    (htotals : ∀ auditId ∈ auditIds, ∀ group ∈ grouped minuteText (request.rowsOf auditId table),
      HasTotal RawRow.count group.2 ∧ HasTotal RawRow.delay group.2) :
    service.answered request caller =
      .ok (auditIds, auditIds.map (request.reportOf nodeTypes table)) := by
  have hfound : service.allSeries request nodeTypes auditIds =
      .ok (auditIds.map (request.minutesOf nodeTypes table)) :=
    mapM_eq_ok fun auditId hmem ↦
      series_of_totals hprovider htable hyear hlast (htotals auditId hmem) nodeTypes
  have hreports := report_minutesOf hyear nodeTypes table
  rw [Service.answered_eq, hplanned, Except.bind, hfound, Except.map, List.map_map]
  simp only [Function.comp_def, hreports]

/-- Wherever a query is answered from the relational backend with nothing hidden, the buckets of
every report account for the rows of its audit id. -/
theorem accounts_of_answered {service : Service} {request : Request} {caller : Caller}
    (hprovider : service.provider = .relational) (hisolates : service.isolatesFailures = false)
    (hyear : 1000 ≤ request.first.year) {auditIds : List String} {reports : List Report}
    (hanswered : service.answered request caller = .ok (auditIds, reports)) :
    ∀ report ∈ reports, ∃ table, service.database.rawRows = some table ∧
      Accounts request.granularity.precision (request.rowsOf report.auditId table)
        report.buckets := by
  rw [Service.answered_eq] at hanswered
  obtain ⟨⟨planned, nodeTypes⟩, _, hfound⟩ := exists_of_bind_eq_ok hanswered
  obtain ⟨found, hseries, heq⟩ := exists_of_map_eq_ok hfound
  cases heq
  intro report hreport
  obtain ⟨series, hmem, rfl⟩ := List.mem_map.mp hreport
  obtain ⟨auditId, _, hanswer⟩ := exists_of_mem_mapM hseries series hmem
  obtain ⟨hid, hrun⟩ := outcome_of_series hprovider hisolates hanswer
  obtain ⟨table, window, htable, hwindow⟩ := exists_of_run_eq_ok hrun
  have hyears : ∀ row ∈ request.rowsOf auditId table, 1000 ≤ row.logTime.date.year :=
    year_of_mem_covered hyear
  rw [htable, run_eq_ok_iff hwindow hyears] at hrun
  obtain ⟨htotals, hpoints⟩ := hrun
  refine ⟨table, htable, ?_⟩
  rw [Rollup.report, hid, hpoints]
  exact (buckets_of_minutes hyears).symm ▸ accounts_of_totals hyears htotals

/-! ### Halves in a column of whole numbers -/

namespace Sample

/-- One half, in multiples of the smallest positive double. -/
def half : Measure :=
  .real (.finite false (Nat.pow 2 1073))

/-- A row of a stream at a minute of one day. -/
def row (minute : Nat) (count delay : Measure) : RawRow where
  logTime := ⟨.newYear, .ofMicros (minute * 60000000)⟩
  groupId := "g"
  streamId := "s"
  auditId := "5"
  count := count
  delay := delay

/-- Two halves in different minutes of one hour, and whole numbers in the next hour. -/
def rows : List RawRow :=
  [row 600 half (.whole 0), row 601 half (.whole 0), row 660 (.whole 3) (.whole 7)]

/-- The table of the rows. -/
def table : Table RawRow :=
  rows.zipIdx.map fun (row, place) ↦ ⟨place + 1, row⟩

/-- A service over the table that hides no failure. -/
def service : Service where
  database := { Database.empty with rawRows := some table }
  defaults := ⟨[], ["5"]⟩
  topology := some { sinkType := some "", sourceTypes := ["FILE"] }
  provider := .relational
  warehouse := { url := none, table := "audit_data" }
  isolatesFailures := false

/-- The request for the hours of the day. -/
def request : Request :=
  { groupId := "g", streamId := "s", first := .newYear, last := .newYear, granularity := .hour }

/-- A caller without roles. -/
def caller : Caller :=
  { userId := "u" }

theorem rowsOf_eq : request.rowsOf "5" table = rows := by
  have hcovered : ((table.map Row.data).filter fun row ↦ Query.Covers (request.queryFor "5") row) =
      rows := by
    decide +kernel
  have hordered : rows.Pairwise fun first second ↦
      decide (first.logTime ≤ second.logTime) = true := by
    decide +kernel
  have hsorted := congrArg (fun found ↦ found.mergeSort fun first second : RawRow ↦
    first.logTime ≤ second.logTime) hcovered
  exact hsorted.trans (List.mergeSort_of_pairwise hordered)

/-- The buckets of the two hours. -/
def buckets : List Bucket :=
  [⟨"2024-01-01 10", 0, 0⟩, ⟨"2024-01-01 11", 3, 2⟩]

theorem answered_eq : service.answered request caller = .ok (["5"], [⟨"5", none, buckets⟩]) := by
  have hplanned : service.planned request caller = .ok (["5"], []) := rfl
  have hsums : ∀ group ∈ grouped minuteText rows,
      ((sum? (group.2.map RawRow.count)).bind Measure.integer?).isSome = true ∧
        ((sum? (group.2.map RawRow.delay)).bind Measure.integer?).isSome = true := by
    decide +kernel
  have htotals : ∀ auditId ∈ ["5"], ∀ group ∈ grouped minuteText (request.rowsOf auditId table),
      HasTotal RawRow.count group.2 ∧ HasTotal RawRow.delay group.2 := by
    intro auditId hauditId
    rw [List.mem_singleton.mp hauditId, rowsOf_eq]
    exact hsums
  have hbuckets : (Ascending.ofList (rows.map (rowLabel .hour))).map (bucketUnder .hour rows) =
      buckets := by
    decide +kernel
  rw [answered_of_totals rfl hplanned rfl (by decide) (by decide) htotals, List.map_singleton,
    Request.reportOf, rowsOf_eq]
  exact congrArg (fun found ↦ Except.ok (["5"], [(⟨"5", none, found⟩ : Report)])) hbuckets

/-- The service answers, and the answer accounts for the rows. -/
theorem accounts_of_sample : service.answered request caller = .ok (["5"], [⟨"5", none, buckets⟩]) ∧
    ∃ table, service.database.rawRows = some table ∧
      Accounts request.granularity.precision (request.rowsOf "5" table) buckets :=
  ⟨answered_eq, accounts_of_answered rfl rfl (by decide) answered_eq ⟨"5", none, buckets⟩ (by simp)⟩

/-- The exact value of a measure in multiples of the smallest positive double, if it has one. -/
def units? : Measure → Option Int
  | .null => some 0
  | .whole n => some (n * Binary64.unit)
  | .real x => x.units?

/-- The exact sum of the counts of some rows in the same multiples. -/
def exactCount? (rows : List RawRow) : Option Int :=
  (rows.mapM fun row ↦ units? row.count).map List.sum

/-- The two halves of one hour make one in all, but each is dropped with its own minute: the bucket
of the hour counts nothing. -/
theorem halves_dropped_by_minute :
    service.answered request caller = .ok (["5"], [⟨"5", none, buckets⟩]) ∧
      ⟨"2024-01-01 10", 0, 0⟩ ∈ buckets ∧
        exactCount? (rowsUnder .hour "2024-01-01 10" (request.rowsOf "5" table)) =
          some (1 * Binary64.unit) ∧
        exactCount? (rowsUnder .hour "2024-01-01 10" (request.rowsOf "5" table)) ≠
          some (0 * Binary64.unit) := by
  refine ⟨answered_eq, List.mem_cons_self, ?_, ?_⟩
  · rw [rowsOf_eq]
    decide +kernel
  · rw [rowsOf_eq]
    decide +kernel

end Sample

end StreamAudit
