import StreamAudit.Granularity
import StreamAudit.Proofs.Backend.Opening
import StreamAudit.Proofs.Backend.Warehouse

/-!
The two backends that sum rows with statements answer alike. Given the same rows, one of them takes
the rows of a minute together and the other those of a second, each row once; by the hour and by the
day the sums are the same (`backends_agree`).
-/

set_option autoImplicit false
set_option relaxedAutoImplicit false

namespace StreamAudit.Backend

open StreamAudit.Calendar StreamAudit.Number StreamAudit.Sql StreamAudit.Store

/-- Whether a column holds whole numbers that are not negative and have a total within 64 bits. -/
structure Countable {α : Type} (column : α → Measure) (rows : List α) : Prop where
  whole : ∀ row ∈ rows, ∃ n, column row = .whole n ∧ 0 ≤ n
  limit : (rows.map fun row ↦ (column row).wholeValue).sum < wordLimit

/-- Whether the warehouse holds the raw rows of a table, in any order. They are told apart by its
columns, of whole seconds, and what they count is a number. -/
structure Loaded (senderText : Option Moment → Option String) (table : Table RawRow)
    (rows : List Warehouse.Row) : Prop where
  same : rows.Perm ((table.map Row.data).map (Warehouse.ofRaw senderText))
  distinct : rows.Nodup
  seconds : ∀ row ∈ table.map Row.data, row.logTime.time.micro = 0
  counts : Countable RawRow.count (table.map Row.data)
  delays : Countable RawRow.delay (table.map Row.data)

theorem Countable.perm {α : Type} {column : α → Measure} {rows others : List α}
    (h : Countable column rows) (hperm : others.Perm rows) : Countable column others where
  whole row hrow := h.whole row (hperm.mem_iff.mp hrow)
  limit := by
    rw [(hperm.map fun row ↦ (column row).wholeValue).sum_eq]
    exact h.limit

theorem Countable.map {α β : Type} {column : α → Measure} {rows : List β} {f : β → α}
    (h : Countable (fun row ↦ column (f row)) rows) : Countable column (rows.map f) where
  whole := by
    simp only [List.mem_map]
    rintro _ ⟨row, hrow, rfl⟩
    exact h.whole row hrow
  limit := by
    rw [List.map_map]
    exact h.limit

/-- Groups of a part of countable rows have totals, and these are sums. -/
theorem Countable.totals {α : Type} {column : α → Measure} {rows part : List α}
    (h : Countable column rows) (hpart : part.Subperm rows) (key : α → String) :
    ∀ group ∈ grouped key part, HasTotal column group.2 ∧
      columnTotal column group.2 = (group.2.map fun row ↦ (column row).wholeValue).sum := by
  intro group hgroup
  have hsub : group.2.Subperm rows := by
    rw [(mem_grouped.mp hgroup).2]
    exact List.filter_sublist.subperm.trans hpart
  have htotal := hasTotal_of_subperm hsub h.whole h.limit
  refine ⟨htotal, columnTotal_eq_sum (fun row hrow ↦ ?_) htotal⟩
  obtain ⟨n, hn, _⟩ := h.whole row (hsub.subset hrow)
  rw [hn]
  rfl

section Agreement

variable {senderText : Option Moment → Option String} {table : Table RawRow}
variable {rows : List Warehouse.Row} {query : Query} {window : Window}

theorem covered_subperm (query : Query) (table : Table RawRow) :
    (Relational.covered query table).Subperm (table.map Row.data) :=
  (List.mergeSort_perm _ _).subperm.trans List.filter_sublist.subperm

/-- The warehouse finds the rows that the query covers. -/
theorem found_perm (hloaded : Loaded senderText table rows)
    (hwindow : Window.ofDays? query.first query.last = some window)
    (hyear : 1000 ≤ query.first.year) (hrange : query.first ≤ query.last) :
    (Warehouse.found query window rows).Perm
      ((Relational.covered query table).map (Warehouse.ofRaw senderText)) := by
  have hselected : ((table.map Row.data).map (Warehouse.ofRaw senderText)).filter
      (Warehouse.selects query (Precision.second.render window.start)
        (Precision.second.render window.stop)) =
      ((table.map Row.data).filter fun row ↦ query.Covers row).map
        (Warehouse.ofRaw senderText) := by
    rw [List.filter_map]
    refine congrArg _ (List.filter_congr fun row hrow ↦ ?_)
    exact Warehouse.selects_ofRaw hwindow hyear hrange senderText (hloaded.seconds row hrow)
  rw [Warehouse.found, distinct_of_nodup (hloaded.distinct.sublist List.filter_sublist)]
  refine (hloaded.same.filter _).trans ?_
  rw [hselected]
  exact (List.mergeSort_perm _ _).symm.map _

theorem found_subperm (hloaded : Loaded senderText table rows) (query : Query) (window : Window) :
    (Warehouse.found query window rows).Subperm rows := by
  rw [Warehouse.found, distinct_of_nodup (hloaded.distinct.sublist List.filter_sublist)]
  exact List.filter_sublist.subperm

/-- What the warehouse finds are raw rows of years that are written with four digits. -/
theorem exists_raw_of_mem_found (hloaded : Loaded senderText table rows)
    (hwindow : Window.ofDays? query.first query.last = some window)
    (hyear : 1000 ≤ query.first.year) (hrange : query.first ≤ query.last) :
    ∀ row ∈ Warehouse.found query window rows, ∃ raw,
      1000 ≤ raw.logTime.date.year ∧ row = Warehouse.ofRaw senderText raw := by
  intro row hrow
  have hfound := found_perm hloaded hwindow hyear hrange
  obtain ⟨raw, hmem, rfl⟩ := List.mem_map.mp (hfound.mem_iff.mp hrow)
  exact ⟨raw, Relational.year_of_mem_covered hyear raw hmem, rfl⟩

/-- A column that can be counted in the table can be counted in the warehouse. -/
theorem Loaded.countable (hloaded : Loaded senderText table rows) {column : Warehouse.Row → Measure}
    (h : Countable (fun row ↦ column (Warehouse.ofRaw senderText row)) (table.map Row.data)) :
    Countable column rows :=
  h.map.perm hloaded.same

/-- The label of the time of a warehouse row. -/
def logLabel (precision : Precision) (row : Warehouse.Row) : String :=
  (precision.relabel? (.text (Warehouse.logText row))).getD ""

theorem logLabel_ofRaw (precision : Precision) {row : RawRow} (h : 1000 ≤ row.logTime.date.year) :
    logLabel precision (Warehouse.ofRaw senderText row) = precision.render row.logTime := by
  have hrelabel := precision.relabel?_text h
  rw [logLabel, Warehouse.logText, Warehouse.ofRaw, Option.getD_some, hrelabel, Option.getD_some]

/-- By the hour and by the day a moment has the label of its minute. -/
theorem render_toMinute {precision : Precision} (h : precision ≠ .second) (moment : Moment) :
    precision.render moment.toMinute = precision.render moment := by
  cases precision with
  | second => exact absurd rfl h
  | hour => rfl
  | day => rfl

/-- The tallies of the rows that a query covers, by the labels of their log times. -/
def coveredTallies (precision : Precision) (senderText : Option Moment → Option String)
    (query : Query) (table : Table RawRow) : List Rollup.Tally :=
  tallied (fun row ↦ logLabel precision (Warehouse.ofRaw senderText row))
    (fun row ↦ row.count.wholeValue)
    (fun row ↦ row.delay.wholeValue) (Relational.covered query table)

/-- The relational backend answers, and its minutes are rolled up to the tallies of the covered
rows. -/
theorem relational_tallies (hloaded : Loaded senderText table rows)
    (hwindow : Window.ofDays? query.first query.last = some window)
    (hyear : 1000 ≤ query.first.year) :
    ∃ points, Relational.run (some table) query = .ok points ∧ ∀ precision, precision ≠ .second →
      Rollup.tallies precision points = coveredTallies precision senderText query table := by
  have hyears : ∀ row ∈ Relational.covered query table, 1000 ≤ row.logTime.date.year :=
    Relational.year_of_mem_covered hyear
  have hcounts := hloaded.counts.totals (covered_subperm query table) Relational.minuteText
  have hdelays := hloaded.delays.totals (covered_subperm query table) Relational.minuteText
  refine ⟨_, (Relational.run_eq_ok_iff hwindow hyears).mpr ⟨fun group hgroup ↦ ?_, rfl⟩, ?_⟩
  · exact ⟨(hcounts group hgroup).1, (hdelays group hgroup).1⟩
  · intro precision hprecision
    have hlabel : ∀ row ∈ Relational.covered query table,
        precision.relabel? (.text (Relational.minuteText row)) =
          some (logLabel precision (Warehouse.ofRaw senderText row)) := by
      intro row hrow
      have hminute : 1000 ≤ row.logTime.toMinute.date.year := hyears row hrow
      rw [Relational.minuteText, precision.relabel?_text hminute, render_toMinute hprecision,
        logLabel_ofRaw precision (hyears row hrow)]
    exact tallies_grouped_exact hlabel (fun group hgroup ↦ (hcounts group hgroup).2)
      fun group hgroup ↦ (hdelays group hgroup).2

/-- The warehouse answers, and its seconds are rolled up to the same tallies. -/
theorem warehouse_tallies (hloaded : Loaded senderText table rows)
    {connection : Warehouse.Connection} (hopen : connection.opens connection.url = .ok ())
    (hname : Text.sameButAsciiCase connection.table Warehouse.storedTable = true)
    (hrows : connection.rows = some rows)
    (hwindow : Window.ofDays? query.first query.last = some window)
    (hyear : 1000 ≤ query.first.year) (hrange : query.first ≤ query.last) :
    ∃ points, Warehouse.run connection query = .ok points ∧ ∀ precision,
      Rollup.tallies precision points = coveredTallies precision senderText query table := by
  have hraw := exists_raw_of_mem_found hloaded hwindow hyear hrange
  have hlabel : ∀ group ∈ grouped Warehouse.logText (Warehouse.found query window rows),
      Stamp.label (.text group.1) = .ok group.1 := by
    intro group hgroup
    obtain ⟨⟨row, hrow, htext⟩, _⟩ := mem_grouped.mp hgroup
    obtain ⟨raw, hrawYear, rfl⟩ := hraw row hrow
    rw [← htext]
    exact Stamp.label_text_self hrawYear
  have hrowCounts : Countable Warehouse.Row.count rows := hloaded.countable hloaded.counts
  have hrowDelays : Countable Warehouse.Row.delay rows := hloaded.countable hloaded.delays
  have hpart := found_subperm hloaded query window
  have hcounts := hrowCounts.totals hpart Warehouse.logText
  have hdelays := hrowDelays.totals hpart Warehouse.logText
  refine ⟨_, (Warehouse.run_eq_ok_iff hwindow hopen hname hrows hlabel).mpr
    ⟨fun group hgroup ↦ ⟨(hcounts group hgroup).1, (hdelays group hgroup).1⟩, rfl⟩, ?_⟩
  intro precision
  have hrelabel : ∀ row ∈ Warehouse.found query window rows,
      precision.relabel? (.text (Warehouse.logText row)) = some (logLabel precision row) := by
    intro row hrow
    obtain ⟨raw, hrawYear, rfl⟩ := hraw row hrow
    rw [logLabel_ofRaw precision hrawYear]
    exact precision.relabel?_text hrawYear
  rw [tallies_grouped_exact hrelabel (fun group hgroup ↦ (hcounts group hgroup).2)
    fun group hgroup ↦ (hdelays group hgroup).2,
    tallied_perm (found_perm hloaded hwindow hyear hrange), tallied_map]
  rfl

/-- The two backends agree by the hour and by the day: the same buckets with the same counts and
delays. -/
theorem backends_agree (hloaded : Loaded senderText table rows) {connection : Warehouse.Connection}
    (hopen : connection.opens connection.url = .ok ())
    (hname : Text.sameButAsciiCase connection.table Warehouse.storedTable = true)
    (hrows : connection.rows = some rows) (hyear : 1000 ≤ query.first.year)
    (hrange : query.first ≤ query.last) (hlast : query.last ≠ Date.final) :
    ∃ relational warehouse, Relational.run (some table) query = .ok relational ∧
      Warehouse.run connection query = .ok warehouse ∧
        ∀ granularity : Granularity, granularity = .hour ∨ granularity = .day →
          ∀ auditId nodeType, Rollup.report granularity.precision ⟨auditId, nodeType, relational⟩ =
            Rollup.report granularity.precision ⟨auditId, nodeType, warehouse⟩ := by
  obtain ⟨window, hwindow⟩ := Window.exists_ofDays? query.first hlast
  obtain ⟨relational, hrelational, hrelationalTallies⟩ := relational_tallies hloaded hwindow hyear
  obtain ⟨warehouse, hwarehouse, hwarehouseTallies⟩ :=
    warehouse_tallies hloaded hopen hname hrows hwindow hyear hrange
  refine ⟨relational, warehouse, hrelational, hwarehouse, ?_⟩
  intro granularity hgranularity auditId nodeType
  have hprecision : granularity.precision ≠ .second := by
    rcases hgranularity with rfl | rfl <;> decide
  rw [Rollup.report, Rollup.report, hrelationalTallies _ hprecision, hwarehouseTallies]

end Agreement

/-! ### Two seconds of one minute -/

namespace TwoSeconds

/-- A row of a second after midnight. -/
def row (second : Nat) (count delay : Int) : RawRow where
  logTime := ⟨.newYear, .ofMicros (second * 1000000)⟩
  groupId := "g"
  streamId := "s"
  auditId := "5"
  count := .whole count
  delay := .whole delay

/-- The relational table. -/
def table : Table RawRow :=
  [⟨1, row 5 2 10⟩, ⟨2, row 40 1 4⟩]

/-- The spelling of senders' times that leaves them out. -/
def blank : Option Moment → Option String :=
  fun _ ↦ some ""

/-- The rows in the warehouse, in the other order. -/
def rows : List Warehouse.Row :=
  [Warehouse.ofRaw blank (row 40 1 4), Warehouse.ofRaw blank (row 5 2 10)]

/-- The warehouse in memory. -/
def connection : Warehouse.Connection :=
  { url := some "sqlite+aiosqlite://", table := "audit_data", rows := some rows }

theorem loaded : Loaded blank table rows where
  same := List.Perm.swap _ _ []
  distinct := by decide +kernel
  seconds := by decide +kernel
  counts := ⟨by simp [table, row], by decide +kernel⟩
  delays := ⟨by simp [table, row], by decide +kernel⟩

/-- The query of the day. -/
def query : Query :=
  ⟨"g", "s", "5", .newYear, .newYear⟩

/-- Both backends answer, and their hours and days are the same. -/
theorem agree_on_two_seconds : Loaded blank table rows ∧
    ∃ relational warehouse, Relational.run (some table) query = .ok relational ∧
      Warehouse.run connection query = .ok warehouse ∧
        ∀ granularity : Granularity, granularity = .hour ∨ granularity = .day →
          ∀ auditId nodeType, Rollup.report granularity.precision ⟨auditId, nodeType, relational⟩ =
            Rollup.report granularity.precision ⟨auditId, nodeType, warehouse⟩ := by
  have hname : Text.sameButAsciiCase connection.table Warehouse.storedTable = true := by
    decide +kernel
  have hopen : connection.opens connection.url = .ok () :=
    Warehouse.Connection.opens_memory rfl rfl
  exact ⟨loaded, backends_agree loaded hopen hname rfl (by decide)
    (le_refl Date.newYear.number) (by decide)⟩

end TwoSeconds

end StreamAudit.Backend
