import Mathlib.Algebra.Order.BigOperators.Group.Finset
import StreamAudit.Proofs.Backend.Opening
import StreamAudit.Proofs.Backend.Warehouse

/-!
Rows that are delivered again. An answer of the warehouse has a point for each log time of the rows
that the query selects, with the sums over the set of these rows: how often a row is held and in
which order leaves no trace, while rows that differ in any column are counted each
(`redelivery_harmless`).
-/

set_option autoImplicit false
set_option relaxedAutoImplicit false

namespace StreamAudit

open StreamAudit.Calendar StreamAudit.Number StreamAudit.Sql StreamAudit.Text

namespace Sql.Value

theorem ofText?_inj {s t : Option String} : ofText? s = ofText? t ↔ s = t := by
  cases s <;> cases t <;> simp [ofText?]

theorem ofMeasure_inj {first second : Measure} :
    ofMeasure first = ofMeasure second ↔ first = second := by
  cases first <;> cases second <;> simp [ofMeasure]

end Sql.Value

namespace Backend.Warehouse

/-- Rows are told apart by the values of their columns. -/
theorem values_inj {first second : Row} : first.values = second.values ↔ first = second := by
  obtain ⟨⟩ := first
  obtain ⟨⟩ := second
  simp [Row.values, Value.ofText?_inj, Value.ofMeasure_inj]

/-- The rows of a query under one log time, as a set: they have the ids of the query, and the log
time is written between the ends of the window. -/
def rowsAt (query : Query) (window : Window) (rows : List Row) (text : String) : Finset Row :=
  rows.toFinset.filter fun row ↦ row.groupId = some query.groupId ∧
    row.streamId = some query.streamId ∧
    row.auditId = some query.auditId ∧ row.logTime = some text ∧
      Precision.second.render window.start ≤ text ∧ text < Precision.second.render window.stop

/-- Whether a point answers for a log time: it has the label of the log time and the sums over the
set of its rows, to which nulls add nothing. -/
structure IsPoint (query : Query) (window : Window) (rows : List Row) (text : String)
    (point : Point) :
    Prop where
  label : ∃ label, Stamp.label (.text text) = .ok label ∧ point.key = .text label
  count_eq : point.count = ∑ row ∈ rowsAt query window rows text, row.count.wholeValue
  delay_eq : point.delay = ∑ row ∈ rowsAt query window rows text, row.delay.wholeValue

/-- Whether points answer a query: one for each log time of its rows, in ascending order. -/
def IsAnswer (query : Query) (window : Window) (rows : List Row) (points : List Point) : Prop :=
  ∃ texts, Ascending.Sorted texts ∧
    (∀ text, text ∈ texts ↔ (rowsAt query window rows text).Nonempty) ∧
    List.Forall₂ (IsPoint query window rows) texts points

section Found

variable {query : Query} {window : Window} {rows others : List Row} {text : String}

theorem mem_found {row : Row} : row ∈ found query window rows ↔
    row ∈ rows ∧ selects query (Precision.second.render window.start)
      (Precision.second.render window.stop) row = true := by
  rw [found, mem_distinct, List.mem_filter]

/-- A row that is selected has a log time, which is the text under which it is summed. -/
theorem logTime_of_selects {start stop : String} {row : Row}
    (h : selects query start stop row = true) :
    row.logTime = some (logText row) := by
  cases htime : row.logTime with
  | none => simp [selects, htime] at h
  | some text => rw [logText, htime, Option.getD_some]

theorem mem_rowsAt {row : Row} :
    row ∈ rowsAt query window rows text ↔ row ∈ found query window rows ∧ logText row = text := by
  rw [rowsAt, Finset.mem_filter, List.mem_toFinset, mem_found, and_assoc]
  refine and_congr_right fun _ ↦ ?_
  cases htime : row.logTime with
  | none => simp [selects, htime]
  | some held =>
    have htext : logText row = held := by rw [logText, htime, Option.getD_some]
    rw [selects, htime, htext]
    simp only [within, Option.any_some, Bool.and_eq_true, beq_iff_eq, decide_eq_true_eq,
      Option.some.injEq]
    constructor
    · rintro ⟨hgroup, hstream, hid, rfl, hrange⟩
      exact ⟨⟨⟨⟨hgroup, hstream⟩, hid⟩, hrange⟩, rfl⟩
    · rintro ⟨⟨⟨⟨hgroup, hstream⟩, hid⟩, hrange⟩, rfl⟩
      exact ⟨hgroup, hstream, hid, rfl, hrange⟩

/-- The distinct rows under a log time add up to the sum over their set. -/
theorem sum_found (value : Row → Int) :
    (((found query window rows).filter fun row ↦ logText row = text).map value).sum =
      ∑ row ∈ rowsAt query window rows text, value row := by
  have hnodup : ((found query window rows).filter fun row ↦ logText row = text).Nodup :=
    (nodup_distinct _).filter _
  rw [← List.sum_toFinset value hnodup]
  refine Finset.sum_congr (Finset.ext fun row ↦ ?_) fun _ _ ↦ rfl
  rw [List.mem_toFinset, List.mem_filter, decide_eq_true_eq, mem_rowsAt]

/-- Tables with the same set of rows have the same rows for a query, each once. -/
theorem found_perm_of_mem_iff (h : ∀ row, row ∈ others ↔ row ∈ rows) :
    (found query window others).Perm (found query window rows) := by
  refine (List.perm_ext_iff_of_nodup (nodup_distinct _) (nodup_distinct _)).mpr fun row ↦ ?_
  exact mem_found.trans ((and_congr_left' (h row)).trans mem_found.symm)

/-- The total of a column under a log time, if there is one, is the sum over the set of its rows. -/
theorem columnTotal_found {column : Row → Measure} (hcolumn : ∀ row ∈ rows, (column row).Counts)
    (htotal : HasTotal column ((found query window rows).filter fun row ↦ logText row = text)) :
    columnTotal column ((found query window rows).filter fun row ↦ logText row = text) =
      ∑ row ∈ rowsAt query window rows text, (column row).wholeValue := by
  have hinteger : ∀ row ∈ (found query window rows).filter fun row ↦ logText row = text,
      (column row).isInteger = true :=
    fun row hrow ↦ (hcolumn row (mem_found.mp (List.mem_of_mem_filter hrow)).1).1
  rw [columnTotal_eq_sum hinteger htotal, sum_found]

/-- A column whose values add up to less than 2^63 over the set of all rows has a total under every
log time. -/
theorem hasTotal_found {column : Row → Measure} (hcolumn : ∀ row ∈ rows, (column row).Counts)
    (hlimit : ∑ row ∈ rows.toFinset, (column row).wholeValue < wordLimit) (text : String) :
    HasTotal column ((found query window rows).filter fun row ↦ logText row = text) := by
  have hsub : rowsAt query window rows text ⊆ rows.toFinset := Finset.filter_subset _ _
  have hle : ∑ row ∈ rowsAt query window rows text, (column row).wholeValue ≤
      ∑ row ∈ rows.toFinset, (column row).wholeValue :=
    Finset.sum_le_sum_of_subset_of_nonneg hsub fun row hrow _ ↦
      (hcolumn row (List.mem_toFinset.mp hrow)).2
  refine hasTotal_of_counts (fun row hrow ↦ ?_) ?_
  · exact hcolumn row (mem_found.mp (List.mem_of_mem_filter hrow)).1
  · rw [sum_found]
    exact hle.trans_lt hlimit

section Counting

variable (hcounts : ∀ row ∈ rows, row.count.Counts ∧ row.delay.Counts)

include hcounts

theorem isAnswer_of_answers {points : List Point}
    (h : Answers Row.count Row.delay (grouped logText (found query window rows)) points) :
    IsAnswer query window rows points := by
  refine ⟨Ascending.ofList ((found query window rows).map logText), Ascending.sorted_ofList _,
    fun text ↦ ?_, ?_⟩
  · rw [Ascending.mem_ofList, List.mem_map]
    exact exists_congr fun row ↦ mem_rowsAt.symm
  · rw [answers_iff_forall₂, grouped, List.forall₂_map_left_iff] at h
    refine h.imp fun text point hpoint ↦ ?_
    obtain ⟨label, hlabel, ⟨hcount, hdelay⟩, rfl⟩ := hpoint
    exact ⟨⟨label, hlabel, rfl⟩, columnTotal_found (fun row hrow ↦ (hcounts row hrow).1) hcount,
      columnTotal_found (fun row hrow ↦ (hcounts row hrow).2) hdelay⟩

section Stored

variable {connection : Connection} (hname : sameButAsciiCase connection.table storedTable = true)
  (hrows : connection.rows = some rows)

include hname hrows

/-- A warehouse that can be opened answers from rows with readable log times whose counts and delays
add up to less than 2^63. -/
theorem exists_run_ok (hopen : connection.opens connection.url = .ok ())
    (hwindow : Window.ofDays? query.first query.last = some window)
    (hlabel : ∀ row ∈ rows, ∀ text, row.logTime = some text →
      ∃ label, Stamp.label (.text text) = .ok label)
    (hcount : ∑ row ∈ rows.toFinset, row.count.wholeValue < wordLimit)
    (hdelay : ∑ row ∈ rows.toFinset, row.delay.wholeValue < wordLimit) :
    ∃ points, run connection query = .ok points := by
  simp only [run_eq_ok_iff_answers hname, hopen, hrows, hwindow, Option.some.injEq, exists_and_left,
    exists_eq_left', true_and]
  refine exists_answers_iff.mpr fun group hgroup ↦ ?_
  obtain ⟨⟨row, hrow, htext⟩, hgroup⟩ := mem_grouped.mp hgroup
  obtain ⟨hmem, hselects⟩ := mem_found.mp hrow
  rw [Answerable, hgroup, ← htext]
  exact ⟨hlabel row hmem _ (logTime_of_selects hselects),
    hasTotal_found (fun row hrow ↦ (hcounts row hrow).1) hcount _,
    hasTotal_found (fun row hrow ↦ (hcounts row hrow).2) hdelay _⟩

theorem run_of_mem_iff (hsame : ∀ row, row ∈ others ↔ row ∈ rows) (query : Query) :
    run { connection with rows := some others } query = run connection query := by
  unfold run
  cases Window.ofDays? query.first query.last with
  | none => rfl
  | some window =>
    have htotals : totals? query window others = totals? query window rows := by
      refine totals_of_perm (found_perm_of_mem_iff hsame) fun row hrow ↦ ?_
      exact hcounts row ((hsame row).mp (mem_found.mp hrow).1)
    simp only [totalsOf?, if_pos hname, hrows, Option.bind_some, htotals]

end Stored

end Counting

/-- Every log time has its point. -/
theorem exists_point {texts : List String} {points : List Point}
    (h : List.Forall₂ (IsPoint query window rows) texts points) (htext : text ∈ texts) :
    ∃ point ∈ points, IsPoint query window rows text point := by
  induction h with
  | nil => cases htext
  | @cons first point texts points hpoint _ ih =>
    rcases List.mem_cons.mp htext with rfl | hrest
    · exact ⟨point, List.mem_cons_self, hpoint⟩
    · obtain ⟨other, hother, hrest⟩ := ih hrest
      exact ⟨other, List.mem_cons_of_mem point hother, hrest⟩

/-- The rows of a log time are summed as a set: two of them that differ in any column add to the sum
both. -/
theorem sum_rowsAt_pair (value : Row → Int) {first second : Row}
    (hfirst : first ∈ rowsAt query window rows text)
    (hsecond : second ∈ rowsAt query window rows text) (hdiffer : first.values ≠ second.values) :
    ∑ row ∈ rowsAt query window rows text, value row = value first + value second +
      ∑ row ∈ rowsAt query window rows text \ {first, second}, value row := by
  have hsub : {first, second} ⊆ rowsAt query window rows text := by
    simp [Finset.insert_subset_iff, hfirst, hsecond]
  rw [← Finset.sum_sdiff hsub, Finset.sum_pair (mt values_inj.mpr hdiffer), add_comm]

end Found

/-- Redelivery is harmless and nothing else is collapsed. Where no count and no delay is negative or
a fraction, an answer has one point for each log time, with the sums over the set of the rows that
are selected; tables with the same set of rows have the same answer; and rows that differ in any
column are counted each. -/
theorem redelivery_harmless {connection : Connection} {rows : List Row}
    (hname : sameButAsciiCase connection.table storedTable = true)
    (hrows : connection.rows = some rows)
    (hcounts : ∀ row ∈ rows, row.count.Counts ∧ row.delay.Counts) (query : Query) :
    (∀ points, run connection query = .ok points →
      ∃ window, Window.ofDays? query.first query.last = some window ∧
        IsAnswer query window rows points ∧
        ∀ text, ∀ first ∈ rowsAt query window rows text, ∀ second ∈ rowsAt query window rows text,
          first.values ≠ second.values → ∃ point ∈ points, IsPoint query window rows text point ∧
            point.count = first.count.wholeValue + second.count.wholeValue +
              ∑ row ∈ rowsAt query window rows text \ {first, second}, row.count.wholeValue ∧
            point.delay = first.delay.wholeValue + second.delay.wholeValue +
              ∑ row ∈ rowsAt query window rows text \ {first, second}, row.delay.wholeValue) ∧
      ∀ others : List Row, (∀ row, row ∈ others ↔ row ∈ rows) →
        run { connection with rows := some others } query = run connection query := by
  refine ⟨fun points hrun ↦ ?_, fun others hsame ↦ run_of_mem_iff hcounts hname hrows hsame query⟩
  obtain ⟨-, held, window, hheld, hwindow, hanswers⟩ := (run_eq_ok_iff_answers hname).mp hrun
  obtain rfl : rows = held := Option.some.inj (hrows.symm.trans hheld)
  have hanswer := isAnswer_of_answers hcounts hanswers
  refine ⟨window, hwindow, hanswer, fun text first hfirst second hsecond hdiffer ↦ ?_⟩
  obtain ⟨texts, -, hmem, hpoints⟩ := hanswer
  obtain ⟨point, hpoint, hispoint⟩ := exists_point hpoints ((hmem text).mpr ⟨first, hfirst⟩)
  refine ⟨point, hpoint, hispoint, ?_, ?_⟩
  · rw [hispoint.count_eq, sum_rowsAt_pair _ hfirst hsecond hdiffer]
  · rw [hispoint.delay_eq, sum_rowsAt_pair _ hfirst hsecond hdiffer]

/-! ### A row that is held twice -/

namespace HeldTwice

/-- The fifth second of 2024. -/
def moment : Moment :=
  ⟨.newYear, .ofMicros 5000000⟩

/-- A row of that second. -/
def row (packetId : Int) (count delay : Measure) : Row where
  packetId := .whole packetId
  logTime := some moment.text
  groupId := some "g"
  streamId := some "s"
  auditId := some "5"
  count := count
  delay := delay

/-- Two packets of one second without a delay on the second one, the first of them delivered
again. -/
def rows : List Row :=
  [row 1 (.whole 2) (.whole 10), row 2 (.whole 2) .null, row 1 (.whole 2) (.whole 10)]

/-- The warehouse in memory. -/
def connection : Connection :=
  { url := some "sqlite+aiosqlite://", table := "audit_data", rows := some rows }

/-- The query of the day. -/
def query : Query :=
  ⟨"g", "s", "5", .newYear, .newYear⟩

/-- The second packet's row, once, and then the first one's. -/
def others : List Row :=
  [row 2 (.whole 2) .null, row 1 (.whole 2) (.whole 10)]

/-- The window of the day. -/
def window : Window :=
  ⟨.midnight .newYear,
    .midnight ⟨2024, 1, 2, Date.newYear.year_mem, Date.newYear.month_mem, by decide⟩⟩

theorem counts_rows : ∀ row ∈ rows, row.count.Counts ∧ row.delay.Counts := by
  simp only [Measure.Counts]
  decide

theorem exists_answer : ∃ points, run connection query = .ok points := by
  have hname : sameButAsciiCase connection.table storedTable = true := by decide +kernel
  have hwindow : Window.ofDays? query.first query.last = some window := by decide +kernel
  have hopen : connection.opens connection.url = .ok () := connection.opens_memory rfl rfl
  refine exists_run_ok counts_rows hname rfl hopen hwindow ?_ (by decide +kernel)
    (by decide +kernel)
  have htime : ∀ row ∈ rows, row.logTime = some moment.text := by decide +kernel
  intro row hrow text htext
  obtain rfl : moment.text = text := Option.some.inj ((htime row hrow).symm.trans htext)
  exact ⟨_, Stamp.label_text moment⟩

/-- The packet that was delivered again is counted once, both packets are counted, and the answer is
that of each row once and in the other order. -/
theorem counted_once : (∀ row ∈ rows, row.count.Counts ∧ row.delay.Counts) ∧
    (∃ points, run connection query = .ok points ∧ ∃ point ∈ points, point.count = 4 ∧
      point.delay = 10) ∧
      run { connection with rows := some others } query = run connection query := by
  have hname : sameButAsciiCase connection.table storedTable = true := by decide +kernel
  obtain ⟨hanswered, hsame⟩ := redelivery_harmless hname rfl counts_rows query
  refine ⟨counts_rows, ?_, hsame others fun other ↦ ?_⟩
  · obtain ⟨points, hrun⟩ := exists_answer
    obtain ⟨found, hfound, -, hboth⟩ := hanswered points hrun
    have hwindow : Window.ofDays? query.first query.last = some window := by decide +kernel
    obtain rfl : window = found := Option.some.inj (hwindow.symm.trans hfound)
    have hrows : rowsAt query window rows moment.text =
        {row 1 (.whole 2) (.whole 10), row 2 (.whole 2) .null} := by decide +kernel
    have hpair := hboth moment.text
    rw [hrows] at hpair
    obtain ⟨point, hpoint, -, hcount, hdelay⟩ := hpair (row 1 (.whole 2) (.whole 10)) (by simp)
      (row 2 (.whole 2) .null) (by simp) (by decide +kernel)
    rw [sdiff_self] at hcount hdelay
    exact ⟨points, hrun, point, hpoint, hcount, hdelay⟩
  · simp [rows, others, or_comm]

end HeldTwice

end Backend.Warehouse

end StreamAudit
