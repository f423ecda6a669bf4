import StreamAudit.Proofs.Backend.Agreement
import StreamAudit.Proofs.Backend.Ranges
import StreamAudit.Proofs.Backend.SearchIndex

/-!
Backends in good health. What a backend needs to answer does not depend on the days of a query: its
table or its indices, calls that go well, and data that can be summed, such as whole numbers that
add up to less than 2^63 (`healthy_of_countable`). A backend in good health answers for all ranges
of days but those that end with the last day of the calendar (`exists_run_eq_ok`), and for those it
breaks down, since each of the three asks for the day after (`run_final`).
-/

set_option autoImplicit false
set_option relaxedAutoImplicit false

namespace StreamAudit.Backend

open StreamAudit.Calendar StreamAudit.Store

theorem ofDays?_final (first : Date) : Window.ofDays? first Date.final = none := by
  rw [Window.ofDays?, Date.next?_eq_none_iff.mpr rfl]
  rfl

namespace Relational

/-- Whether a table is there and both columns have a total for every minute of the ids of a
query. -/
def Healthy (table? : Option (Table RawRow)) (query : Query) : Prop :=
  ∃ table, table? = some table ∧ ∀ group ∈ grouped minuteText (ofIds query table),
    HasTotal RawRow.count group.2 ∧ HasTotal RawRow.delay group.2

/-- Rows that can be counted keep the table in good health. -/
theorem healthy_of_countable {table : Table RawRow}
    (hcounts : Countable RawRow.count (table.map Row.data))
    (hdelays : Countable RawRow.delay (table.map Row.data)) (query : Query) :
    Healthy (some table) query := by
  have hpart : (ofIds query table).Subperm (table.map Row.data) :=
    (List.mergeSort_perm _ _).subperm.trans List.filter_sublist.subperm
  refine ⟨table, rfl, fun group hgroup ↦ ⟨?_, ?_⟩⟩
  · exact (hcounts.totals hpart minuteText group hgroup).1
  · exact (hdelays.totals hpart minuteText group hgroup).1

theorem exists_run_eq_ok {table? : Option (Table RawRow)} {query : Query}
    (hhealthy : Healthy table? query) (hlast : query.last ≠ Date.final) :
    ∃ points, run table? query = .ok points := by
  obtain ⟨table, htable, htotals⟩ := hhealthy
  obtain ⟨window, hwindow⟩ := Window.exists_ofDays? query.first hlast
  have hanswerable : ∀ group ∈ grouped minuteText (selected query window table),
      Answerable RawRow.count RawRow.delay group := by
    intro group hgroup
    rw [grouped_selected query hwindow] at hgroup
    have hgroup := List.mem_of_mem_filter hgroup
    obtain ⟨⟨row, -, htext⟩, -⟩ := mem_grouped.mp hgroup
    refine ⟨⟨Precision.second.render row.logTime.toMinute, ?_⟩, htotals group hgroup⟩
    rw [← htext, minuteText, Stamp.label_text]
  obtain ⟨points, hpoints⟩ := exists_answers_iff.mpr hanswerable
  exact ⟨points, run_eq_ok_iff_answers.mpr ⟨table, window, htable, hwindow, hpoints⟩⟩

theorem run_final (table? : Option (Table RawRow)) {query : Query}
    (hlast : query.last = Date.final) :
    run table? query = .error (.broken .dayOffCalendar) := by
  rw [run, hlast, ofDays?_final]

end Relational

namespace Warehouse

/-- Whether the stored table of an open warehouse is read and there, and every log time of the ids
of a query can be answered. -/
def Healthy (connection : Connection) (query : Query) : Prop :=
  connection.opens connection.url = .ok () ∧
    Text.sameButAsciiCase connection.table storedTable = true ∧
    ∃ rows, connection.rows = some rows ∧ ∀ group ∈ grouped logText (ofIds query rows),
      Answerable Row.count Row.delay group

/-- Rows that can be counted, with log times that have labels, keep an open warehouse in good
health. -/
theorem healthy_of_countable {connection : Connection} {rows : List Row}
    (hopen : connection.opens connection.url = .ok ())
    (hname : Text.sameButAsciiCase connection.table storedTable = true)
    (hrows : connection.rows = some rows) (hcounts : Countable Row.count rows)
    (hdelays : Countable Row.delay rows)
    (hlabels : ∀ row ∈ rows, ∃ label, Stamp.label (.text (logText row)) = .ok label)
    (query : Query) :
    Healthy connection query := by
  have hsub : ∀ row ∈ ofIds query rows, row ∈ rows := fun row hrow ↦
    List.mem_of_mem_filter (mem_distinct.mp hrow)
  have hpart : (ofIds query rows).Subperm rows := List.subperm_of_subset (nodup_distinct _) hsub
  refine ⟨hopen, hname, rows, hrows, fun group hgroup ↦ ⟨?_, ?_, ?_⟩⟩
  · obtain ⟨⟨row, hrow, htext⟩, -⟩ := mem_grouped.mp hgroup
    rw [← htext]
    exact hlabels row (hsub row hrow)
  · exact (hcounts.totals hpart logText group hgroup).1
  · exact (hdelays.totals hpart logText group hgroup).1

theorem exists_run_eq_ok {connection : Connection} {query : Query}
    (hhealthy : Healthy connection query) (hlast : query.last ≠ Date.final) :
    ∃ points, run connection query = .ok points := by
  obtain ⟨hopen, hname, rows, hrows, hall⟩ := hhealthy
  obtain ⟨window, hwindow⟩ := Window.exists_ofDays? query.first hlast
  have hanswerable : ∀ group ∈ grouped logText (found query window rows),
      Answerable Row.count Row.delay group := by
    rw [grouped_found]
    exact fun group hgroup ↦ hall group (List.mem_of_mem_filter hgroup)
  obtain ⟨points, hpoints⟩ := exists_answers_iff.mpr hanswerable
  exact ⟨points, (run_eq_ok_iff_answers hname).mpr ⟨hopen, rows, window, hrows, hwindow, hpoints⟩⟩

theorem run_final (connection : Connection) {query : Query} (hlast : query.last = Date.final) :
    run connection query = .error (.broken .dayOffCalendar) := by
  rw [run, hlast, ofDays?_final]

end Warehouse

namespace SearchIndex

/-- Whether the index of every day of an audit id is known not to exist, or exists and gives an
answer that can be read. -/
def Healthy (cluster : Cluster) (auditId : String) : Prop :=
  ∀ day, cluster.existence (indexName day auditId) = .ok false ∨
    cluster.existence (indexName day auditId) = .ok true ∧
      ∃ answer found, cluster.search (indexName day auditId) = .ok answer ∧
        points answer = .ok found

/-- In good health every day contributes its points. -/
theorem Healthy.exists_parts {cluster : Cluster} {auditId : String}
    (hhealthy : Healthy cluster auditId) (days : List Date) :
    ∃ parts, days.mapM (dayOutcome cluster auditId) = .ok parts := by
  have hday : ∀ day, ∃ part, dayOutcome cluster auditId day = .ok part := by
    intro day
    rw [dayOutcome]
    rcases hhealthy day with hmissing | ⟨hexists, answer, found, hanswer, hfound⟩
    · exact ⟨[], by simp only [hmissing]⟩
    · refine ⟨found, ?_⟩
      simp only [hexists, hanswer, hfound]
      rfl
  choose part hpart using hday
  exact ⟨days.map part, mapM_eq_ok fun day _ ↦ hpart day⟩

theorem exists_run_eq_ok {cluster : Cluster} {query : Query}
    (hhealthy : Healthy cluster query.auditId) (hlast : query.last ≠ Date.final) :
    ∃ points, (run cluster query).2 = .ok points := by
  obtain ⟨parts, hparts⟩ := hhealthy.exists_parts (Date.upTo query.first query.last)
  exact ⟨parts.flatten, run_eq_ok_iff.mpr ⟨fun hends ↦ hlast hends.2, parts, hparts, rfl⟩⟩

/-- All days are answered before the walk over them steps off the calendar. -/
theorem run_final {cluster : Cluster} {query : Query} (hhealthy : Healthy cluster query.auditId)
    (hrange : query.first ≤ query.last) (hlast : query.last = Date.final) :
    (run cluster query).2 = .error (.broken .dayOffCalendar) := by
  obtain ⟨parts, hparts⟩ := hhealthy.exists_parts (Date.upTo query.first query.last)
  have houtcome := queryDays_outcome cluster query.auditId {} (Date.upTo query.first query.last)
  rw [hparts] at houtcome
  have hnext : query.first ≤ query.last ∧ query.last.next? = none :=
    ⟨hrange, Date.next?_eq_none_iff.mpr hlast⟩
  rw [run]
  generalize queryDays cluster query.auditId {} _ = reached at houtcome ⊢
  obtain ⟨trace, outcome⟩ := reached
  obtain rfl : outcome = _ := houtcome
  simp only [Except.map, if_pos hnext]

end SearchIndex

end StreamAudit.Backend
