import StreamAudit.Backend.Relational
import StreamAudit.Proofs.Backend.Totals

/-!
What the relational backend answers. Its rows are those of the ids of a query on the days of the
query (`mem_selected`), and an answer has one point for each minute of these rows, with the integer
parts of the two sums over the rows of the minute (`run_eq_ok_iff`).
-/

set_option autoImplicit false
set_option relaxedAutoImplicit false

namespace StreamAudit.Backend

open StreamAudit.Calendar StreamAudit.Store

/-- Whether a row has the ids of a query and a log time on one of its days. -/
def Query.Covers (query : Query) (row : RawRow) : Prop :=
  row.groupId = query.groupId ∧ row.streamId = query.streamId ∧ row.auditId = query.auditId ∧
    query.first ≤ row.logTime.date ∧ row.logTime.date ≤ query.last

instance (query : Query) (row : RawRow) : Decidable (query.Covers row) :=
  inferInstanceAs (Decidable (_ ∧ _ ∧ _ ∧ _ ∧ _))

namespace Relational

/-- The rows that a query covers, in the order of their log times. -/
def covered (query : Query) (table : Table RawRow) : List RawRow :=
  ((table.map Row.data).filter fun row ↦ query.Covers row).mergeSort fun first second ↦
    first.logTime ≤ second.logTime

theorem mem_covered {query : Query} {table : Table RawRow} {row : RawRow} :
    row ∈ covered query table ↔ row ∈ table.map Row.data ∧ query.Covers row := by
  rw [covered, List.mem_mergeSort, List.mem_filter, decide_eq_true_eq]

/-- The window of the days of a query selects the rows that the query covers. -/
theorem selected_eq_covered {query : Query} {window : Window}
    (hwindow : Window.ofDays? query.first query.last = some window) (table : Table RawRow) :
    selected query window table = covered query table := by
  have hselects : selects query window = fun row ↦ decide (query.Covers row) := by
    funext row
    rw [Bool.eq_iff_iff, decide_eq_true_eq, Query.Covers, ← Window.holds_ofDays? hwindow]
    simp only [selects, Bool.and_eq_true, beq_iff_eq, and_assoc]
  rw [selected, covered, hselects]

theorem label_of_mem_grouped {rows : List RawRow}
    (hyears : ∀ row ∈ rows, 1000 ≤ row.logTime.date.year) :
    ∀ group ∈ grouped minuteText rows, Stamp.label (.text group.1) = .ok group.1 := by
  intro group hgroup
  obtain ⟨⟨row, hrow, htext⟩, _⟩ := mem_grouped.mp hgroup
  have hyear : 1000 ≤ row.logTime.toMinute.date.year := hyears row hrow
  rw [← htext, minuteText, Stamp.label_text_self hyear]

theorem year_of_mem_covered {query : Query} {table : Table RawRow} {year : Nat}
    (hyear : year ≤ query.first.year) :
    ∀ row ∈ covered query table, year ≤ row.logTime.date.year := by
  intro row hrow
  obtain ⟨_, _, _, _, hfirst, _⟩ := mem_covered.mp hrow
  exact hyear.trans (Date.year_le_of_le hfirst)

/-- A query is answered from a table, on days that the calendar can close, if its minutes are. -/
theorem run_eq_ok_iff_answers {table? : Option (Table RawRow)} {query : Query}
    {points : List Point} :
    run table? query = .ok points ↔ ∃ table window, table? = some table ∧
      Window.ofDays? query.first query.last = some window ∧
        Answers RawRow.count RawRow.delay (grouped minuteText (selected query window table))
          points := by
  unfold run Answers
  cases Window.ofDays? query.first query.last with
  | none => simp
  | some window =>
    cases table? with
    | none => simp
    | some table =>
      simp only [Option.bind_some, Option.some.injEq, exists_eq_left', exists_and_left]
      cases (grouped minuteText (selected query window table)).mapM
          (Total.ofGroup? RawRow.count RawRow.delay) with
      | none => simp
      | some sums =>
        simp only [Option.some.injEq, exists_eq_left']
        cases sums.mapM Total.point <;> simp [Except.mapError]

/-- A query is answered if the sums of each of its minutes are, one point for each minute. -/
theorem run_eq_ok_iff {query : Query} {window : Window}
    (hwindow : Window.ofDays? query.first query.last = some window) {table : Table RawRow}
    (hyears : ∀ row ∈ covered query table, 1000 ≤ row.logTime.date.year) {points : List Point} :
    run (some table) query = .ok points ↔
      (∀ group ∈ grouped minuteText (covered query table),
        HasTotal RawRow.count group.2 ∧ HasTotal RawRow.delay group.2) ∧
        points = pointsOf (columnTotal RawRow.count) (columnTotal RawRow.delay)
          (grouped minuteText (covered query table)) := by
  rw [run_eq_ok_iff_answers, ← answers_iff (label_of_mem_grouped hyears)]
  simp only [Option.some.injEq, hwindow, exists_and_left, exists_eq_left',
    selected_eq_covered hwindow]

/-- What is answered at all is answered from a table, and on days that the calendar can close. -/
theorem exists_of_run_eq_ok {table? : Option (Table RawRow)} {query : Query} {points : List Point}
    (h : run table? query = .ok points) : ∃ table window, table? = some table ∧
      Window.ofDays? query.first query.last = some window := by
  obtain ⟨table, window, htable, hwindow, -⟩ := run_eq_ok_iff_answers.mp h
  exact ⟨table, window, htable, hwindow⟩

/-- The backend is never slow and never without a data source. -/
theorem refusal_of_run {table? : Option (Table RawRow)} {query : Query} {refusal : Refusal}
    (h : run table? query = .error refusal) :
    (∃ cause, refusal = .failed cause) ∨ ∃ cause, refusal = .broken cause := by
  unfold run at h
  split at h
  · cases h
    exact Or.inr ⟨_, rfl⟩
  · simp only at h
    split at h
    · cases h
      exact Or.inl ⟨_, rfl⟩
    · rename_i sums _
      cases hpoints : sums.mapM Total.point with
      | error cause =>
        rw [hpoints] at h
        cases h
        exact Or.inr ⟨cause, rfl⟩
      | ok points =>
        rw [hpoints] at h
        cases h

end Relational

end StreamAudit.Backend
