import StreamAudit.Backend.Warehouse
import StreamAudit.Proofs.Backend.Relational

/-!
What the warehouse answers. Raw rows are held there with their log times as texts, and the text
range of a query selects the rows that the query covers (`selects_ofRaw`). An answer has one point
for each log time, with the integer parts of the two sums over its rows (`run_eq_ok_iff`).
-/

set_option autoImplicit false
set_option relaxedAutoImplicit false

namespace StreamAudit.Backend.Warehouse

open StreamAudit.Calendar StreamAudit.Store

/-- A raw row as the warehouse holds it. The time of the sender may be spelled in any way. -/
def ofRaw (senderText : Option Moment → Option String) (row : RawRow) : Row where
  ip := some row.ip
  dockerId := some row.dockerId
  threadId := some row.threadId
  sdkTime := senderText row.sdkTime
  packetId := row.packetId
  logTime := some row.logTime.text
  groupId := some row.groupId
  streamId := some row.streamId
  auditId := some row.auditId
  count := row.count
  size := row.size
  delay := row.delay

/-- The text under which a row is summed. -/
def logText (row : Row) : String :=
  row.logTime.getD ""

/-- The rows of a query, each of them once. -/
def found (query : Query) (window : Window) (rows : List Row) : List Row :=
  distinct (rows.filter (selects query (Precision.second.render window.start)
    (Precision.second.render window.stop)))

/-- Moments of whole seconds lie in a window if their texts lie between the texts of its ends. -/
theorem within_text {window : Window} {moment : Moment} (hstart : window.start.time.micro = 0)
    (hstop : window.stop.time.micro = 0) (hmoment : moment.time.micro = 0) :
    within window.start.text window.stop.text moment.text = window.holds moment := by
  have hlow : window.start.text ≤ moment.text ↔ window.start ≤ moment := by
    rw [← String.not_lt, Moment.text_lt_text_iff hmoment hstart, Moment.lt_def, Moment.le_def,
      Nat.not_lt]
  have hhigh : moment.text < window.stop.text ↔ moment < window.stop :=
    Moment.text_lt_text_iff hmoment hstop
  rw [Bool.eq_iff_iff]
  simp only [within, Window.holds, Bool.and_eq_true, decide_eq_true_eq, hlow, hhigh]

/-- The ends of the window of some days from the year 1000 on are written as they are compared. -/
theorem render_ends {first last : Date} {window : Window}
    (hwindow : Window.ofDays? first last = some window) (hyear : 1000 ≤ first.year)
    (hrange : first ≤ last) :
    Precision.second.render window.start = window.start.text ∧
      Precision.second.render window.stop = window.stop.text := by
  obtain ⟨after, hafter, rfl⟩ := Option.map_eq_some_iff.mp hwindow
  have hnumber := Date.next?_eq_some_iff.mp hafter
  have hle : first ≤ after := by
    rw [Date.le_def] at hrange ⊢
    omega
  have hafterYear : 1000 ≤ after.year := hyear.trans (Date.year_le_of_le hle)
  exact ⟨Precision.render_second_eq_text hyear, Precision.render_second_eq_text hafterYear⟩

/-- A raw row of a whole second is selected by its texts if the query covers it. -/
theorem selects_ofRaw {query : Query} {window : Window}
    (hwindow : Window.ofDays? query.first query.last = some window)
    (hyear : 1000 ≤ query.first.year) (hrange : query.first ≤ query.last)
    (senderText : Option Moment → Option String) {row : RawRow}
    (hsecond : row.logTime.time.micro = 0) :
    selects query (Precision.second.render window.start) (Precision.second.render window.stop)
      (ofRaw senderText row) = decide (query.Covers row) := by
  have hends : window.start.time.micro = 0 ∧ window.stop.time.micro = 0 := by
    obtain ⟨after, _, rfl⟩ := Option.map_eq_some_iff.mp hwindow
    exact ⟨rfl, rfl⟩
  obtain ⟨hstart, hstop⟩ := render_ends hwindow hyear hrange
  rw [hstart, hstop, Bool.eq_iff_iff, decide_eq_true_eq, Query.Covers,
    ← Window.holds_ofDays? hwindow]
  simp only [selects, ofRaw, Option.any_some, within_text hends.1 hends.2 hsecond, Bool.and_eq_true,
    beq_iff_eq, Option.some.injEq, and_assoc]

/-- A query is answered from the stored table of an open warehouse, on days that the calendar can
close, if its log times are. -/
theorem run_eq_ok_iff_answers {connection : Connection} {query : Query}
    (hname : Text.sameButAsciiCase connection.table storedTable = true) {points : List Point} :
    run connection query = .ok points ↔ connection.opens connection.url = .ok () ∧
      ∃ rows window, connection.rows = some rows ∧
        Window.ofDays? query.first query.last = some window ∧
          Answers Row.count Row.delay (grouped logText (found query window rows)) points := by
  unfold run Answers
  cases Window.ofDays? query.first query.last with
  | none => simp
  | some window =>
    cases connection.opens connection.url with
    | error cause => simp
    | ok _ =>
      cases hrows : connection.rows with
      | none => simp [totalsOf?, hname, hrows]
      | some rows =>
        have htotals : totalsOf? connection query window =
            (grouped logText (found query window rows)).mapM
              (Total.ofGroup? Row.count Row.delay) := by
          rw [totalsOf?, if_pos hname, hrows]
          rfl
        simp only [htotals, Option.some.injEq, exists_eq_left', exists_and_left, true_and]
        cases (grouped logText (found query window rows)).mapM
          (Total.ofGroup? Row.count Row.delay) with
        | none => simp
        | some sums =>
          simp only [Option.some.injEq, exists_eq_left']
          cases sums.mapM Total.point <;> simp [Except.mapError]

/-- An open warehouse with the stored table answers a query if the sums of each of its log times
are, one point for each log time. -/
theorem run_eq_ok_iff {connection : Connection} {query : Query} {window : Window} {rows : List Row}
    (hwindow : Window.ofDays? query.first query.last = some window)
    (hopen : connection.opens connection.url = .ok ())
    (hname : Text.sameButAsciiCase connection.table storedTable = true)
    (hrows : connection.rows = some rows)
    (hlabel : ∀ group ∈ grouped logText (found query window rows),
      Stamp.label (.text group.1) = .ok group.1) {points : List Point} :
    run connection query = .ok points ↔
      (∀ group ∈ grouped logText (found query window rows),
        HasTotal Row.count group.2 ∧ HasTotal Row.delay group.2) ∧
        points = pointsOf (columnTotal Row.count) (columnTotal Row.delay)
          (grouped logText (found query window rows)) := by
  rw [run_eq_ok_iff_answers hname, ← answers_iff hlabel]
  simp only [hopen, hrows, hwindow, Option.some.injEq, exists_and_left, exists_eq_left', true_and]

end StreamAudit.Backend.Warehouse
