import StreamAudit.Proofs.Backend.Warehouse
import StreamAudit.Proofs.Calendar.Walk

/-!
Ranges of days as ranges of texts. The rows that the ids of a query have in either store do not
depend on its days, and the days select the groups whose texts lie in a range (`grouped_selected`,
`grouped_found`); sorting rows and dropping repeated ones does not interfere (`filter_mergeSort`,
`distinct_filter`). A range of texts is cut by any text in it (`filter_within_cut`), so what is
answered for a range of days is cut by any of its days (`Relational.run_cut`, `Warehouse.run_cut`).
-/

set_option autoImplicit false
set_option relaxedAutoImplicit false

namespace StreamAudit.Backend

open StreamAudit.Calendar StreamAudit.Sql StreamAudit.Store StreamAudit.Text
  StreamAudit.Backend.Warehouse

variable {α : Type}

/-! ### Parts of lists -/

section Sorting

variable {le : α → α → Bool}

/-- A list is cut in one way only into a part with a property and a part without it. -/
theorem append_eq_append_of_split {keeps : α → Bool} {front back front' back' : List α}
    (h : front ++ back = front' ++ back') (hfront : ∀ x ∈ front, keeps x = true)
    (hback : ∀ x ∈ back, ¬ keeps x = true) (hfront' : ∀ x ∈ front', keeps x = true)
    (hback' : ∀ x ∈ back', ¬ keeps x = true) : front = front' ∧ back = back' := by
  have hkept := congrArg (List.filter keeps) h
  rw [List.filter_append, List.filter_append, List.filter_eq_self.mpr hfront,
    List.filter_eq_nil_iff.mpr hback, List.filter_eq_self.mpr hfront',
    List.filter_eq_nil_iff.mpr hback', List.append_nil, List.append_nil] at hkept
  subst hkept
  exact ⟨rfl, List.append_cancel_left h⟩

/-- A stable sort commutes with leaving rows out. -/
theorem filter_mergeSort (htrans : ∀ a b c, le a b = true → le b c = true → le a c = true)
    (htotal : ∀ a b, (le a b || le b a) = true) (keeps : α → Bool) (rows : List α) :
    (rows.mergeSort le).filter keeps = (rows.filter keeps).mergeSort le := by
  induction rows with
  | nil => simp
  | cons row rest ih =>
    -- A row goes in front of the first one that it does not exceed, whatever the others are.
    have hcut : ∀ others : List α, ∃ front back,
        (row :: others).mergeSort le = front ++ row :: back ∧
        others.mergeSort le = front ++ back ∧ (∀ x ∈ front, (!le row x) = true) ∧
          ∀ x ∈ back, ¬ (!le row x) = true := by
      intro others
      obtain ⟨front, back, hall, hothers, hfront⟩ := List.mergeSort_cons htrans htotal row others
      have hsorted := List.pairwise_mergeSort htrans htotal (row :: others)
      rw [hall, List.pairwise_append, List.pairwise_cons] at hsorted
      refine ⟨front, back, hall, hothers, hfront, fun x hx ↦ ?_⟩
      simp [hsorted.2.1.1 x hx]
    obtain ⟨front, back, hall, hrest, hfront, hback⟩ := hcut rest
    rw [hrest, List.filter_append] at ih
    rw [hall, List.filter_append]
    by_cases hrow : keeps row = true
    · obtain ⟨front', back', hall', hrest', hfront', hback'⟩ := hcut (rest.filter keeps)
      rw [hrest'] at ih
      obtain ⟨hfronts, hbacks⟩ := append_eq_append_of_split ih
        (fun x hx ↦ hfront x (List.mem_filter.mp hx).1)
          (fun x hx ↦ hback x (List.mem_filter.mp hx).1)
        hfront' hback'
      rw [List.filter_cons_of_pos hrow, List.filter_cons_of_pos hrow, hall', hfronts, hbacks]
    · rw [List.filter_cons_of_neg hrow, List.filter_cons_of_neg hrow, ih]

end Sorting

/-- The distinct rows of a part are the part of the distinct rows. -/
theorem distinct_filter [DecidableEq α] (keeps : α → Bool) (rows : List α) :
    distinct (rows.filter keeps) = (distinct rows).filter keeps := by
  induction rows with
  | nil => rfl
  | cons row rest ih =>
    by_cases hrow : keeps row = true
    · rw [List.filter_cons_of_pos hrow, distinct, distinct, List.filter_cons_of_pos hrow, ih,
        List.filter_filter, List.filter_filter]
      simp only [Bool.and_comm]
    · rw [List.filter_cons_of_neg hrow, distinct, List.filter_cons_of_neg hrow, ih,
        List.filter_filter]
      refine List.filter_congr fun other _ ↦ ?_
      by_cases hsame : other = row
      · simp [hsame, hrow]
      · simp [hsame]

/-! ### Ranges of texts -/

theorem pairwise_grouped (key : α → String) (rows : List α) :
    (grouped key rows).Pairwise fun group other ↦ group.1 < other.1 :=
  List.pairwise_map.mpr (Ascending.sorted_ofList _)

theorem within_iff {start stop text : String} :
    within start stop text = true ↔ start ≤ text ∧ text < stop := by
  simp [within]

/-- In ascending order the groups of a range are those before a text in it and those from the text
on. -/
theorem filter_within_cut {groups : List (String × List α)}
    (hsorted : groups.Pairwise fun group other ↦ group.1 < other.1) {start cut stop : String}
    (hstart : start ≤ cut) (hstop : cut ≤ stop) :
    (groups.filter fun group ↦ within start stop group.1) =
      (groups.filter fun group ↦ within start cut group.1) ++
        groups.filter fun group ↦ within cut stop group.1 := by
  induction groups with
  | nil => rfl
  | cons group rest ih =>
    obtain ⟨hfirst, hrest⟩ := List.pairwise_cons.mp hsorted
    by_cases hcut : group.1 < cut
    · have hback : within cut stop group.1 = false := by
        rw [Bool.eq_false_iff, ne_eq, within_iff]
        exact fun h ↦ String.not_lt.mpr h.1 hcut
      have hfront : within start stop group.1 = within start cut group.1 := by
        have hlt : group.1 < stop := Std.lt_of_lt_of_le hcut hstop
        rw [Bool.eq_iff_iff, within_iff, within_iff]
        exact and_congr_right fun _ ↦ ⟨fun _ ↦ hcut, fun _ ↦ hlt⟩
      simp only [List.filter_cons, hback, hfront, ih hrest]
      split <;> rfl
    · -- From here on no group comes before the cut.
      have hlater : ∀ other ∈ group :: rest, cut ≤ other.1 := by
        have hle : cut ≤ group.1 := String.not_lt.mp hcut
        refine List.forall_mem_cons.mpr ⟨hle, fun other hother ↦ ?_⟩
        exact String.le_trans hle (Std.le_of_lt (hfirst other hother))
      have hnone : ((group :: rest).filter fun other ↦ within start cut other.1) = [] :=
        List.filter_eq_nil_iff.mpr fun other hother hwithin ↦
          String.not_lt.mpr (hlater other hother) (within_iff.mp hwithin).2
      rw [hnone, List.nil_append]
      refine List.filter_congr fun other hother ↦ ?_
      rw [Bool.eq_iff_iff, within_iff, within_iff]
      refine and_congr_left fun _ ↦ ⟨fun _ ↦ hlater other hother, fun _ ↦ ?_⟩
      exact String.le_trans hstart (hlater other hother)

/-! ### Ranges of days -/

theorem text_midnight_mono {first second : Date} (h : first ≤ second) :
    (Moment.midnight first).text ≤ (Moment.midnight second).text := by
  rw [← String.not_lt, Moment.text_lt_text_iff rfl rfl, Moment.lt_def, Moment.micros_midnight,
    Moment.micros_midnight, Nat.not_lt]
  exact Nat.mul_le_mul_right _ (Date.le_def.mp h)

section Cut

variable {count delay : α → Measure} {groups : List (String × List α)} {first mid after last : Date}
  {window : Window}

/-- What is answered for the groups of some days is what is answered for those of the days up to one
of them, followed by what is answered for those of the others. -/
theorem answers_cut (hsorted : groups.Pairwise fun group other ↦ group.1 < other.1)
    (hafter : mid.next? = some after) (hfirst : first ≤ mid) (hlast : mid.number < last.number)
    (hwindow : Window.ofDays? first last = some window) {points : List Point}
    (h : Answers count delay
      (groups.filter fun group ↦ within window.start.text window.stop.text group.1) points) :
    ∃ early late, Window.ofDays? first mid = some early ∧ Window.ofDays? after last = some late ∧
      ∃ front back, points = front ++ back ∧
        Answers count delay
          (groups.filter fun group ↦ within early.start.text early.stop.text group.1) front ∧
        Answers count delay
          (groups.filter fun group ↦ within late.start.text late.stop.text group.1) back := by
  obtain ⟨stop, hstop, rfl⟩ := Option.map_eq_some_iff.mp hwindow
  have hhigh : after ≤ stop := by
    have hnumber := Date.next?_eq_some_iff.mp hstop
    exact Date.next_le hafter (by omega)
  rw [filter_within_cut hsorted (text_midnight_mono (Date.le_next hafter hfirst))
    (text_midnight_mono hhigh), answers_append_iff] at h
  -- The first window ends, and the second one starts, at the midnight after the day of the cut.
  refine ⟨⟨.midnight first, .midnight after⟩, ⟨.midnight after, .midnight stop⟩, ?_, ?_, h⟩
  · rw [Window.ofDays?, hafter]
    rfl
  · rw [Window.ofDays?, hstop]
    rfl

end Cut

namespace Relational

/-- The rows with the ids of a query, on any day, in the order of their log times. -/
def ofIds (query : Query) (table : Table RawRow) : List RawRow :=
  ((table.map Row.data).filter fun row ↦
    row.groupId == query.groupId && row.streamId == query.streamId &&
    row.auditId == query.auditId).mergeSort fun first second ↦ first.logTime ≤ second.logTime

theorem selected_eq_filter (query : Query) (window : Window) (table : Table RawRow) :
    selected query window table = (ofIds query table).filter fun row ↦
      window.holds row.logTime := by
  have hselects : selects query window = fun row ↦ window.holds row.logTime &&
      (row.groupId == query.groupId && row.streamId == query.streamId &&
        row.auditId == query.auditId) :=
    funext fun row ↦ Bool.and_comm _ _
  rw [ofIds, filter_mergeSort, List.filter_filter, selected, hselects]
  · intro first second third hfirst hsecond
    simp only [decide_eq_true_eq, Moment.le_def] at *
    omega
  · intro first second
    simp only [Bool.or_eq_true, decide_eq_true_eq, Moment.le_def]
    omega

/-- The window of some days holds the times whose minutes lie between the texts of its ends. -/
theorem holds_eq_within {first last : Date} {window : Window}
    (hwindow : Window.ofDays? first last = some window) (row : RawRow) :
    window.holds row.logTime = within window.start.text window.stop.text (minuteText row) := by
  have hminute : window.holds row.logTime = window.holds row.logTime.toMinute := by
    rw [Bool.eq_iff_iff, Window.holds_ofDays? hwindow, Window.holds_ofDays? hwindow]
    rfl
  obtain ⟨stop, -, rfl⟩ := Option.map_eq_some_iff.mp hwindow
  rw [hminute, minuteText, within_text rfl rfl rfl]

/-- The minutes of the days of a query are the minutes of its ids that lie in the range of the
days. -/
theorem grouped_selected (query : Query) {window : Window}
    (hwindow : Window.ofDays? query.first query.last = some window) (table : Table RawRow) :
    grouped minuteText (selected query window table) =
      (grouped minuteText (ofIds query table)).filter fun group ↦
        within window.start.text window.stop.text group.1 := by
  rw [grouped_filter, selected_eq_filter]
  simp only [holds_eq_within hwindow]

/-- What is answered for a range of days is what is answered for the days up to one of them,
followed by what is answered for the others. -/
theorem run_cut {table? : Option (Table RawRow)} {query : Query} {mid after : Date}
    {points : List Point} (hafter : mid.next? = some after) (hfirst : query.first ≤ mid)
    (hlast : mid.number < query.last.number) (h : run table? query = .ok points) : ∃ front back,
      run table? { query with last := mid } = .ok front ∧
        run table? { query with first := after } = .ok back ∧ points = front ++ back := by
  obtain ⟨table, window, rfl, hwindow, hanswers⟩ := run_eq_ok_iff_answers.mp h
  rw [grouped_selected query hwindow] at hanswers
  obtain ⟨early, late, hearly, hlate, front, back, rfl, hfront, hback⟩ :=
    answers_cut (pairwise_grouped minuteText (ofIds query table)) hafter hfirst hlast hwindow
      hanswers
  refine ⟨front, back, ?_, ?_, rfl⟩
  · refine run_eq_ok_iff_answers.mpr ⟨table, early, rfl, hearly, ?_⟩
    rw [grouped_selected { query with last := mid } hearly]
    exact hfront
  · refine run_eq_ok_iff_answers.mpr ⟨table, late, rfl, hlate, ?_⟩
    rw [grouped_selected { query with first := after } hlate]
    exact hback

end Relational

namespace Warehouse

/-- The rows with the ids of a query and any log time, each of them once. -/
def ofIds (query : Query) (rows : List Row) : List Row :=
  distinct (rows.filter fun row ↦
    row.groupId == some query.groupId && row.streamId == some query.streamId &&
    row.auditId == some query.auditId && row.logTime.isSome)

theorem found_eq_filter (query : Query) (window : Window) (rows : List Row) :
    found query window rows = (ofIds query rows).filter fun row ↦
      within (Precision.second.render window.start) (Precision.second.render window.stop)
        (logText row) := by
  rw [ofIds, ← distinct_filter, List.filter_filter, found]
  congr 1
  refine List.filter_congr fun row _ ↦ ?_
  cases hlog : row.logTime with
  | none => simp [selects, hlog]
  | some text => simp [selects, logText, hlog, Bool.and_comm]

/-- The log times of the days of a query are those of its ids that lie in the range of the days. -/
theorem grouped_found (query : Query) (window : Window) (rows : List Row) :
    grouped logText (found query window rows) =
      (grouped logText (ofIds query rows)).filter fun group ↦
        within (Precision.second.render window.start) (Precision.second.render window.stop)
          group.1 := by
  rw [grouped_filter, found_eq_filter]

/-- What an open warehouse answers for a range of days from the year 1000 on is what it answers for
the days up to one of them, followed by what it answers for the others. -/
theorem run_cut {connection : Connection} {query : Query} {mid after : Date} {points : List Point}
    (hname : Text.sameButAsciiCase connection.table storedTable = true)
    (hyear : 1000 ≤ query.first.year) (hafter : mid.next? = some after) (hfirst : query.first ≤ mid)
    (hlast : mid.number < query.last.number) (h : run connection query = .ok points) : ∃ front back,
      run connection { query with last := mid } = .ok front ∧
        run connection { query with first := after } = .ok back ∧ points = front ++ back := by
  obtain ⟨hopen, rows, window, hrows, hwindow, hanswers⟩ := (run_eq_ok_iff_answers hname).mp h
  have hends := render_ends hwindow hyear (Date.le_of_le_of_lt hfirst hlast)
  rw [grouped_found, hends.1, hends.2] at hanswers
  obtain ⟨early, late, hearly, hlate, front, back, rfl, hfront, hback⟩ :=
    answers_cut (pairwise_grouped _ _) hafter hfirst hlast hwindow hanswers
  refine ⟨front, back, (run_eq_ok_iff_answers hname).mpr ⟨hopen, rows, early, hrows, hearly, ?_⟩,
    (run_eq_ok_iff_answers hname).mpr ⟨hopen, rows, late, hrows, hlate, ?_⟩, rfl⟩
  · have hends := render_ends hearly hyear hfirst
    rw [grouped_found, hends.1, hends.2]
    exact hfront
  · have hlater : 1000 ≤ after.year := hyear.trans (Date.year_le_of_le (Date.le_next hafter hfirst))
    have hends := render_ends hlate hlater (Date.next_le hafter hlast)
    rw [grouped_found, hends.1, hends.2]
    exact hback

end Warehouse

end StreamAudit.Backend
