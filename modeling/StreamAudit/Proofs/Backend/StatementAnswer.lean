import StreamAudit.Proofs.Backend.Redelivery
import StreamAudit.Proofs.Backend.WarehouseStatement

/-!
The statement of the warehouse answers the totals of a query. On the stored table the inner
selection finds the distinct rows that the query selects (`rows?_rowsSelected`) and the outer one
their sums for every log time, in order (`rows?_windowSelected`); a sum that leaves its range leaves
the statement without an answer (`answer?_storedTable`). So the totals of a query are what the
statement answers, whichever table it names (`totalsOf?_eq_answer?`). The order of values tells rows
apart, so rows that it takes for one must be one, as rows with whole numbers are
(`toldApart_of_isInteger`).
-/

set_option autoImplicit false
set_option relaxedAutoImplicit false

namespace StreamAudit

open StreamAudit.Calendar StreamAudit.Number StreamAudit.Sql

namespace Sql

/-- A statement that can be read, with values for its parameters, has the rows of its query. -/
theorem answer?_of_read {tables : List Table} {parameters : List (String × Value)}
    {statement text : String} {names : List String} {values : List Value} {tokens : List Token}
    {query : Query} (hresolve : Placeholder.resolve statement = (text, names))
    (hvalues : names.mapM (fun name ↦ List.lookup name parameters) = some values)
    (htokens : tokens? text = some (tokens, values.length))
    (hquery : Query.ofTokens? tokens = some query) :
    answer? tables parameters statement =
      ((Interpreter.ofDepth (4 * tokens.length + 8)).query
        { parameters := values, tables } query).bind fun relation ↦ relation.rows [] := by
  have hplaces : (guard (values.length = values.length) : Option Unit) = some () := if_pos rfl
  rw [answer?, hresolve]
  simp only [hvalues, htokens, hquery, ↓hplaces, Option.bind_eq_bind, Option.bind_some]

namespace Value

theorem order_self (collation : Collation) (value : Value) : value.order collation value = .eq := by
  cases value <;> simp [order]

/-- Values that are no doubles are told apart character by character. -/
theorem eq_of_order_eq {first second : Value} (hfirst : ∀ x, first ≠ .real x)
    (hsecond : ∀ x, second ≠ .real x) (h : first.order .binary second = .eq) : first = second := by
  cases first <;> cases second <;> simp_all [order, Collation.key]

end Value

namespace SortKey

theorem order_self (key : SortKey) (value : Value) : key.order value value = .eq := by
  rw [order, Value.order_self, ite_self]
  cases key.nullsLast with
  | none => rfl
  | some last => cases decide (value = .null) <;> rfl

theorem rowOrder_self (keys : List SortKey) (values : List Value) :
    rowOrder keys values values = .eq := by
  induction keys generalizing values with
  | nil => rfl
  | cons key keys ih =>
    cases values with
    | nil => rfl
    | cons value values =>
      rw [rowOrder, order_self, ih]
      rfl

theorem order_plain (first second : Value) :
    plain.order first second = first.order .binary second := by
  simp [order, plain]

end SortKey

end Sql

namespace Backend.Warehouse

open SortKey (plain rowOrder)

variable {query : Query} {start stop : String} {rows : List Row}

/-! ### Rows that are told apart -/

/-- Rows that the order of their values takes for one only if they are the same. -/
def ToldApart (rows : List Row) : Prop :=
  ∀ first ∈ rows, ∀ second ∈ rows,
    rowOrder (columns.map fun _ ↦ plain) first.values second.values = .eq → first = second

theorem eq_of_rowOrder_eq {keys : List SortKey} {first second : List Value}
    (hlength : first.length = keys.length) (hsame : second.length = keys.length)
    (hfirst : ∀ value ∈ first, ∀ x, value ≠ .real x)
    (hsecond : ∀ value ∈ second, ∀ x, value ≠ .real x)
    (h : rowOrder (keys.map fun _ ↦ plain) first second = .eq) : first = second := by
  induction keys generalizing first second with
  | nil => rw [List.length_eq_zero_iff.mp hlength, List.length_eq_zero_iff.mp hsame]
  | cons key keys ih =>
    cases first with
    | nil => cases hlength
    | cons a as =>
      cases second with
      | nil => cases hsame
      | cons b bs =>
        obtain ⟨ha, has⟩ := List.forall_mem_cons.mp hfirst
        obtain ⟨hb, hbs⟩ := List.forall_mem_cons.mp hsecond
        rw [List.map_cons, rowOrder, SortKey.order_plain, Ordering.then_eq_eq] at h
        rw [Value.eq_of_order_eq ha hb h.1,
          ih (Nat.succ.inj hlength) (Nat.succ.inj hsame) has hbs h.2]

theorem ne_real_of_mem_values {row : Row} (hpacket : row.packetId.isInteger = true)
    (hcount : row.count.isInteger = true) (hsize : row.size.isInteger = true)
    (hdelay : row.delay.isInteger = true) : ∀ value ∈ row.values, ∀ x, value ≠ .real x := by
  have htext : ∀ (text : Option String) (x : Binary64), Value.ofText? text ≠ .real x := by
    rintro (_ | text) x <;> simp [Value.ofText?]
  have hmeasure : ∀ measure : Measure, measure.isInteger = true →
      ∀ x : Binary64, Value.ofMeasure measure ≠ .real x := by
    rintro (_ | n | y) hinteger x <;> simp_all [Value.ofMeasure, Measure.isInteger]
  simp only [Row.values, List.forall_mem_cons]
  exact ⟨htext _, htext _, htext _, htext _, hmeasure _ hpacket, htext _, htext _, htext _, htext _,
    hmeasure _ hcount, hmeasure _ hsize, hmeasure _ hdelay, by simp⟩

/-- Rows with whole numbers or nulls are told apart. -/
theorem toldApart_of_isInteger (h : ∀ row ∈ rows, row.packetId.isInteger = true ∧
    row.count.isInteger = true ∧ row.size.isInteger = true ∧ row.delay.isInteger = true) :
    ToldApart rows := by
  have hreal : ∀ row ∈ rows, ∀ value ∈ row.values, ∀ x, value ≠ .real x := fun row hrow ↦
    ne_real_of_mem_values (h row hrow).1 (h row hrow).2.1 (h row hrow).2.2.1 (h row hrow).2.2.2
  intro first hfirst second hsecond heq
  have hkeys : (columns.map fun _ ↦ plain) = (List.replicate 12 plain).map fun _ ↦ plain := rfl
  rw [hkeys] at heq
  exact values_inj.mp (eq_of_rowOrder_eq rfl rfl (hreal first hfirst) (hreal second hsecond) heq)

/-! ### The distinct rows -/

theorem places_columns : columns.map columns.idxOf = List.range 12 := by
  decide +kernel

/-- The columns of a row by their names are its values, whatever stands behind them. -/
theorem values_columns (row : Row) (number : Value) :
    columns.map (fun name ↦ ((row.values ++ [number])[columns.idxOf name]?).getD .null) =
      row.values := by
  have hplaces :
      columns.map (fun name ↦ ((row.values ++ [number])[columns.idxOf name]?).getD .null) =
      (columns.map columns.idxOf).map fun place ↦
        ((row.values ++ [number])[place]?).getD .null := by
    rw [List.map_map]
    rfl
  rw [hplaces, places_columns]
  rfl

/-- A text that is compared for equality is the one it is compared with. -/
theorem map_equal_holds (text : Option String) (other : String) :
    ((text.map fun s ↦ Comparison.equal.holds (compare s other)) == some true) =
      (text == some other) := by
  cases text with
  | none => rfl
  | some s =>
    simp only [Option.map_some, Option.some_beq_some, Comparison.holds, beq_true]
    rw [Bool.eq_iff_iff, beq_iff_eq, beq_iff_eq, Std.compare_eq_iff_eq]

/-- A text between two others lies in their range. -/
theorem map_range_holds (text : Option String) (start stop : String) :
    (((text.map fun s ↦ Comparison.atLeast.holds (compare s start)) == some true) &&
        ((text.map fun s ↦ Comparison.less.holds (compare s stop)) == some true)) =
      text.any (within start stop) := by
  cases text with
  | none => rfl
  | some s =>
    simp only [Option.map_some, Option.some_beq_some, Comparison.holds, beq_true, Option.any_some,
      within]
    rw [Bool.eq_iff_iff, Bool.and_eq_true, Bool.and_eq_true, bne_iff_ne, beq_iff_eq, Ne,
      compare_lt_iff_lt, compare_lt_iff_lt, not_lt, decide_eq_true_eq, decide_eq_true_eq]

section Condition

variable {row : Row} {number : Value} {around : Surroundings} {outer : List Frame}

/-- The condition of the statement selects the rows of the query. -/
theorem holds_conditionMeaning
    (haround : around.frames = ⟨row.values ++ [number], []⟩ :: outer) :
    (conditionMeaning query start stop).holds around = some (selects query start stop row) := by
  have hpart : ∀ (comparison : Comparison) (name other : String) (text : Option String),
      (storedColumn name).affinity = .texts →
      (row.values ++ [number])[columns.idxOf name]? = some (.ofText? text) →
      (comparing comparison name other).value around =
        some (.ofTruth (text.map fun s ↦ comparison.holds (compare s other))) :=
    fun comparison name other text htexts htext ↦ Meaning.value_compared htexts rfl haround htext
  have hgroup := hpart .equal "inlong_group_id" query.groupId row.groupId (by decide +kernel) rfl
  have hstream :=
    hpart .equal "inlong_stream_id" query.streamId row.streamId (by decide +kernel) rfl
  have haudit := hpart .equal "audit_id" query.auditId row.auditId (by decide +kernel) rfl
  have hstart := hpart .atLeast "log_ts" start row.logTime (by decide +kernel) rfl
  have hstop := hpart .less "log_ts" stop row.logTime (by decide +kernel) rfl
  have hall := Meaning.holds_map₂_both (Meaning.holds_map₂_both (Meaning.holds_map₂_both
    (Meaning.holds_map₂_both hgroup hstream) haudit) hstart) hstop
  have hvalue : (conditionMeaning query start stop).value around = _ := hall
  rw [Meaning.holds, hvalue, Option.map_some, Value.truth?_ofTruth]
  simp only [both_beq_some_true, map_equal_holds]
  rw [Bool.and_assoc, map_range_holds, selects]

end Condition

/-- The inner selection finds the distinct rows that the query selects. -/
theorem rows?_rowsSelected
    (hapart : ToldApart (distinct (rows.filter (selects query start stop)))) (outer : List Frame) :
    (rowsSelected query start stop rows).rows? outer =
      some ((distinct (rows.filter (selects query start stop))).map Row.values) := by
  have hvalues : ∀ thing ∈ rows.zipIdx, ∀ around : Surroundings,
      around.frames = ⟨thing.1.values ++ [.whole (thing.2 + 1)], []⟩ :: outer →
        Meaning.row (rowsSelected query start stop rows).meanings around = some thing.1.values := by
    intro thing _ around haround
    rw [Meaning.row, Selected.meanings, rowsSelected, List.map_map, List.mapM_map,
      ← values_columns thing.1 (.whole (thing.2 + 1))]
    exact mapM_eq_some fun name _ ↦ Meaning.value_ofColumn haround
  have hplain : (rowsSelected query start stop rows).rows? outer =
      some ((rowsSelected query start stop rows).arranged
        ((rows.zipIdx.filter fun thing ↦ selects query start stop thing.1).map
          fun thing ↦ (thing.1.values, []))) :=
    Selected.rows?_of_plain rfl rfl rfl rfl (fun _ _ ↦ holds_conditionMeaning rfl) hvalues
  have hrows : (rows.zipIdx.filter fun thing ↦ selects query start stop thing.1).map
      (fun thing ↦ (thing.1.values, ([] : List Value))) =
        (rows.filter (selects query start stop)).map fun row ↦ (row.values, []) :=
    map_filter_zipIdx (selects query start stop) (fun row ↦ (row.values, [])) rows
  have hagree : ∀ first ∈ rows.filter (selects query start stop),
      ∀ second ∈ rows.filter (selects query start stop),
        rowOrder ((rowsSelected query start stop rows).headings.map Heading.sortKey)
          first.values second.values = .eq ↔ first = second := by
    intro first hfirst second hsecond
    constructor
    · exact hapart first (mem_distinct.mpr hfirst) second (mem_distinct.mpr hsecond)
    · rintro rfl
      exact SortKey.rowOrder_self _ _
  rw [hplain, hrows, Selected.arranged_of_distinct rfl rfl, SortKey.firsts_map hagree, List.map_map]
  rfl

/-! ### The totals -/

section Totals

variable {window : Window}

/-- The selection of the totals of a query in a window. -/
def windowSelected (query : Query) (window : Window) (rows : List Row) : Selected :=
  totalsSelected query (Precision.second.render window.start) (Precision.second.render window.stop)
    rows

/-- A group of rows as the statement answers it, if both sums stay within their range. -/
def totalRow? (group : String × List Row) : Option (List Value) := do
  pure [.text group.1, .ofMeasure (← sum? (group.2.map Row.count)),
    .ofMeasure (← sum? (group.2.map Row.delay))]

/-- A row of a query has a log time. -/
theorem logTime_of_mem {row : Row} (h : row ∈ found query window rows) :
    Value.ofText? row.logTime = .text (logText row) := by
  have hselects := (List.mem_filter.mp (mem_distinct.mp h)).2
  rw [selects, Bool.and_eq_true] at hselects
  cases htext : row.logTime with
  | none =>
    rw [htext] at hselects
    cases hselects.2
  | some text =>
    rw [logText, htext]
    rfl

theorem value_subMeaning_logTime {row : Row} {around : Surroundings} {group : List (List Value)}
    {outer : List Frame} (h : row ∈ found query window rows)
    (haround : around.frames = ⟨row.values, group⟩ :: outer) :
    (subMeaning "log_ts").value around = some (.text (logText row)) := by
  have hvalue : row.values[columns.idxOf "log_ts"]? = some (.ofText? row.logTime) := rfl
  rw [subMeaning, Meaning.value_ofColumn haround, hvalue, logTime_of_mem h]
  rfl

/-- The sum of a column of numbers over the rows of a group. -/
theorem value_sum_column (name : String) (measure : Row → Measure)
    (hcolumn : ∀ row : Row, row.values[columns.idxOf name]? = some (.ofMeasure (measure row)))
    {around : Surroundings} {first : List Value} {group : List Row} {outer : List Frame}
    (haround : around.frames = ⟨first, group.map Row.values⟩ :: outer) :
    (Interpreter.aggregate .sum false [subMeaning name] none).value around =
      (sum? (group.map measure)).map .ofMeasure := by
  have hmeasures : ((group.map Row.values).map fun row ↦
      ((row[columns.idxOf name]?).getD .null).measure) = group.map measure := by
    rw [List.map_map]
    refine List.map_congr_left fun row _ ↦ ?_
    rw [Function.comp, hcolumn row, Option.getD_some, Value.measure_ofMeasure]
  rw [subMeaning, Interpreter.value_sum haround, hmeasures]

theorem groupsByText_totals (hapart : ToldApart (found query window rows)) :
    (windowSelected query window rows).GroupsByText [] (found query window rows) Row.values
      logText where
  source_rows := rows?_rowsSelected hapart []
  isGrouped_eq := rfl
  isDistinct_eq := rfl
  condition_eq := rfl
  having_eq := rfl
  lead_eq := rfl
  keys_isEmpty := rfl
  order_eq := rfl
  terms_order := rfl
  row_keys row hrow := by
    have hkey : (subMeaning "log_ts").value { frames := ⟨row.values, []⟩ :: [] } =
        some (.text (logText row)) := value_subMeaning_logTime hrow rfl
    rw [Meaning.row, windowSelected, totalsSelected, List.mapM_cons, hkey]
    rfl

theorem hasResults_totals : (windowSelected query window rows).HasResults []
    (found query window rows) Row.values logText totalRow? := by
  intro group hgroup row hrow around haround
  obtain ⟨-, hrows⟩ := mem_grouped.mp hgroup
  rw [hrows] at hrow
  obtain ⟨hmem, hkey⟩ := List.mem_filter.mp hrow
  rw [decide_eq_true_eq] at hkey
  have hlog := value_subMeaning_logTime hmem haround
  rw [hkey] at hlog
  have hcount := value_sum_column "count" Row.count (fun _ ↦ rfl) haround
  have hdelay := value_sum_column "delay" Row.delay (fun _ ↦ rfl) haround
  constructor
  · rw [Meaning.row, Selected.meanings, windowSelected, totalsSelected]
    simp only [List.map_cons, List.map_nil, List.mapM_cons, List.mapM_nil, hlog, hcount, hdelay,
      totalRow?]
    cases sum? (group.2.map Row.count) <;> cases sum? (group.2.map Row.delay) <;> rfl
  · rw [Meaning.row, windowSelected, totalsSelected]
    simp only [List.map_cons, List.map_nil, List.mapM_cons, List.mapM_nil, hlog]
    rfl

/-- The outer selection finds the sums of the distinct rows for every log time, in order. -/
theorem rows?_windowSelected (hapart : ToldApart (found query window rows)) :
    (windowSelected query window rows).rows? [] =
      (grouped logText (found query window rows)).mapM totalRow? :=
  (groupsByText_totals hapart).rows?_eq hasResults_totals

/-- A row of the answer is the total of its group. -/
theorem bind_totalOf? (group : String × List Row) :
    (totalRow? group).bind totalOf? = Total.ofGroup? Row.count Row.delay group := by
  rw [totalRow?, Total.ofGroup?]
  cases sum? (group.2.map Row.count) with
  | none => rfl
  | some count =>
    cases sum? (group.2.map Row.delay) with
    | none => rfl
    | some delay =>
      simp [totalOf?, keyOf, Value.measure_ofMeasure]

end Totals

/-! ### The answer -/

theorem mapM_lookup_parameters (query : Query) (window : Window) :
    parameterNames.mapM (fun name ↦ List.lookup name (parameters query window)) =
      some (parameterValues query (Precision.second.render window.start)
        (Precision.second.render window.stop)) := by
  have hnodup : ((parameters query window).map Prod.fst).Nodup :=
    show parameterNames.Nodup by decide +kernel
  exact mapM_lookup_fst hnodup

/-- What a query is interpreted in that has parameters and may read tables. -/
def windowSetting (query : Query) (window : Window) (tables : List Table) : Setting where
  parameters := parameterValues query (Precision.second.render window.start)
    (Precision.second.render window.stop)
  tables := tables

/-- The statement is read as the query for the totals, whatever the tables hold. -/
theorem answer?_statement (tables : List Table) (query : Query) (window : Window) :
    Sql.answer? tables (parameters query window) (statement storedTable) =
      ((Interpreter.ofDepth 304).query (windowSetting query window tables) totalsQuery).bind
        fun relation ↦ relation.rows [] := by
  have hlength : statementTokens.length = 74 := rfl
  have hdepth : 4 * statementTokens.length + 8 = 304 := by rw [hlength]
  rw [← hdepth]
  exact answer?_of_read resolve_statement (mapM_lookup_parameters query window)
    tokens?_markedStatement ofTokens?_statement

/-- On the stored table the statement answers the totals of a query, without the table nothing. -/
theorem answer?_storedTable {connection : Connection} {query : Query} {window : Window}
    (htable : connection.table = storedTable)
    (hapart : ∀ rows, connection.rows = some rows → ToldApart (found query window rows)) :
    answer? connection query window = connection.rows.bind (totals? query window) := by
  rw [answer?, htable, answer?_statement]
  cases hrows : connection.rows with
  | none =>
    have hquery : (Interpreter.ofDepth (294 + 10)).query (windowSetting query window [])
        totalsQuery = none := query_totals_none rfl
    simp only [Option.map_none, Option.toList_none, hquery]
    rfl
  | some rows =>
    have hquery : (Interpreter.ofDepth (294 + 10)).query (windowSetting query window [tableOf rows])
        totalsQuery = some (windowSelected query window rows).relation := query_totals rfl rfl
    have htotals := rows?_windowSelected (hapart rows hrows)
    simp only [Option.map_some, Option.toList_some, hquery, Option.bind_some]
    show ((windowSelected query window rows).rows? []).bind (·.mapM totalOf?) = _
    rw [htotals, bind_mapM]
    simp only [bind_totalOf?]
    rfl

/-- The totals of a query are what the statement answers, on the stored table and on any other. -/
theorem totalsOf?_eq_answer? {connection : Connection} {query : Query} {window : Window}
    (htable : Text.sameButAsciiCase connection.table storedTable = true →
      connection.table = storedTable)
    (hapart : ∀ rows, connection.rows = some rows → ToldApart (found query window rows)) :
    totalsOf? connection query window = answer? connection query window := by
  rw [totalsOf?]
  split
  · next hname => rw [answer?_storedTable (htable hname) hapart]
  · rfl

end Backend.Warehouse

end StreamAudit
