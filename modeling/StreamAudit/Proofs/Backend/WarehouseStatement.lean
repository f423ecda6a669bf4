import StreamAudit.Proofs.Backend.StatementReading
import StreamAudit.Proofs.Sql.Interpretation
import StreamAudit.Proofs.Sql.Scope
import StreamAudit.Proofs.Sql.Selection

/-!
What the statement of the warehouse means. The inner selection takes the distinct rows of the stored
table that fulfil the five conditions (`query_rows`), and the outer one sums them up for every log
time (`query_totals`). Without the table there is neither (`query_totals_none`).
-/

set_option autoImplicit false
set_option relaxedAutoImplicit false

namespace StreamAudit.Backend.Warehouse

open StreamAudit.Calendar StreamAudit.Number StreamAudit.Sql StreamAudit.Sql.Interpreter

variable {rows : List Row} {setting : Setting} {depth : Nat}

/-! ### The columns -/

/-- A column of the stored table. -/
def storedColumn (name : String) : Column where
  owners := [storedTable]
  isStored := true
  name := some name
  affinity := if measureColumns.contains name then .numbers else .texts

/-- The column of the numbers of the rows. -/
def numberColumn : Column where
  owners := [storedTable]
  isStored := true
  name := none
  affinity := .numbers
  collation := none
  access := .rowNumber

/-- The columns of the stored table. -/
def storedColumns : List Column :=
  columns.map storedColumn ++ [numberColumn]

/-- The stored rows, each with the number of its place. -/
def storedSource (rows : List Row) : Source where
  columns := storedColumns
  rows _ := some (rows.zipIdx.map fun (row, place) ↦ row.values ++ [.whole (place + 1)])

theorem distinct_columns : Distinct columns := by
  unfold Distinct columns folded
  simp only [List.map_cons, List.map_nil, String.reduceToList]
  decide +kernel

theorem getElem?_idxOf {name : String} (h : name ∈ columns) :
    columns[columns.idxOf name]? = some name :=
  List.getElem?_idxOf h

/-- A name means its column wherever the columns are those of the stored table. -/
theorem column?_stored {scope : Scope} (hscope : scope.columns = storedColumns)
    {name : String} (h : name ∈ columns) :
    scope.column? [name] = some (some (storedColumn name, columns.idxOf name)) :=
  column?_of_named distinct_columns hscope (fun _ ↦ ⟨rfl, rfl⟩) (by simp [numberColumn])
    (getElem?_idxOf h)

theorem source_table (htables : setting.tables = [tableOf rows]) :
    Interpreter.table setting [storedTable] none = some (storedSource rows) := by
  have hfind : setting.table? [storedTable] = some (tableOf rows) := by
    have hsame : Text.sameButAsciiCase storedTable storedTable = true :=
      sameButAsciiCase_iff.mpr rfl
    rw [Setting.table?, htables]
    simp [tableOf, hsame]
  rw [Interpreter.table, hfind]
  rfl

/-! ### The rows of a query -/

/-- A comparison of a column with a parameter. -/
def comparing (comparison : Comparison) (name text : String) : Meaning :=
  .compared comparison [.ofColumn 0 (storedColumn name) (columns.idxOf name)]
    [.constant (.text text)]

/-- A conjunction. -/
def conjunction (left right : Meaning) : Meaning :=
  .map₂ (fun a b ↦ .ofTruth (both a.truth? b.truth?)) left right

/-- What the rows of a query fulfil. -/
def conditionMeaning (query : Query) (start stop : String) : Meaning :=
  conjunction
    (conjunction
      (conjunction
        (conjunction (comparing .equal "inlong_group_id" query.groupId)
          (comparing .equal "inlong_stream_id" query.streamId))
        (comparing .equal "audit_id" query.auditId))
      (comparing .atLeast "log_ts" start))
    (comparing .less "log_ts" stop)

/-- The selection of the distinct rows of a query. -/
def rowsSelected (query : Query) (start stop : String) (rows : List Row) : Selected where
  source := storedSource rows
  condition := some (conditionMeaning query start stop)
  outputs := columns.map fun name ↦ ⟨.ofColumn 0 (storedColumn name) (columns.idxOf name), none⟩
  isDistinct := true

/-- The values of the parameters in their order. -/
def parameterValues (query : Query) (start stop : String) : List Value :=
  [.text query.groupId, .text query.streamId, .text query.auditId, .text start, .text stop]

section RowsQuery

variable {query : Query} {start stop : String}

theorem expr_condition {scope : Scope} (hscope : scope.columns = storedColumns)
    (hparameters : setting.parameters = parameterValues query start stop) :
    (ofDepth (depth + 6)).expr (setting.within scope) condition =
      some (conditionMeaning query start stop) := by
  have hpart :
      ∀ (comparison : Comparison) (name : String) (index : Nat) (text : String) (more : Nat),
      name ∈ columns → (parameterValues query start stop)[index - 1]? = some (.text text) →
      (ofDepth (more + 2)).expr (setting.within scope)
          (.compare comparison (Warehouse.named name) (.place index)) =
        some (comparing comparison name text) := by
    intro comparison name index text more hname hvalue
    rw [Warehouse.named, expr_compare (column?_stored hscope hname), hparameters, hvalue]
    rfl
  have hgroup := hpart .equal "inlong_group_id" 1 query.groupId depth (by simp [columns]) rfl
  have hstream := hpart .equal "inlong_stream_id" 2 query.streamId depth (by simp [columns]) rfl
  have haudit := hpart .equal "audit_id" 3 query.auditId (depth + 1) (by simp [columns]) rfl
  have hstart := hpart .atLeast "log_ts" 4 start (depth + 2) (by simp [columns]) rfl
  have hstop := hpart .less "log_ts" 5 stop (depth + 3) (by simp [columns]) rfl
  have hids := expr_and hgroup hstream rfl (Nat.le_of_ble_eq_true rfl)
  have hall := expr_and hids haudit rfl (Nat.le_of_ble_eq_true rfl)
  have hfrom := expr_and hall hstart rfl (Nat.le_of_ble_eq_true rfl)
  exact expr_and hfrom hstop rfl (Nat.le_of_ble_eq_true rfl)

theorem outputs_columns {scope : Scope} (hscope : scope.columns = storedColumns)
    (others : List Column) :
    (columns.map fun name ↦ Result.value (Warehouse.named name) none).mapM
        ((ofDepth (depth + 6)).outputs (setting.within scope) others) =
      some (columns.map fun name ↦
        [⟨.ofColumn 0 (storedColumn name) (columns.idxOf name), none⟩]) := by
  rw [List.mapM_map]
  refine mapM_eq_some fun name hname ↦ ?_
  have hexpr : (ofDepth (depth + 6)).expr (setting.within scope) (Warehouse.named name) =
      some (.ofColumn 0 (storedColumn name) (columns.idxOf name)) :=
    expr_name (column?_stored hscope hname)
  show ((ofDepth (depth + 6)).expr _ _).map _ = _
  rw [hexpr]
  rfl

theorem selected?_rows (htables : setting.tables = [tableOf rows])
    (hparameters : setting.parameters = parameterValues query start stop) :
    (ofDepth (depth + 6)).selected? setting true
        (columns.map fun name ↦ .value (Warehouse.named name) none)
        (some (.table [storedTable] none)) (some condition) [] none [] [] =
      some (rowsSelected query start stop rows) := by
  have horigin : (ofDepth (depth + 6)).origin setting (.table [storedTable] none) =
      some (storedSource rows) := source_table htables
  rw [selected?]
  simp only [horigin, Option.bind_eq_bind, Option.bind_some]
  rw [outputs_columns rfl, Option.bind_some]
  simp only [Option.mapM_none, Option.mapM_some]
  rw [expr_condition rfl hparameters]
  rfl

theorem query_rows (htables : setting.tables = [tableOf rows])
    (hparameters : setting.parameters = parameterValues query start stop) :
    (ofDepth (depth + 7)).query setting rowsQuery =
      some (rowsSelected query start stop rows).relation := by
  show queryRelation (ofDepth (depth + 6)) setting rowsQuery = _
  rw [rowsQuery, queryRelation_selection, selected?_rows htables hparameters]
  rfl

end RowsQuery

/-! ### The totals of a query -/

/-- A column of the distinct rows of a query. -/
def subColumn (name : String) : Column where
  owners := ["sub"]
  name := some name
  affinity := (storedColumn name).affinity

/-- A column of the distinct rows as a phrase. -/
def subMeaning (name : String) : Meaning :=
  .ofColumn 0 (subColumn name) (columns.idxOf name)

/-- The distinct rows of a query under the name that the statement gives them. -/
def subSource (query : Query) (start stop : String) (rows : List Row) : Source :=
  .ofRelation (rowsSelected query start stop rows).relation (some "sub")

/-- The selection of the totals of a query. -/
def totalsSelected (query : Query) (start stop : String) (rows : List Row) : Selected where
  source := subSource query start stop rows
  isGrouped := true
  keys := [subMeaning "log_ts"]
  outputs := [⟨subMeaning "log_ts", none⟩,
    ⟨aggregate .sum false [subMeaning "count"] none, some "total"⟩,
    ⟨aggregate .sum false [subMeaning "delay"] none, some "total_delay"⟩]
  terms := [(subMeaning "log_ts", .plain)]

section TotalsQuery

variable {query : Query} {start stop : String}

theorem columns_subSource : (subSource query start stop rows).columns = columns.map subColumn := by
  have hnames : (rowsSelected query start stop rows).relation.headings.map Heading.name =
      columns.map some := rfl
  rw [subSource, Source.ofRelation, hnames, Source.freshNames_map_some distinct_columns]
  rfl

/-- A name means its column among the distinct rows. -/
theorem column?_sub {scope : Scope} (hscope : scope.columns = columns.map subColumn)
    {name : String} (h : name ∈ columns) :
    scope.column? [name] = some (some (subColumn name, columns.idxOf name)) := by
  rw [← List.append_nil (columns.map subColumn)] at hscope
  exact column?_of_named distinct_columns hscope (fun _ ↦ ⟨rfl, rfl⟩) (by simp) (getElem?_idxOf h)

section Scope

variable {scope : Scope} (hscope : scope.columns = columns.map subColumn)
include hscope

theorem expr_sub {name : String} (h : name ∈ columns) :
    (ofDepth (depth + 1)).expr (setting.within scope) (Warehouse.named name) =
      some (subMeaning name) :=
  expr_name (column?_sub hscope h)

theorem expr_summed (hadmits : scope.admitsGroups = true) {name : String} (h : name ∈ columns) :
    (ofDepth (depth + 2)).expr (setting.within scope) (summed name) =
      some (aggregate .sum false [subMeaning name] none) :=
  expr_sum hadmits (column?_sub hscope h)

theorem outputs_totals (hadmits : scope.admitsGroups = true) (others : List Column) :
    [Result.value (Warehouse.named "log_ts") none, .value (summed "count") (some "total"),
        .value (summed "delay") (some "total_delay")].mapM
          ((ofDepth (depth + 2)).outputs (setting.within scope) others) =
      some ((totalsSelected query start stop rows).outputs.map fun output ↦ [output]) := by
  have hlog : (ofDepth (depth + 2)).expr (setting.within scope) (Warehouse.named "log_ts") =
      some (subMeaning "log_ts") := expr_sub hscope (by simp [columns])
  have hcount : (ofDepth (depth + 2)).expr (setting.within scope) (summed "count") = some _ :=
    expr_summed hscope hadmits (by simp [columns])
  have hdelay : (ofDepth (depth + 2)).expr (setting.within scope) (summed "delay") = some _ :=
    expr_summed hscope hadmits (by simp [columns])
  simp only [List.mapM_cons, List.mapM_nil, outputs, hlog, hcount, hdelay]
  rfl

theorem groupKey_logTime (outputs : List Output) :
    (ofDepth (depth + 1)).groupKey (setting.within scope) outputs (Warehouse.named "log_ts") =
      some (subMeaning "log_ts") :=
  groupKey_of_expr rfl (expr_sub hscope (by simp [columns])) rfl

/-- No result has the name of the log time, so the order goes by the column. -/
theorem termMeaning_logTime :
    (ofDepth (depth + 1)).termMeaning (setting.within scope)
        (totalsSelected query start stop rows).outputs (Warehouse.named "log_ts") =
      some (subMeaning "log_ts") := by
  have hunnamed : ((Output.named (totalsSelected query start stop rows).outputs).find? fun output ↦
      Text.sameButAsciiCase output.1 "log_ts") = none := by
    have htotal : Text.sameButAsciiCase "total" "log_ts" = false := by decide +kernel
    have hdelay : Text.sameButAsciiCase "total_delay" "log_ts" = false := by decide +kernel
    simp [totalsSelected, Output.named, htotal, hdelay]
  exact (termMeaning_name hunnamed).trans (expr_sub hscope (by simp [columns]))

end Scope

theorem selected?_totals (htables : setting.tables = [tableOf rows])
    (hparameters : setting.parameters = parameterValues query start stop) :
    (ofDepth (depth + 9)).selected? setting false
        [.value (Warehouse.named "log_ts") none, .value (summed "count") (some "total"),
          .value (summed "delay") (some "total_delay")]
        (some (.query rowsQuery (some "sub"))) none [Warehouse.named "log_ts"] none []
        [.mk (Warehouse.named "log_ts") false none] =
      some (totalsSelected query start stop rows) := by
  have horigin : (ofDepth (depth + 9)).origin setting (.query rowsQuery (some "sub")) =
      some (subSource query start stop rows) := by
    show ((ofDepth (depth + 8)).query setting rowsQuery).map _ = _
    rw [query_rows htables hparameters]
    rfl
  have hcolumns : (subSource query start stop rows).columns = columns.map subColumn :=
    columns_subSource
  have hflat : ((totalsSelected query start stop rows).outputs.map fun output ↦ [output]).flatten =
      (totalsSelected query start stop rows).outputs := rfl
  rw [selected?]
  simp only [horigin, Option.bind_eq_bind, Option.bind_some]
  rw [outputs_totals hcolumns rfl, Option.bind_some, hflat]
  simp only [List.mapM_cons, List.mapM_nil, Option.mapM_none]
  rw [termMeaning_logTime hcolumns, groupKey_logTime hcolumns]
  rfl

theorem query_totals (htables : setting.tables = [tableOf rows])
    (hparameters : setting.parameters = parameterValues query start stop) :
    (ofDepth (depth + 10)).query setting totalsQuery =
      some (totalsSelected query start stop rows).relation := by
  show queryRelation (ofDepth (depth + 9)) setting totalsQuery = _
  rw [totalsQuery, queryRelation_selection, selected?_totals htables hparameters]
  rfl

/-- Without tables there is nothing to select from. -/
theorem query_totals_none (htables : setting.tables = []) :
    (ofDepth (depth + 10)).query setting totalsQuery = none := by
  have htable : (ofDepth (depth + 7)).origin setting (.table [storedTable] none) = none := by
    show Interpreter.table setting [storedTable] none = none
    rw [Interpreter.table, Setting.table?, htables]
    rfl
  have hrows : (ofDepth (depth + 8)).query setting rowsQuery = none := by
    show queryRelation (ofDepth (depth + 7)) setting rowsQuery = _
    rw [rowsQuery, queryRelation_selection, selected?_of_origin_none htable]
    rfl
  have horigin : (ofDepth (depth + 9)).origin setting (.query rowsQuery (some "sub")) = none := by
    show ((ofDepth (depth + 8)).query setting rowsQuery).map _ = _
    rw [hrows]
    rfl
  show queryRelation (ofDepth (depth + 9)) setting totalsQuery = _
  rw [totalsQuery, queryRelation_selection, selected?_of_origin_none horigin]
  rfl

end TotalsQuery

end StreamAudit.Backend.Warehouse
