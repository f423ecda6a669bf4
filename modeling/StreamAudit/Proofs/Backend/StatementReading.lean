import StreamAudit.Backend.Warehouse
import StreamAudit.Proofs.Sql.Placeholder

/-!
The statement of the warehouse as it is read. Its parameters are the five of a query, in order
(`resolve_statement`), and its tokens make up the query that groups the distinct rows of the stored
table by their log time (`ofTokens?_statement`).
-/

set_option autoImplicit false
set_option relaxedAutoImplicit false

namespace StreamAudit.Backend.Warehouse

open StreamAudit.Sql StreamAudit.Sql.Placeholder

/-! ### The parameters -/

/-- The statement up to its first parameter. -/
def statementFront (table : String) : List Char :=
  "SELECT log_ts, sum(count) AS total, sum(delay) AS total_delay FROM (SELECT DISTINCT ".toList ++
    List.intercalate ", ".toList (columns.map String.toList) ++ " FROM ".toList ++ table.toList ++
    " WHERE inlong_group_id = ".toList

/-- The parameters of the statement, with what follows each. -/
def statementFields : List Field :=
  [⟨"group_id".toList, " AND inlong_stream_id = ".toList⟩,
    ⟨"stream_id".toList, " AND audit_id = ".toList⟩,
    ⟨"audit_id".toList, " AND log_ts >= ".toList⟩,
    ⟨"start_ts".toList, " AND log_ts < ".toList⟩,
    ⟨"end_ts".toList, ") AS sub GROUP BY log_ts ORDER BY log_ts".toList⟩]

/-- The names of the parameters. -/
def parameterNames : List String :=
  ["group_id", "stream_id", "audit_id", "start_ts", "end_ts"]

/-- The statement on the stored table with question marks for its parameters. -/
def markedStatement : List Char :=
  statementFront storedTable ++ marked statementFields

-- Literals are made lists before anything is evaluated; definitions are unfolded, not rewritten,
-- since their equations are slow to state.

theorem toList_conditions :
    " WHERE inlong_group_id = :group_id AND inlong_stream_id = :stream_id".toList ++
      (" AND audit_id = :audit_id AND log_ts >= :start_ts AND log_ts < :end_ts) AS sub".toList ++
        " GROUP BY log_ts ORDER BY log_ts".toList) =
      " WHERE inlong_group_id = ".toList ++ written statementFields := by
  unfold statementFields
  simp only [String.reduceToList]
  decide +kernel

theorem toList_statement (table : String) :
    (statement table).toList = statementFront table ++ written statementFields := by
  unfold statement statementFront
  simp only [String.toList_append, String.toList_intercalate, List.append_assoc, toList_conditions]

theorem getLast?_statementFront (table : String) : (statementFront table).getLast? = some ' ' := by
  unfold statementFront
  simp only [List.getLast?_append, String.reduceToList]
  rfl

theorem standBehind_statementFields : standBehind (some ' ') statementFields = true := by
  unfold statementFields
  simp only [standBehind, admits, isNameChar_eq_any, String.reduceToList]
  decide +kernel

theorem names_statementFields :
    statementFields.map (fun field ↦ String.ofList field.name) = parameterNames := by
  unfold statementFields
  simp only [List.map_cons, List.map_nil, String.ofList_toList, parameterNames]

/-- Nothing but the parameters has a colon, and nothing is kept by a backslash. -/
theorem plain_markedStatement :
    (markedStatement.all fun c ↦ c != ':' && c != '\\' && c != Char.ofNat 0) = true := by
  unfold markedStatement statementFront columns storedTable statementFields
  simp only [List.map_cons, List.map_nil, String.reduceToList]
  decide +kernel

theorem notMem_markedStatement {c : Char} (hc : c = ':' ∨ c = '\\' ∨ c = Char.ofNat 0) :
    c ∉ markedStatement := by
  intro hmem
  have hplain := List.all_eq_true.mp plain_markedStatement c hmem
  rcases hc with rfl | rfl | rfl <;> exact absurd hplain (by decide)

/-- The statement on the stored table has the five parameters of a query. -/
theorem resolve_statement :
    resolve (statement storedTable) = (String.ofList markedStatement, parameterNames) := by
  have hfront : ':' ∉ statementFront storedTable := fun hmem ↦
    notMem_markedStatement (.inl rfl) (List.mem_append_left _ hmem)
  have hfields : standBehind (statementFront storedTable).getLast? statementFields = true := by
    rw [getLast?_statementFront]
    exact standBehind_statementFields
  rw [← String.ofList_toList (s := statement storedTable), toList_statement,
    resolve_marked hfront hfields (notMem_markedStatement (.inr (.inl rfl))), names_statementFields]
  rfl

/-! ### The tokens -/

/-- The tokens of the columns. -/
def columnTokens : List Token :=
  (columns.map Token.word).intersperse (.mark ",")

/-- The tokens in front of the columns. -/
def tokensBefore : List Token :=
  [.word "SELECT", .word "log_ts", .mark ",", .word "sum", .mark "(", .word "count", .mark ")",
    .word "AS", .word "total", .mark ",", .word "sum", .mark "(", .word "delay", .mark ")",
    .word "AS", .word "total_delay", .word "FROM", .mark "(", .word "SELECT", .word "DISTINCT"]

/-- The tokens behind the columns. -/
def tokensBehind : List Token :=
  [.word "FROM", .word "audit_data", .word "WHERE", .word "inlong_group_id", .mark "=", .place 1,
    .word "AND", .word "inlong_stream_id", .mark "=", .place 2, .word "AND", .word "audit_id",
    .mark "=", .place 3, .word "AND", .word "log_ts", .mark ">=", .place 4, .word "AND",
    .word "log_ts", .mark "<", .place 5, .mark ")", .word "AS", .word "sub", .word "GROUP",
    .word "BY", .word "log_ts", .word "ORDER", .word "BY", .word "log_ts"]

/-- The tokens of the statement. -/
def statementTokens : List Token :=
  tokensBefore ++ columnTokens ++ tokensBehind

theorem tokens?_markedStatement :
    tokens? (String.ofList markedStatement) = some (statementTokens, 5) := by
  have hread : (Token.readAll? markedStatement.length markedStatement).bind (Token.numbered? []) =
      some (statementTokens, 5) := by
    unfold markedStatement statementFront columns storedTable statementFields
    simp only [List.map_cons, List.map_nil, String.reduceToList]
    decide +kernel
  rw [tokens?, ← String.length_toList, String.toList_ofList,
    if_neg (by simpa using notMem_markedStatement (.inr (.inr rfl)))]
  exact hread

/-! ### The query -/

/-- A column by its name. -/
def named (name : String) : Expr :=
  .name [name] false true

/-- What the rows of a query fulfil. -/
def condition : Expr :=
  .and
    (.and
      (.and
        (.and (.compare .equal (named "inlong_group_id") (.place 1))
          (.compare .equal (named "inlong_stream_id") (.place 2)))
        (.compare .equal (named "audit_id") (.place 3)))
      (.compare .atLeast (named "log_ts") (.place 4)))
    (.compare .less (named "log_ts") (.place 5))

/-- The distinct rows of a query. -/
def rowsQuery : Sql.Query :=
  .mk [] (.selection true (columns.map fun name ↦ .value (named name) none)
    (some (.table [storedTable] none)) (some condition) [] none []) [] none none

/-- The sum of a column. -/
def summed (column : String) : Expr :=
  .call "sum" false [named column] none none

/-- The sums of the distinct rows of a query for every log time. -/
def totalsQuery : Sql.Query :=
  .mk []
    (.selection false
      [.value (named "log_ts") none, .value (summed "count") (some "total"),
        .value (summed "delay") (some "total_delay")]
      (some (.query rowsQuery (some "sub"))) none [named "log_ts"] none [])
    [.mk (named "log_ts") false none] none none

set_option maxRecDepth 20000 in
/-- The tokens make up the query of the sums. -/
theorem ofTokens?_statement : Sql.Query.ofTokens? statementTokens = some totalsQuery :=
  rfl

end StreamAudit.Backend.Warehouse
