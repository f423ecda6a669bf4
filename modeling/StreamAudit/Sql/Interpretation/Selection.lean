import StreamAudit.Sql.Interpretation.Origin
import StreamAudit.Sql.Interpretation.Peers

/-!
The rows of a selection. Its results may be named, and what it sorts or groups by may be a result,
by its name or its number. If it asks for groups, or a result needs one, the rows that agree in what
it groups by are put together, and one of them stands for the others: the first, or the one where
the last least or greatest value was found.
-/

set_option autoImplicit false
set_option relaxedAutoImplicit false

namespace StreamAudit.Sql

open StreamAudit.Text

/-- The number that an expression is written as, if it is an integer. -/
def Expr.number? : Expr → Option Int
  | .integer n => some n
  | .negative operand => operand.number?.map (- ·)
  | .positive operand => operand.number?
  | _ => none

/-- A result of a selection, with the name that other parts of the selection can mean it by. -/
structure Output where
  meaning : Meaning
  given : Option String

namespace Output

/-- The heading of a result. -/
def heading (output : Output) : Heading where
  name := output.given <|> output.meaning.column
  affinity := output.meaning.affinity
  collation := output.meaning.collation
  isExplicit := output.meaning.isExplicit

/-- The result of a column. -/
def ofColumn (column : Column × Nat) : Output where
  meaning := .ofColumn 0 column.1 column.2
  given := column.1.name

/-- A result as other parts of the selection mean it, which do not look for its extreme value
again. -/
def repeated (output : Output) : Meaning :=
  { output.meaning with lead := none }

/-- The results that have names. -/
def named (outputs : List Output) : List (String × Meaning) :=
  outputs.filterMap fun output ↦ output.given.map fun name ↦ (name, output.repeated)

/-- The result of a number that counts from one. -/
def numbered? (outputs : List Output) (n : Int) : Option Meaning :=
  if n < 1 then none else (outputs[n.toNat - 1]?).map repeated

end Output

/-- How the rows of groups are sorted by what they agree in: in the directions that the selection is
sorted in, if it is sorted by as many expressions. -/
def groupOrder (keys : List Meaning) (terms : List SortKey) : List SortKey :=
  if keys.length = terms.length then
    List.zipWith (fun key term ↦ key.sortKey term.isDescending none) keys terms
  else keys.map fun key ↦ key.sortKey false none

/-- Rows in groups of those that agree in some expressions, in the order of their values. Without
expressions all rows are one group. -/
def groupRows (keys : List Meaning) (order : List SortKey) (outer : List Frame) (rows : List Row) :
    Option (List (List Row)) :=
  if keys.isEmpty then some [rows]
  else do
    let described ← rows.mapM fun row ↦ do
      pure (← Meaning.row keys { frames := ⟨row, []⟩ :: outer }, row)
    pure ((SortKey.groups order (SortKey.sorted order described)).map fun group ↦
      group.map Prod.snd)

/-- A group with the row that stands for it. -/
def groupFrame (lead : Option Lead) (width : Nat) (outer : List Frame) (group : List Row) :
    Option Frame := do
  let found ← match lead with
    | some lead => lead outer group
    | none => some group.head?
  pure ⟨found.getD (List.replicate width .null), group⟩

/-- A selection whose phrases have found their meanings: which rows of its source it keeps, what it
puts them together by, which groups it keeps, and what it gives out of them in which order. -/
structure Selected where
  source : Source
  condition : Option Meaning := none
  isGrouped : Bool := false
  keys : List Meaning := []
  having : Option Meaning := none
  outputs : List Output
  isDistinct : Bool := false
  terms : List (Meaning × SortKey) := []

namespace Selected

variable (selected : Selected)

/-- The headings of the results. -/
def headings : List Heading :=
  selected.outputs.map Output.heading

/-- The meanings of the results. -/
def meanings : List Meaning :=
  selected.outputs.map Output.meaning

/-- Whether a frame fulfils a condition, if there is one. -/
def keeps (condition : Option Meaning) (outer : List Frame) (frame : Frame) : Option Bool :=
  match condition with
  | some condition => condition.holds { frames := frame :: outer }
  | none => some true

/-- The row that stands for a group, where a result looks for an extreme value; the last one
counts. -/
def lead : Option Lead :=
  (selected.meanings ++ selected.terms.map Prod.fst ++ selected.having.toList).reverse.findSome?
    Meaning.lead

/-- The frames of rows: one for each row or for each group. -/
def frames? (outer : List Frame) (rows : List Row) : Option (List Frame) :=
  if selected.isGrouped then do
    let groups ← groupRows selected.keys (groupOrder selected.keys (selected.terms.map Prod.snd))
      outer rows
    groups.mapM (groupFrame selected.lead selected.source.columns.length outer)
  else some (rows.map fun row ↦ ⟨row, []⟩)

/-- The results for all frames, each with the values that it is sorted by. -/
def described? (outer peers : List Frame) : Option (List (Row × Row)) :=
  peers.zipIdx.mapM fun (frame, place) ↦ do
    let around : Surroundings := { frames := frame :: outer, peers, place }
    pure (← Meaning.row selected.meanings around,
      ← Meaning.row (selected.terms.map Prod.fst) around)

/-- The results in their order, each once if distinct ones are asked for. -/
def arranged (described : List (Row × Row)) : List Row :=
  let found := if selected.isDistinct then
    SortKey.firsts (selected.headings.map Heading.sortKey) described else described
  (SortKey.sorted (selected.terms.map Prod.snd) (found.map Prod.swap)).map Prod.snd

/-- The rows of the selection. -/
def rows? (outer : List Frame) : Option (List Row) := do
  let rows ← (← selected.source.rows outer).filterM fun row ↦
    keeps selected.condition outer ⟨row, []⟩
  let frames ← selected.frames? outer rows
  let peers ← frames.filterM (keeps selected.having outer)
  pure (selected.arranged (← selected.described? outer peers))

/-- The relation of the selection. -/
def relation : Relation where
  headings := selected.headings
  rows := selected.rows?

end Selected

namespace Interpreter

variable (inner : Interpreter) (setting : Setting)

/-- The results that one item of a selection asks for. -/
def outputs (columns : List Column) : Result → Option (List Output)
  | .all => do
    let free := columns.zipIdx.filter fun column ↦ column.1.access = .free
    guard !free.isEmpty
    pure (free.map Output.ofColumn)
  | .allOf table => do
    let owned := columns.zipIdx.filter fun column ↦
      column.1.belongsTo table && column.1.access ≠ .rowNumber
    guard !owned.isEmpty
    pure (owned.map Output.ofColumn)
  | .value value given => (inner.expr setting value).map fun meaning ↦ [⟨meaning, given⟩]

/-- The meaning of an expression to group by. -/
def groupKey (outputs : List Output) (key : Expr) : Option Meaning := do
  let meaning ← match key.number? with
    | some n => Output.numbered? outputs n
    | none => inner.expr setting key
  guard !(meaning.usesGroup || meaning.usesPeers)
  pure meaning

/-- The meaning of an expression to sort by. -/
def termMeaning (outputs : List Output) : Expr → Option Meaning
  | .collate operand name => do
    let meaning ← termMeaning outputs operand
    let collation ← Collation.ofName? name
    pure { meaning with collation := some collation, isExplicit := true }
  | .name [name] mayBeText isWord =>
    match (Output.named outputs).find? fun output ↦ sameButAsciiCase output.1 name with
    | some output => some output.2
    | none => inner.expr setting (.name [name] mayBeText isWord)
  | other =>
    match other.number? with
    | some n => Output.numbered? outputs n
    | none => inner.expr setting other

/-- A selection in some order with the meanings of its phrases. -/
def selected? (isDistinct : Bool) (results : List Result) (origin : Option Origin)
    (condition : Option Expr) (groups : List Expr) (having : Option Expr)
    (clauses : List (String × PeerClause)) (terms : List Term) : Option Selected := do
  let source ← match origin with
    | some origin => inner.origin setting origin
    | none => some .single
  let scope : Scope := { columns := source.columns, clauses }
  let outputs := (← results.mapM (inner.outputs
    (setting.within { scope with admitsGroups := true, admitsPeers := true })
      source.columns)).flatten
  let isGrouped := !groups.isEmpty || outputs.any fun output ↦ output.meaning.usesGroup
  let named : Scope := { scope with results := Output.named outputs }
  let having ← having.mapM fun having ↦ do
    guard isGrouped
    inner.expr (setting.within { named with admitsGroups := true }) having
  let condition ← condition.mapM (inner.expr (setting.within named))
  let termSetting := setting.within { named with admitsGroups := isGrouped, admitsPeers := true }
  let terms ← terms.mapM fun (.mk value isDescending nullsLast) ↦ do
    let meaning ← inner.termMeaning termSetting outputs value
    pure (meaning, meaning.sortKey isDescending nullsLast)
  let keys ← groups.mapM (inner.groupKey (setting.within named) outputs)
  pure { source, condition, isGrouped, keys, having, outputs, isDistinct, terms }

/-- The relation of a selection in some order. -/
def selection (isDistinct : Bool) (results : List Result) (origin : Option Origin)
    (condition : Option Expr) (groups : List Expr) (having : Option Expr)
    (clauses : List (String × PeerClause)) (terms : List Term) : Option Relation :=
  (inner.selected? setting isDistinct results origin condition groups having clauses terms).map
    Selected.relation

end Interpreter

end StreamAudit.Sql
