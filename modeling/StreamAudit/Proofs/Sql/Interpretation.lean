import Mathlib.Data.Option.Basic
import StreamAudit.Proofs.Traversal
import StreamAudit.Sql.Interpretation.Query

/-!
What the phrases of a statement come to that compares columns with parameters and sums columns up. A
name means its column (`expr_name`), a comparison with a parameter has the truth of the texts
(`value_compared`), and the sum of a column skips nulls (`value_sum`).
-/

set_option autoImplicit false
set_option relaxedAutoImplicit false

namespace StreamAudit.Sql

/-! ### Values -/

theorem Value.truth?_ofTruth (truth : Option Bool) : (Value.ofTruth truth).truth? = truth := by
  rcases truth with _ | _ | _ <;> rfl

theorem Value.measure_ofMeasure (measure : Measure) :
    (Value.ofMeasure measure).measure = measure := by
  cases measure <;> rfl

theorem both_beq_some_true (a b : Option Bool) :
    (both a b == some true) = ((a == some true) && (b == some true)) := by
  rcases a with _ | _ | _ <;> rcases b with _ | _ | _ <;> rfl

/-- A sum is not changed by the nulls in front of it and in it. -/
theorem foldl_add_present (sum : RunningSum) (values : List Value) :
    ((values.filter (· ≠ .null)).map Value.measure).foldl RunningSum.add sum =
      (values.map Value.measure).foldl RunningSum.add sum := by
  induction values generalizing sum with
  | nil => rfl
  | cons value rest ih =>
    by_cases hnull : value = .null
    · subst hnull
      exact ih sum
    · rw [List.filter_cons_of_pos (by simpa using hnull)]
      exact ih _

/-! ### Rows put together -/

namespace Interpreter

theorem argumentsOf_none {arguments : List Meaning} {outer : List Frame} {rows : List Row}
    {value : Row → List Value}
    (h : ∀ row ∈ rows, (arguments.mapM fun argument ↦
      argument.value { frames := ⟨row, []⟩ :: outer }) = some (value row)) :
    argumentsOf arguments none outer rows = some (rows.map value) := by
  induction rows with
  | nil => rfl
  | cons row rest ih =>
    obtain ⟨hrow, hrest⟩ := List.forall_mem_cons.mp h
    have hfound := ih hrest
    rw [argumentsOf] at hfound ⊢
    rw [List.foldrM_cons, hfound]
    simp only [Option.bind_eq_bind, Option.bind_some, hrow]
    rfl

end Interpreter

/-! ### Meanings -/

namespace Meaning

variable {column : Column} {place : Nat} {frame : Frame} {outer : List Frame}
    {around : Surroundings}

theorem value_ofColumn (haround : around.frames = frame :: outer) :
    (ofColumn 0 column place).value around = some ((frame.row[place]?).getD .null) := by
  have hvalue : (ofColumn 0 column place).value around =
      some ((around.frames[0]?.bind fun frame ↦ frame.row[place]?).getD .null) := rfl
  rw [hvalue, haround]
  rfl

/-- A column of texts is compared with a text character by character; a null is not. -/
theorem order?_ofText? {left right : Meaning} (hleft : left.affinity = .texts)
    (hright : right.affinity = .nothing) (hcollation : left.collationWith right = .binary)
    (text : Option String) (other : String) :
    left.order? right (.ofText? text) (.text other) = text.map fun s ↦ compare s other := by
  cases text <;>
    simp [order?, align, hleft, hright, hcollation, Value.ofText?, Value.order?, Value.asText,
      Value.order, Collation.key, eitherIsText]

/-- A comparison of a column of texts with a parameter has the truth of the texts, null for a
null. -/
theorem value_compared {comparison : Comparison} {text : Option String} {other : String}
    (htexts : column.affinity = .texts) (hcollation : column.collation = some .binary)
    (haround : around.frames = frame :: outer) (htext : frame.row[place]? = some (.ofText? text)) :
    (compared comparison [ofColumn 0 column place] [constant (.text other)]).value around =
      some (.ofTruth (text.map fun s ↦ comparison.holds (compare s other))) := by
  have horder :
      (ofColumn 0 column place).order? (constant (.text other)) (.ofText? text) (.text other) =
      text.map fun s ↦ compare s other :=
    order?_ofText? htexts rfl (by simp [collationWith, ofColumn, constant, hcollation]) text other
  have hleft : values [ofColumn 0 column place] around =
      some [(ofColumn 0 column place, .ofText? text)] := by
    rw [values, List.mapM_cons, value_ofColumn haround, htext]
    rfl
  have hright : values [constant (.text other)] around =
      some [(constant (.text other), .text other)] := rfl
  simp only [compared, combined, hleft, hright, Option.bind_eq_bind, Option.bind_some,
    Option.pure_def, compareRows, horder, List.isEmpty_nil, if_true, Option.map_map]
  rfl

/-- Both parts of a conjunction count for its truth. -/
theorem holds_map₂_both {left right : Meaning} {first second : Option Bool}
    (hleft : left.value around = some (.ofTruth first))
    (hright : right.value around = some (.ofTruth second)) :
    (map₂ (fun a b ↦ .ofTruth (both a.truth? b.truth?)) left right).value around =
      some (.ofTruth (both first second)) := by
  simp only [map₂, combined, hleft, hright, Option.bind_eq_bind, Option.bind_some, Option.pure_def,
    Value.truth?_ofTruth]

end Meaning

namespace Interpreter

variable {setting : Setting} {scope : Scope} {depth : Nat} {column : Column} {place : Nat}
  {name : String}

theorem expr_name (h : scope.column? [name] = some (some (column, place))) :
    (ofDepth (depth + 1)).expr (setting.within scope) (.name [name] false true) =
      some (.ofColumn 0 column place) := by
  have hname : Interpreter.name (setting.within scope) [name] false true =
      some (.ofColumn 0 column place) := by
    simp only [Interpreter.name, Setting.within, Meaning.ofName?, h]
    rfl
  show (Interpreter.name (setting.within scope) [name] false true).filter _ = _
  rw [hname]
  rfl

theorem expr_compare {comparison : Comparison} {index : Nat}
    (h : scope.column? [name] = some (some (column, place))) :
    (ofDepth (depth + 2)).expr (setting.within scope)
        (.compare comparison (.name [name] false true) (.place index)) =
      some (.compared comparison [.ofColumn 0 column place]
        [.constant ((setting.parameters[index - 1]?).getD .null)]) := by
  have hsides : (ofDepth (depth + 1)).sides (setting.within scope) (.name [name] false true)
      (.place index) = some ([.ofColumn 0 column place],
        [.constant ((setting.parameters[index - 1]?).getD .null)]) := by
    simp only [sides, operands, expr_name h]
    rfl
  show (meaning (ofDepth (depth + 1)) _ _).filter _ = _
  simp only [meaning, hsides]
  rfl

/-- A conjunction of parts that are not written as falsehoods. -/
theorem expr_and {left right : Expr} {first second : Meaning}
    (hleft : (ofDepth depth).expr setting left = some first)
    (hright : (ofDepth depth).expr setting right = some second)
    (hfalse : (left.isFalse || right.isFalse) = false)
    (hheight : max (max 0 first.height) second.height + 1 ≤ greatestHeight) :
    (ofDepth (depth + 1)).expr setting (.and left right) =
      some (.map₂ (fun a b ↦ .ofTruth (both a.truth? b.truth?)) first second) := by
  show (meaning (ofDepth depth) _ _).filter _ = _
  simp only [meaning, hfalse, hleft, hright]
  exact if_pos (decide_eq_true hheight)

theorem expr_sum (hadmits : scope.admitsGroups = true)
    (h : ({ scope with admitsGroups := false, admitsPeers := false } : Scope).column? [name] =
      some (some (column, place))) :
    (ofDepth (depth + 2)).expr (setting.within scope)
        (.call "sum" false [.name [name] false true] none none) =
      some (aggregate .sum false [.ofColumn 0 column place] none) := by
  have hfind : Aggregate.find? "sum" 1 = some .sum := by
    have hcount : Text.sameButAsciiCase "count" "sum" = false := by decide +kernel
    have hsum : Text.sameButAsciiCase "sum" "sum" = true := by decide +kernel
    simp [Aggregate.find?, Aggregate.all, Aggregate.sum, hcount, hsum]
  have hname : (ofDepth (depth + 1)).expr
      { setting with scopes := { scope with admitsGroups := false, admitsPeers := false } ::
        setting.scopes } (.name [name] false true) = some (.ofColumn 0 column place) :=
    expr_name h
  show (meaning (ofDepth (depth + 1)) _ _).filter _ = _
  simp only [meaning, call, List.length_singleton, hfind, aggregated, Setting.within, hadmits,
    List.mapM_cons, List.mapM_nil, hname]
  rfl

/-- What is neither the number of a result nor a function of rows put together may be grouped by. -/
theorem groupKey_of_expr {inner : Interpreter} {outputs : List Output} {key : Expr}
    {found : Meaning} (hnumber : key.number? = none) (hexpr : inner.expr setting key = some found)
    (hplain : (found.usesGroup || found.usesPeers) = false) :
    inner.groupKey setting outputs key = some found := by
  rw [groupKey, hnumber]
  simp only [hexpr, Option.bind_eq_bind, Option.bind_some, hplain]
  rfl

/-- A name that no result has is looked up among the columns. -/
theorem termMeaning_name {inner : Interpreter} {outputs : List Output} {mayBeText isWord : Bool}
    (hnone : ((Output.named outputs).find? fun output ↦ Text.sameButAsciiCase output.1 name) =
      none) :
    inner.termMeaning setting outputs (.name [name] mayBeText isWord) =
      inner.expr setting (.name [name] mayBeText isWord) := by
  rw [termMeaning, hnone]

/-- Nothing is selected from what is not there. -/
theorem selected?_of_origin_none {inner : Interpreter} {isDistinct : Bool} {results : List Result}
    {origin : Origin} {condition : Option Expr} {groups : List Expr} {having : Option Expr}
    {clauses : List (String × PeerClause)} {terms : List Term}
    (h : inner.origin setting origin = none) :
    inner.selected? setting isDistinct results (some origin) condition groups having clauses terms =
      none := by
  rw [selected?]
  simp only [h]
  rfl

/-- A query that is a selection, without names of its own and without limits, has its rows. -/
theorem queryRelation_selection (inner : Interpreter) (isDistinct : Bool) (results : List Result)
    (origin : Option Origin) (condition : Option Expr) (groups : List Expr) (having : Option Expr)
    (clauses : List (String × PeerClause)) (terms : List Term) :
    queryRelation inner setting
        (.mk [] (.selection isDistinct results origin condition groups having clauses) terms
          none none) =
      (inner.selected? setting isDistinct results origin condition groups having clauses terms).map
        Selected.relation := by
  rw [queryRelation]
  simp only [List.foldl_nil, orderedRelation, selection, Option.mapM_none]
  cases inner.selected? setting isDistinct results origin condition groups having clauses terms with
  | none => rfl
  | some selected =>
    have hrows : (fun frames ↦ (selected.relation.rows frames).bind fun rows ↦
        Relation.limited none none rows frames) = selected.relation.rows := by
      funext frames
      exact Option.bind_fun_some _
    exact congrArg (fun rows ↦ some { selected.relation with rows }) hrows

/-- The sum of a column skips nulls, and there is none if it leaves its range. -/
theorem value_sum {around : Surroundings} {frame : Frame} {outer : List Frame}
    (haround : around.frames = frame :: outer) :
    (aggregate .sum false [.ofColumn 0 column place] none).value around =
      (sum? (frame.group.map fun row ↦ ((row[place]?).getD .null).measure)).map .ofMeasure := by
  have harguments : argumentsOf [.ofColumn 0 column place] none outer frame.group =
      some (frame.group.map fun row ↦ [(row[place]?).getD .null]) := by
    refine argumentsOf_none fun row _ ↦ ?_
    rw [List.mapM_cons, Meaning.value_ofColumn rfl]
    rfl
  have hvalue : (aggregate .sum false [.ofColumn 0 column place] none).value around =
      aggregateValue .sum false [.ofColumn 0 column place] none outer frame.group := by
    simp only [aggregate, Meaning.combined, haround]
  have hpresent : Aggregate.present (frame.group.map fun row ↦ [(row[place]?).getD .null]) =
      (frame.group.map fun row ↦ (row[place]?).getD .null).filter (· ≠ .null) := by
    rw [Aggregate.present, List.map_map]
    rfl
  rw [hvalue, aggregateValue, harguments]
  show (sum? ((Aggregate.present (frame.group.map _)).map Value.measure)).map Value.ofMeasure = _
  rw [hpresent, sum?, foldl_add_present, List.map_map]
  rfl

end Interpreter

end StreamAudit.Sql
