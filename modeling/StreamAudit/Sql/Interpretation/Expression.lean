import StreamAudit.Sql.Aggregate
import StreamAudit.Sql.Cast
import StreamAudit.Sql.Function.Basic
import StreamAudit.Sql.Interpretation.Basic

/-!
The meaning of expressions. A conjunction with a false part is false whatever the other part says. A
row of expressions, or a query with several columns, stands only where rows are compared. A value is
looked for among expressions by its own preference and collation alone, but among the rows of a
query by both.
-/

set_option autoImplicit false
set_option relaxedAutoImplicit false

namespace StreamAudit.Sql

open StreamAudit.Number StreamAudit.Text

/-- Whether an expression is written as a falsehood. -/
def Expr.isFalse : Expr → Bool
  | .integer n => n == 0
  | .among _ [] => true
  | .and left right => left.isFalse || right.isFalse
  | _ => false

namespace Meaning

/-- The meaning of a column of the first row of a query, null without rows. -/
def ofFirst (relation : Relation) (heading : Heading) (place : Nat) : Meaning where
  value around := (relation.rows around.frames).map fun rows ↦
    (rows.head?.bind fun row ↦ row[place]?).getD .null
  affinity := heading.affinity

/-- The meaning of a range with both of its ends. -/
def between (value low high : List Meaning) : Meaning :=
  let above := compared .atLeast value low
  let below := compared .atMost value high
  combined (value ++ low ++ high) fun around ↦ do
    pure (.ofTruth (both (← above.value around).truth? (← below.value around).truth?))

/-- The meaning of a search among expressions. -/
def among (value : Meaning) (members : List Meaning) : Meaning :=
  let plain := members.map fun member ↦ { member with affinity := .nothing, collation := none }
  combined (value :: members) fun around ↦ do
    let sought ← value.value around
    let found ← values plain around
    pure (.ofTruth (anyOf (found.map fun (member, other) ↦
      (value.order? member sought other).map (· == .eq))))

/-- The meaning of a search among the rows of a query. -/
def within (value : List Meaning) (relation : Relation) : Meaning :=
  let columns := relation.headings.map fun heading ↦
    { constant .null with
      affinity := heading.affinity
      collation := heading.collation
      isExplicit := heading.isExplicit }
  combined value fun around ↦ do
    let sought ← values value around
    let rows ← relation.rows around.frames
    pure (.ofTruth (anyOf (rows.map fun row ↦ compareRows .equal sought (columns.zip row))))

/-- The value of the first branch whose condition holds. -/
def firstBranch (holds : Meaning → Surroundings → Option Bool) (otherwise : Option Meaning)
    (around : Surroundings) : List (Meaning × Meaning) → Option Value
  | [] => match otherwise with
    | some meaning => meaning.value around
    | none => some .null
  | (condition, result) :: rest => do
    if ← holds condition around then result.value around
    else firstBranch holds otherwise around rest

/-- The meaning of a choice between branches. -/
def choice (base : Option Meaning) (branches : List (Meaning × Meaning))
    (otherwise : Option Meaning) :
    Meaning :=
  let parts :=
    base.toList ++ branches.flatMap (fun branch ↦ [branch.1, branch.2]) ++ otherwise.toList
  combined parts fun around ↦
    match base with
    | none => firstBranch holds otherwise around branches
    | some base => do
      let given ← base.value around
      firstBranch
        (fun condition around ↦ (condition.value around).map fun other ↦
          base.order? condition given other == some .eq)
        otherwise around branches

/-- The first value that is not null. -/
def firstPresent (around : Surroundings) : List Meaning → Option Value
  | [] => some .null
  | meaning :: rest => do
    let value ← meaning.value around
    if value = .null then firstPresent around rest else pure value

/-- The meaning of a call of a function on values. -/
def applied (function : Function) (arguments : List Meaning) : Meaning :=
  let collation := (arguments.findSome? Meaning.collation).getD .binary
  combined arguments fun around ↦ do
    function.apply collation (← arguments.mapM fun argument ↦ argument.value around)

end Meaning

namespace Interpreter

variable (inner : Interpreter) (setting : Setting)

/-- The meanings of the values of an expression that may be a row. -/
def operands : Expr → Option (List Meaning)
  | .row members => members.mapM (inner.expr setting)
  | .scalar query => do
    let relation ← inner.query setting query
    pure (relation.headings.zipIdx.map fun (heading, place) ↦ .ofFirst relation heading place)
  | other => (inner.expr setting other).map fun meaning ↦ [meaning]

/-- The meanings of two expressions with as many values. -/
def sides (left right : Expr) : Option (List Meaning × List Meaning) := do
  let lefts ← inner.operands setting left
  let rights ← inner.operands setting right
  guard (lefts.length = rights.length)
  pure (lefts, rights)

/-- The meaning of a name. -/
def name (path : List String) (mayBeText isWord : Bool) : Option Meaning := do
  match ← Meaning.ofName? path 0 setting.scopes, path with
  | some meaning, _ => some { meaning with height := path.length }
  | none, [word] =>
    if mayBeText then some (.constant (.text word))
    else if isWord && sameButAsciiCase word "true" then
      some { Meaning.constant (.whole 1) with truth := some true }
    else if isWord && sameButAsciiCase word "false" then
      some { Meaning.constant (.whole 0) with truth := some false }
    else none
  | none, _ => none

/-- The meaning of a test whether two expressions are the same, or whether one holds. -/
def identity (left right : Expr) : Option Meaning := do
  let (lefts, rights) ← inner.sides setting left right
  match lefts, rights with
  | [left], [right] =>
    match right.truth with
    | some truth => pure (left.map fun value ↦ .ofTruth (some (value.truth? == some truth)))
    | none => pure (.identity lefts rights)
  | _, _ => pure (.identity lefts rights)

/-- The arguments of a function of rows put together, for each row that fulfils a condition. -/
def argumentsOf (arguments : List Meaning) (condition : Option Meaning) (outer : List Frame)
    (rows : List Row) : Option (List (List Value)) :=
  rows.foldrM
    (fun row found ↦ do
      let around : Surroundings := { frames := ⟨row, []⟩ :: outer }
      let isTaken ← match condition with
        | some condition => condition.holds around
        | none => some true
      if isTaken then pure ((← arguments.mapM fun argument ↦ argument.value around) :: found)
      else pure found)
    []

/-- Lists of arguments, each once if distinct ones are asked for. -/
def counted (isDistinct : Bool) (collation : Collation) (rows : List (List Value)) :
    List (List Value) :=
  if isDistinct then
    (SortKey.firsts [⟨collation, false, none⟩] (rows.map fun row ↦ (row, ()))).map Prod.fst
  else rows

/-- The value of a function of rows put together. -/
def aggregateValue (function : Aggregate) (isDistinct : Bool) (arguments : List Meaning)
    (condition : Option Meaning) (outer : List Frame) (rows : List Row) : Option Value := do
  let collation := (arguments.findSome? Meaning.collation).getD .binary
  function.apply collation
    (counted isDistinct collation (← argumentsOf arguments condition outer rows))

/-- The row in which a function of rows put together finds its extreme value. -/
def extremeLead (arguments : List Meaning) (direction : Ordering) : Lead := fun outer rows ↦ do
  let collation := (arguments.findSome? Meaning.collation).getD .binary
  let found ← argumentsOf arguments none outer rows
  pure rows[Aggregate.extremePlace direction collation (found.map fun row ↦ row.headD .null)]?

/-- A function of rows put together whose arguments have their meanings. -/
def aggregate (function : Aggregate) (isDistinct : Bool) (arguments : List Meaning)
    (condition : Option Meaning) : Meaning :=
  { Meaning.combined arguments fun around ↦ match around.frames with
      | frame :: outer => aggregateValue function isDistinct arguments condition outer frame.group
      | [] => none with
    usesGroup := true
    lead := function.isExtreme.map (extremeLead arguments) }

/-- The meaning of a function of rows put together. -/
def aggregated (function : Aggregate) (isDistinct : Bool) (arguments : List Expr)
    (condition : Option Expr) : Option Meaning :=
  match setting.scopes with
  | [] => none
  | scope :: outer => do
    guard (scope.admitsGroups && (!isDistinct || arguments.length = 1))
    let rowSetting :=
      { setting with scopes := { scope with admitsGroups := false, admitsPeers := false } :: outer }
    let meanings ← arguments.mapM (inner.expr rowSetting)
    guard ((meanings.filterMap Meaning.level).min?.all (· = 0))
    pure (aggregate function isDistinct meanings (← condition.mapM (inner.expr rowSetting)))

/-- The meaning of a call without peers. -/
def call (function : String) (isDistinct : Bool) (arguments : List Expr) (condition : Option Expr) :
    Option Meaning := do
  let isNamed (name : String) : Bool := sameButAsciiCase function name
  match Aggregate.find? function arguments.length with
  | some found => inner.aggregated setting found isDistinct arguments condition
  | none =>
    guard condition.isNone
    let meanings ← arguments.mapM (inner.expr setting)
    if isNamed "coalesce" && 2 ≤ meanings.length || isNamed "ifnull" && meanings.length = 2 then
      pure (.combined meanings fun around ↦ Meaning.firstPresent around meanings)
    else
      match isNamed "iif", meanings with
      | true, [condition, result, other] => pure (.choice none [(condition, result)] (some other))
      | _, _ => (Function.find? function meanings.length).map fun found ↦ .applied found meanings

/-- The meaning of a choice between branches. -/
def choice (base : Option Expr) (branches : List (Expr × Expr)) (otherwise : Option Expr) :
    Option Meaning := do
  let base ← base.mapM (inner.expr setting)
  let branches ← branches.mapM fun branch ↦ do
    pure (← inner.expr setting branch.1, ← inner.expr setting branch.2)
  pure (.choice base branches (← otherwise.mapM (inner.expr setting)))

end Interpreter

end StreamAudit.Sql
