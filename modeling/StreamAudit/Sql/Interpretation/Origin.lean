import StreamAudit.Sql.Interpretation.Basic

/-!
The rows that a selection reads. A join puts every row on the left together with those on the right
that fulfil its condition, and may keep rows without a partner, with nulls beside them. Columns that
a join holds in common can be reached by their name alone once.
-/

set_option autoImplicit false
set_option relaxedAutoImplicit false

namespace StreamAudit.Sql

open StreamAudit.Text

/-- An origin in brackets as one without them. One in brackets that is not the first loses its
name. -/
def Origin.settled (isFirst : Bool) : Origin → Origin
  | .nested inside given =>
    let kept (old : Option String) : Option String := if isFirst && given.isNone then old else given
    match inside.settled true with
    | .table path old => .table path (kept old)
    | .query rows old => .query rows (kept old)
    | .nested pair old => .nested pair (kept old)
    | pair => .nested pair given
  | other => other

namespace Source

/-- A name that is not among others, with a number behind it if need be; the fuel bounds the
number. -/
def freshName (taken : List String) (name : String) : Nat → Nat → String
  | _, 0 => name
  | number, fuel + 1 =>
    let candidate := if number = 0 then name else name ++ ":" ++ toString number
    if taken.any (sameButAsciiCase candidate) then freshName taken name (number + 1) fuel
    else candidate

/-- The names found so far and those that are taken, with one more; what has no name gets none. -/
def withFreshName (state : List (Option String) × List String) (name : Option String) :
    List (Option String) × List String :=
  match name with
  | none => (state.1 ++ [none], state.2)
  | some name =>
    let fresh := freshName state.2 name 0 (state.2.length + 1)
    (state.1 ++ [some fresh], fresh :: state.2)

/-- Names of columns that are all different. -/
def freshNames (names : List (Option String)) : List (Option String) :=
  (names.foldl withFreshName ([], [])).1

/-- The source that a relation is under a name. -/
def ofRelation (relation : Relation) (given : Option String) : Source where
  columns := List.zipWith
    (fun heading name ↦
      { owners := given.toList, name, affinity := heading.affinity,
        collation := heading.collation })
    relation.headings (freshNames (relation.headings.map Heading.name))
  rows := relation.rows

/-- The columns that a name alone can mean. -/
def freeColumns (source : Source) (name : String) : List (Column × Nat) :=
  source.columns.zipIdx.filter fun pair ↦ pair.1.access = .free && pair.1.isNamed name

/-- A column that two sources hold in common, by its places in both. -/
structure Common where
  name : String
  left : Column × Nat
  right : Column × Nat

/-- The column of a name that two sources hold in common, nothing unless both hold one. -/
def common? (left right : Source) (name : String) : Option Common :=
  match left.freeColumns name, right.freeColumns name with
  | [first], [second] => some ⟨name, first, second⟩
  | _, _ => none

/-- The names that two sources hold in common. -/
def commonNames (left right : Source) : List String :=
  (right.columns.filter fun column ↦ column.access = .free).filterMap fun column ↦
    column.name.filter fun name ↦ !(left.freeColumns name).isEmpty

/-- Rows of two sources put together by a condition. -/
def paired (kind : JoinKind) (condition : Row → Option Bool) (left right : Source)
    (frames : List Frame) : Option (List Row) := do
  let lefts ← left.rows frames
  let rights ← right.rows frames
  let empty (source : Source) : Row := source.columns.map fun _ ↦ .null
  let matched ← lefts.mapM fun first ↦ do
    pure (first, ← rights.zipIdx.filterM fun second ↦ condition (first ++ second.1))
  let inner := matched.flatMap fun (first, partners) ↦
    if partners.isEmpty && kind.keepsLeft then [first ++ empty right]
    else partners.map fun second ↦ first ++ second.1
  let alone := rights.zipIdx.filter fun second ↦
    kind.keepsRight && !matched.any fun (_, partners) ↦ partners.any fun partner ↦
      partner.2 == second.2
  pure (inner ++ alone.map fun second ↦ empty left ++ second.1)

/-- The columns of two sources put together. -/
def pairedColumns (left right : Source) : List Column :=
  left.columns ++ right.columns

/-- The places of the columns of a join in a pair of rows, the second of two where the first is
null. -/
structure Place where
  column : Column
  first : Nat
  second : Option Nat := none

/-- The value at a place. -/
def Place.value (row : Row) (place : Place) : Value :=
  let found := (row[place.first]?).getD .null
  match place.second with
  | some other => if found = .null then (row[other]?).getD .null else found
  | none => found

/-- The columns of a join. Where the right keeps its rows, a common column is that of the right, or
of either. -/
def places (kind : JoinKind) (common : List Common) (left right : Source) : List Place :=
  let width := left.columns.length
  let onLeft := left.columns.zipIdx.flatMap fun (column, place) ↦
    match common.find? fun one ↦ one.left.2 == place with
    | some one =>
      if kind.keepsRight then
        let free := { one.right.1 with owners := [], isStored := false }
        [⟨{ column with access := .ownedOnly }, place, none⟩,
          if kind.keepsLeft then
            ⟨{ free with affinity := .nothing, collation := none }, place,
              some (width + one.right.2)⟩
          else ⟨free, width + one.right.2, none⟩]
      else [⟨column, place, none⟩]
    | none => [⟨column, place, none⟩]
  let onRight := right.columns.zipIdx.map fun (column, place) ↦
    if common.any fun one ↦ one.right.2 == place then
      ⟨{ column with access := .ownedOnly }, width + place, none⟩
    else ⟨column, width + place, none⟩
  onLeft ++ onRight

end Source

namespace Interpreter

variable (inner : Interpreter) (setting : Setting)

/-- The source of a table. -/
def table (path : List String) (given : Option String) : Option Source := do
  let table ← setting.table? path
  let source ← table.source setting.scopes
  pure (source.named (given <|> some table.name))

/-- A join in brackets: its tables keep their names, but not the numbers of their rows. -/
def nested (source : Source) (given : Option String) : Source :=
  { source with
    columns := source.columns.map fun column ↦
      if column.access = .rowNumber
        then { column with owners := [], name := none, access := .ownedOnly }
      else { column with owners := column.owners ++ given.toList } }

/-- The source of a join. -/
def join (kind : JoinKind) (left right : Source) (condition : Option Expr) (names : List String) :
    Option Source := do
  guard (!kind.isNatural || condition.isNone && names.isEmpty)
  let names := if kind.isNatural then Source.commonNames left right else names
  let common ← names.mapM (Source.common? left right)
  let scope : Scope := { columns := Source.pairedColumns left right }
  let condition ← condition.mapM (inner.expr (setting.within scope))
  let equalities := common.map fun one ↦
    Meaning.compared .equal [.ofColumn 0 one.left.1 one.left.2]
      [.ofColumn 0 one.right.1 (left.columns.length + one.right.2)]
  let conditions := condition.toList ++ equalities
  let places := Source.places kind common left right
  pure
    { columns := places.map Source.Place.column
      rows := fun frames ↦ do
        let rows ← Source.paired kind
          (fun row ↦ conditions.allM fun one ↦ one.holds { frames := ⟨row, []⟩ :: frames })
          left right frames
        pure (rows.map fun row ↦ places.map (Source.Place.value row)) }

/-- The source that an origin is. -/
def source (origin : Origin) : Option Source :=
  match origin.settled true with
  | .table path given => table setting path given
  | .query rows given => (inner.query setting rows).map fun relation ↦ .ofRelation relation given
  | .nested inside given => (inner.origin setting inside).map fun source ↦ nested source given
  | .join kind left right condition names => do
    let first ← inner.origin setting left
    let second ← inner.origin setting (right.settled false)
    inner.join setting kind first second condition names

end Interpreter

end StreamAudit.Sql
