import StreamAudit.Sql.Value
import StreamAudit.Text.LetterCase

/-!
Functions of all rows that were put together. Nulls are skipped by all of them but the count of
rows. The least and the greatest value also say which row they were found in.
-/

set_option autoImplicit false
set_option relaxedAutoImplicit false

namespace StreamAudit.Sql

open StreamAudit.Number StreamAudit.Text

/-- A function of the arguments of all rows, of which it takes some numbers; nothing comes of a sum
that leaves its range. -/
structure Aggregate where
  name : String
  least : Nat
  most : Nat
  apply : Collation → List (List Value) → Option Value
  isExtreme : Option Ordering := none

namespace Aggregate

/-- The first arguments that are not null. -/
def present (rows : List (List Value)) : List Value :=
  (rows.map fun row ↦ row.headD .null).filter (· ≠ .null)

/-- The number of rows, or of those whose argument is not null. -/
def count (rows : List (List Value)) : Value :=
  .whole (rows.filter fun row ↦ row.head? ≠ some .null).length

/-- The sum of doubles, one added after another. -/
def realSum (values : List Value) : Binary64 :=
  values.foldl
    (fun total value ↦ match value.measure with
      | .null => total
      | .whole n => total.add (.ofInt n)
      | .real x => total.add x)
    (.finite false 0)

/-- The mean, null of nothing. -/
def mean (rows : List (List Value)) : Value :=
  let values := present rows
  if values.isEmpty then .null else .ofReal ((realSum values).divide (.ofInt values.length))

/-- The texts of the first arguments, divided by the second ones. -/
def concat (rows : List (List Value)) : Value :=
  match rows.filter fun row ↦ row.head? ≠ some .null with
  | [] => .null
  | first :: rest =>
    let shown (row : List Value) : String := ((row.headD .null).text?).getD ""
    let mark (row : List Value) : String := match row[1]? with
      | none => ","
      | some value => value.text?.getD ""
    .text (rest.foldl (fun s row ↦ s ++ mark row ++ shown row) (shown first))

/-- Whether a value comes to be the extreme one beside the one so far. -/
def improves (direction : Ordering) (collation : Collation) (best value : Value) : Bool :=
  best = .null || Value.order collation value best == direction

/-- The extreme value that stands in a direction from all others. -/
def extreme (direction : Ordering) (collation : Collation) (rows : List (List Value)) :
    Option Value :=
  some ((present rows).foldl
    (fun best value ↦ if improves direction collation best value then value else best) .null)

/-- The place of the row where the extreme value was found; the last null in front counts where
nothing but nulls was seen. -/
def extremePlace (direction : Ordering) (collation : Collation) (values : List Value) : Nat :=
  (values.zipIdx.foldl
    (fun (best, place) (value, here) ↦
      if value = .null then (best, if best = .null then here else place)
      else if improves direction collation best value then (value, here)
      else (best, place))
    (Value.null, 0)).2

/-- The sum. -/
def sum : Aggregate where
  name := "sum"
  least := 1
  most := 1
  apply _ rows := (sum? ((present rows).map Value.measure)).map Value.ofMeasure

/-- All functions of rows that were put together. -/
def all : List Aggregate :=
  [⟨"count", 0, 1, fun _ rows ↦ some (count rows), none⟩, sum,
    ⟨"total", 1, 1, fun _ rows ↦ some (.ofReal (realSum (present rows))), none⟩,
    ⟨"avg", 1, 1, fun _ rows ↦ some (mean rows), none⟩,
    ⟨"group_concat", 1, 2, fun _ rows ↦ some (concat rows), none⟩,
    ⟨"min", 1, 1, extreme .lt, some .lt⟩, ⟨"max", 1, 1, extreme .gt, some .gt⟩]

/-- The function of a name that takes some number of arguments. -/
def find? (name : String) (count : Nat) : Option Aggregate :=
  all.find? fun function ↦
    sameButAsciiCase function.name name && function.least ≤ count && count ≤ function.most

end Aggregate

end StreamAudit.Sql
