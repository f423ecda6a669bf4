import StreamAudit.Sql.Scope
import StreamAudit.Sql.Syntax.Basic

/-!
Relations: rows of values under headings. Rows are sorted by values that belong to them, ascending
or descending, with nulls where they are asked for; rows that agree in every value count as one
where distinct rows are asked for; and the rows of two relations are put together to one.
-/

set_option autoImplicit false
set_option relaxedAutoImplicit false

namespace StreamAudit.Sql

/-- A row of values. -/
abbrev Row :=
  List Value

/-- The heading of a column. -/
structure Heading where
  name : Option String
  affinity : Affinity
  collation : Option Collation
  isExplicit : Bool := false

/-- A relation. Its rows may depend on the frames around it. -/
structure Relation where
  headings : List Heading
  rows : List Frame → Option (List Row)

/-- How rows are sorted by one value. -/
structure SortKey where
  collation : Collation
  isDescending : Bool := false
  nullsLast : Option Bool := none

namespace SortKey

/-- The order of two values. -/
def order (key : SortKey) (a b : Value) : Ordering :=
  let found :=
    if key.isDescending then Value.order key.collation b a else Value.order key.collation a b
  match key.nullsLast with
  | none => found
  | some last =>
    match decide (a = .null), decide (b = .null) with
    | true, false => if last then .gt else .lt
    | false, true => if last then .lt else .gt
    | _, _ => found

/-- The order of two rows by their values from the front. -/
def rowOrder : List SortKey → Row → Row → Ordering
  | key :: keys, a :: as, b :: bs => (key.order a b).then (rowOrder keys as bs)
  | _, _, _ => .eq

variable {α : Type}

/-- Things sorted by the rows that belong to them; what agrees keeps its order. -/
def sorted (keys : List SortKey) (things : List (Row × α)) : List (Row × α) :=
  things.mergeSort fun a b ↦ rowOrder keys a.1 b.1 != .gt

/-- The first of all things that agree in the rows that belong to them. -/
def firsts (keys : List SortKey) (things : List (Row × α)) : List (Row × α) :=
  things.foldl
    (fun found thing ↦ if found.any fun other ↦ rowOrder keys other.1 thing.1 == .eq then found
      else found ++ [thing])
    []

/-- Things in groups of those that agree in the rows that belong to them and stand together. -/
def groups (keys : List SortKey) : List (Row × α) → List (List (Row × α))
  | [] => []
  | thing :: rest =>
    match groups keys rest with
    | (next :: others) :: more =>
      if rowOrder keys thing.1 next.1 == .eq then (thing :: next :: others) :: more
      else [thing] :: (next :: others) :: more
    | _ => [[thing]]

end SortKey

namespace Heading

/-- How rows are sorted by a column. -/
def sortKey (heading : Heading) : SortKey where
  collation := heading.collation.getD .binary

/-- Rows that are distinct, in their order. -/
def distinct (headings : List Heading) (rows : List Row) : List Row :=
  (SortKey.firsts (headings.map sortKey) (rows.map fun row ↦ (row, ()))).map Prod.fst

/-- Rows sorted by all their values. -/
def ascending (headings : List Heading) (rows : List Row) : List Row :=
  (SortKey.sorted (headings.map sortKey) (rows.map fun row ↦ (row, ()))).map Prod.fst

/-- Whether a row is among some rows. -/
def contains (headings : List Heading) (rows : List Row) (row : Row) : Bool :=
  rows.any fun other ↦ SortKey.rowOrder (headings.map sortKey) other row == .eq

end Heading

/-- The rows of two relations put together. All but the plain union sort them and take the last of
those that agree. -/
def Compound.rows (compound : Compound) (headings : List Heading) (left right : List Row) :
    List Row :=
  let settled (rows : List Row) : List Row :=
    Heading.ascending headings (Heading.distinct headings rows.reverse)
  match compound with
  | .unionAll => left ++ right
  | .union => settled (left ++ right)
  | .except => settled (left.filter fun row ↦ !Heading.contains headings right row)
  | .intersect => settled (left.filter (Heading.contains headings right))

namespace Relation

/-- The headings of two relations put together: a collation that the left has none of is that of the
right. -/
def joinedHeadings (left right : List Heading) : List Heading :=
  List.zipWith (fun a b ↦ { a with collation := a.collation <|> b.collation }) left right

/-- Two relations of as many columns put together. -/
def compound? (compound : Compound) (left right : Relation) : Option Relation :=
  if left.headings.length = right.headings.length then
    let headings := joinedHeadings left.headings right.headings
    some ⟨headings, fun frames ↦ do
      pure (compound.rows headings (← left.rows frames) (← right.rows frames))⟩
  else none

/-- The number of rows that a limit or an offset asks for. -/
def bound? (value : Value) : Option Int :=
  match value.asNumber with
  | .whole n => some n
  | .real x => x.integer?.filter Number.fitsWord
  | _ => none

/-- The rows that a limit and an offset leave. A limit below zero leaves all. -/
def limited (limit : Option Meaning) (offset : Option Meaning) (rows : List Row)
    (frames : List Frame) :
    Option (List Row) :=
  match limit with
  | none => some rows
  | some limit => do
    let most ← bound? (← limit.value { frames })
    if most = 0 then pure []
    else
      let skipped ← match offset with
        | none => some 0
        | some offset => (offset.value { frames }).bind bound?
      let rest := rows.drop skipped.toNat
      pure (if most < 0 then rest else rest.take most.toNat)

end Relation

end StreamAudit.Sql
