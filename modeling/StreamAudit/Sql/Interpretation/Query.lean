import StreamAudit.Sql.Interpretation.Selection

/-!
The rows of queries. A compound is sorted by its own columns, and a query that refers to itself goes
on from every row that it has found. An interpreter of phrases of some depth is built on one of
phrases that are less deep.
-/

set_option autoImplicit false
set_option relaxedAutoImplicit false

namespace StreamAudit.Sql

open StreamAudit.Text

/-- Whether an expression to sort by asks for a collation. -/
def Term.asksCollation : Term → Bool
  | .mk (.collate ..) _ _ => true
  | _ => false

namespace Relation

/-- The place of the column that an expression to sort a compound by means. -/
def place? (arms : List (List Heading)) : Expr → Option Nat
  | .collate operand _ => place? arms operand
  | .name path _ _ => do
    let name ← path.getLast?
    arms.findSome? fun headings ↦ headings.findIdx? fun heading ↦
      heading.name.any (sameButAsciiCase name)
  | other => do
    let n ← other.number?
    let headings ← arms.head?
    if 1 ≤ n ∧ n ≤ headings.length then pure (n.toNat - 1) else none

/-- The collation that an expression asks for. -/
def asked? : Expr → Option (Option Collation)
  | .collate _ name => (Collation.ofName? name).map some
  | _ => some none

/-- How a term sorts a compound, with the place of its column. -/
def sortKey? (arms : List (List Heading)) : Term → Option (Nat × SortKey)
  | .mk value isDescending nullsLast => do
    let place ← place? arms value
    let own ← (← arms.head?)[place]?
    let collation ← asked? value
    pure (place, ⟨(collation <|> own.collation).getD .binary, isDescending, nullsLast⟩)

/-- A relation sorted by some of its columns. -/
def sortedBy (relation : Relation) (keys : List (Nat × SortKey)) : Relation where
  headings := relation.headings
  rows frames := (relation.rows frames).map fun rows ↦
    let described := rows.map fun row ↦ (keys.map fun key ↦ (row[key.1]?).getD .null, row)
    (SortKey.sorted (keys.map Prod.snd) described).map Prod.snd

/-- A term with the number of the column that it means. -/
def numberedTerm? (arms : List (List Heading)) : Term → Option Term
  | .mk value isDescending nullsLast => do
    let number : Expr := .integer ((← place? arms value) + 1)
    let value := match value with
      | .collate _ name => .collate number name
      | _ => number
    pure (.mk value isDescending nullsLast)

/-- A relation with other names for its columns, if there are as many. -/
def renamed? (relation : Relation) (names : List String) : Option Relation :=
  if names.isEmpty then some relation
  else if names.length = relation.headings.length then
    some { relation with
      headings := List.zipWith (fun heading name ↦ { heading with name := some name })
        relation.headings names }
  else none

/-- The most rows that a query which goes on from its own rows may find. There are fewer if each of
them is compared with all others. -/
def reach (isDistinct : Bool) : Nat :=
  if isDistinct then 10000 else 100000

/-- All rows found from some rows by going on from each in turn; the fuel bounds how many there
are. -/
def closure (headings : List Heading) (isDistinct : Bool) (next : Row → Option (List Row)) :
    Nat → List Row → List Row → Option (List Row)
  | 0, found, _ => some found.reverse
  | _, found, [] => some found.reverse
  | fuel + 1, found, row :: waiting => do
    let more ← next row
    let new :=
      if isDistinct then
        (Heading.distinct headings more).filter fun other ↦
          !Heading.contains headings (row :: waiting ++ found) other
      else more
    closure headings isDistinct next fuel (row :: found) (waiting ++ new)

end Relation

namespace Interpreter

variable (inner : Interpreter) (setting : Setting)

/-- The relation of a list of rows. -/
def listed (rows : List (List Expr)) : Option Relation := do
  let first ← rows.head?
  guard (rows.all fun row ↦ row.length = first.length)
  let meanings ← rows.mapM fun row ↦ row.mapM (inner.expr (setting.within { columns := [] }))
  let headings := ((meanings.head?).getD []).zipIdx.map fun (meaning, place) ↦
    { Output.heading ⟨meaning, none⟩ with name := some ("column" ++ toString (place + 1)) }
  pure
    { headings
      rows := fun outer ↦ meanings.mapM fun row ↦ Meaning.row row { frames := ⟨[], []⟩ :: outer } }

/-- The relation of a selection, of a list of rows, or of a compound. -/
def bodyRelation : Body → Option Relation
  | .selection isDistinct results origin condition groups having clauses =>
    inner.selection setting isDistinct results origin condition groups having clauses []
  | .rows rows => inner.listed setting rows
  | .compound compound left right => do
    Relation.compound? compound (← inner.body setting left) (← inner.body setting right)

/-- The headings of all parts of a compound, from the left. -/
def arms : Body → Option (List (List Heading))
  | .compound _ left right => do pure ((← arms left) ++ (← arms right))
  | other => (inner.body setting other).map fun relation ↦ [relation.headings]

/-- Whether a compound keeps every row of its parts. -/
def isPlain : Body → Bool
  | .compound compound left right => compound = .unionAll && isPlain left && isPlain right
  | _ => true

/-- The relation of a selection or a compound in some order. A compound that is sorted by a
collation, and that does not keep every row, is first found without an order; what the last part
groups by then puts together the rows of the whole. -/
def orderedRelation (body : Body) (terms : List Term) : Option Relation :=
  match body with
  | .selection isDistinct results origin condition groups having clauses =>
    inner.selection setting isDistinct results origin condition groups having clauses terms
  | .compound compound left
      (.selection isDistinct results origin condition groups having clauses) => do
    let relation ← inner.body setting body
    if terms.isEmpty then pure relation
    else
      let arms ← inner.arms setting body
      if isPlain body || !terms.any Term.asksCollation then
        pure (relation.sortedBy (← terms.mapM (Relation.sortKey? arms)))
      else
        let whole : Body := .compound compound left
          (.selection isDistinct results origin condition [] none clauses)
        inner.selection setting false [.all] (some (.query (.mk [] whole [] none none) none))
          none groups having [] (← terms.mapM (Relation.numberedTerm? arms))
  | other => inner.body setting other

/-- The setting with a table that hides others of its name. -/
def withTable (name : String) (source : List Scope → Option Source) : Setting :=
  { setting with tables := ⟨name, false, source⟩ :: setting.tables }

/-- The relation of a query that goes on from its own rows. -/
def recursive (name : String) (columns : List String) (body : Body) (limit : Option Expr) :
    Option Relation :=
  match body with
  | .compound compound left right => do
    guard (compound = .union || compound = .unionAll)
    let start ← (← inner.body (withTable setting name fun _ ↦ none) left).renamed? columns
    let current (scopes : List Scope) : Source :=
      { Source.ofRelation start (some name) with
        rows := fun frames ↦
          some
            ((frames.drop (scopes.length - setting.scopes.length - 1)).head?.map Frame.row).toList }
    let around := withTable setting name fun scopes ↦ some (current scopes)
    let step ← inner.body (around.within { columns := [] }) right
    guard (step.headings.length = start.headings.length)
    let limit ← limit.mapM (inner.expr { setting with scopes := [] })
    let isDistinct := compound = .union
    pure
      { headings := start.headings
        rows := fun frames ↦ do
          let most ← match limit with
            | some limit => (limit.value { frames }).bind Relation.bound?
            | none => some (-1)
          let first ← start.rows frames
          Relation.closure start.headings isDistinct (fun row ↦ step.rows (⟨row, []⟩ :: frames))
            (if most < 0 then Relation.reach isDistinct else most.toNat) []
            (if isDistinct then Heading.distinct start.headings first else first) }
  | _ => none

/-- The setting with a query under its name. A query with no meaning makes its name one without. -/
def withNamed : NamedQuery → Setting
  | .mk name columns query =>
    withTable setting name fun scopes ↦
      let setting := { setting with scopes }
      let plain := (inner.query (withTable setting name fun _ ↦ none) query).bind fun relation ↦
        relation.renamed? columns
      let relation := plain <|> match query with
        | .mk [] body [] limit none => inner.recursive setting name columns body limit
        | _ => none
      relation.map fun relation ↦ .ofRelation relation (some name)

/-- The relation of a query. Its limits see no columns. -/
def queryRelation : Query → Option Relation
  | .mk named body terms limit offset => do
    let setting := named.foldl inner.withNamed setting
    let relation ← inner.orderedRelation setting body terms
    let limit ← limit.mapM (inner.expr { setting with scopes := [] })
    let offset ← offset.mapM (inner.expr { setting with scopes := [] })
    pure
      { relation with
        rows := fun frames ↦ do
          Relation.limited limit offset (← relation.rows frames) frames }

/-- The meaning of an expression. -/
def meaning : Expr → Option Meaning
  | .literal value => some (.constant value)
  | .integer n => some (.constant (.ofInteger n))
  | .place index => some (.constant ((setting.parameters[index - 1]?).getD .null))
  | .name path mayBeText isWord => name setting path mayBeText isWord
  | .negative (.integer n) => some (.constant (.ofInteger (-n)))
  | .negative operand => (inner.expr setting operand).map (.map Value.negated)
  | .positive operand => (inner.expr setting operand).map fun meaning ↦
      { meaning with affinity := .nothing, truth := none, column := none }
  | .complement operand => (inner.expr setting operand).map (.map Value.complement)
  | .not operand =>
    (inner.expr setting operand).map (.map fun value ↦ .ofTruth (value.truth?.map not))
  | .and left right =>
    if left.isFalse || right.isFalse then some (.constant (.whole 0))
    else do
      pure (.map₂ (fun a b ↦ .ofTruth (both a.truth? b.truth?)) (← inner.expr setting left)
        (← inner.expr setting right))
  | .or left right => do
    pure (.map₂ (fun a b ↦ .ofTruth (either a.truth? b.truth?)) (← inner.expr setting left)
      (← inner.expr setting right))
  | .compare comparison left right => do
    let (lefts, rights) ← inner.sides setting left right
    pure (.compared comparison lefts rights)
  | .same left right => inner.identity setting left right
  | .isNull operand =>
    (inner.expr setting operand).map (.map fun value ↦ .ofTruth (some (value = .null)))
  | .operation operation left right => do
    pure (.map₂ operation.apply (← inner.expr setting left) (← inner.expr setting right))
  | .between value low high => do
    let (values, lows) ← inner.sides setting value low
    let (_, highs) ← inner.sides setting value high
    pure (.between values lows highs)
  | .among _ [] => some (.constant (.whole 0))
  | .among value members => do
    pure (.among (← inner.expr setting value) (← members.mapM (inner.expr setting)))
  | .within value query => do
    let values ← inner.operands setting value
    let relation ← inner.query setting query
    guard (values.length = relation.headings.length)
    pure (.within values relation)
  | .anyRow query => (inner.query setting query).map fun relation ↦
      .combined [] fun around ↦ (relation.rows around.frames).map fun rows ↦
        .ofTruth (some !rows.isEmpty)
  | .scalar query => do
    let [single] ← inner.operands setting (.scalar query) | none
    pure single
  | .row _ => none
  | .choice base branches otherwise => inner.choice setting base branches otherwise
  | .cast operand type => (inner.expr setting operand).map fun meaning ↦
      { Meaning.map (CastType.ofName type).apply meaning with
        affinity := (CastType.ofName type).affinity
        collation := meaning.collation }
  | .collate operand name => do
    let meaning ← inner.expr setting operand
    pure { meaning with collation := some (← Collation.ofName? name), isExplicit := true }
  | .call function isDistinct arguments condition none =>
    inner.call setting function isDistinct arguments condition
  | .call function isDistinct arguments condition (some window) =>
    inner.peerCall setting function isDistinct arguments condition window

/-- How deep expressions may be nested. -/
def greatestHeight : Nat :=
  1000

/-- The interpreter of phrases that are nested at most to some depth. -/
def ofDepth : Nat → Interpreter
  | 0 => empty
  | depth + 1 =>
    let inner := ofDepth depth
    { expr := fun setting expr ↦
        (meaning inner setting expr).filter fun found ↦ found.height ≤ greatestHeight
      query := queryRelation inner
      body := bodyRelation inner
      origin := source inner }

end Interpreter

end StreamAudit.Sql
