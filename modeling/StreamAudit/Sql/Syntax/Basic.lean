import StreamAudit.Sql.Operator

/-!
The phrases of a query as they are read, before any name is looked up: expressions, the results of a
selection, the origins of its rows, and queries, which may be compounds and may name queries of
their own.
-/

set_option autoImplicit false
set_option relaxedAutoImplicit false

namespace StreamAudit.Sql

/-- How the rows of two selections are put together. -/
inductive Compound where
  | unionAll
  | union
  | except
  | intersect
deriving DecidableEq, Repr

/-- Which rows without a partner a join keeps. -/
structure JoinKind where
  keepsLeft : Bool := false
  keepsRight : Bool := false
  isNatural : Bool := false
deriving DecidableEq, Repr

/-- What the ends of an extent are counted in: rows, groups of rows that agree in their order, or
only the group of the present row. -/
inductive ExtentUnit where
  | rows
  | groups
  | range
deriving DecidableEq, Repr

/-- An end of an extent. -/
inductive ExtentEnd where
  | start
  | before (count : Nat)
  | present
  | behind (count : Nat)
  | stop
deriving DecidableEq, Repr

/-- Where the kind of an end stands among all kinds. -/
def ExtentEnd.rank : ExtentEnd → Nat
  | .start => 0
  | .before _ => 1
  | .present => 2
  | .behind _ => 3
  | .stop => 4

/-- Whether an end is told by a count. -/
def ExtentEnd.isCounted : ExtentEnd → Bool
  | .before _ | .behind _ => true
  | _ => false

/-- Which rows are left out of an extent. -/
inductive Exclusion where
  | nothing
  | present
  | group
  | ties
deriving DecidableEq, Repr

/-- The part of the peers of a row that a call takes into account. -/
structure Extent where
  unit : ExtentUnit := .range
  first : ExtentEnd := .start
  last : ExtentEnd := .present
  exclusion : Exclusion := .nothing
deriving DecidableEq, Repr

mutual

/-- An expression. A name has the names of its table and of the schema before it; if it stands alone
it may be a text that was quoted like a name, or one of the words for truth. -/
inductive Expr where
  | literal (value : Value)
  | integer (n : Nat)
  | place (index : Nat)
  | name (path : List String) (mayBeText isWord : Bool)
  | negative (operand : Expr)
  | positive (operand : Expr)
  | complement (operand : Expr)
  | not (operand : Expr)
  | and (left right : Expr)
  | or (left right : Expr)
  | compare (comparison : Comparison) (left right : Expr)
  | same (left right : Expr)
  | isNull (operand : Expr)
  | operation (operation : Operation) (left right : Expr)
  | between (value low high : Expr)
  | among (value : Expr) (members : List Expr)
  | within (value : Expr) (query : Query)
  | anyRow (query : Query)
  | scalar (query : Query)
  | row (members : List Expr)
  | choice (base : Option Expr) (branches : List (Expr × Expr)) (otherwise : Option Expr)
  | cast (operand : Expr) (type : String)
  | collate (operand : Expr) (collation : String)
  | call (function : String) (isDistinct : Bool) (arguments : List Expr) (condition : Option Expr)
      (window : Option PeerClause)

/-- The rows that a call looks at beside its own: those that agree on some expressions, in an order.
It may go on from a clause of a name. -/
inductive PeerClause where
  | mk (base : Option String) (partition : List Expr) (terms : List Term) (extent : Option Extent)

/-- An expression to sort by. -/
inductive Term where
  | mk (value : Expr) (isDescending : Bool) (nullsLast : Option Bool)

/-- A result of a selection: all columns, those of one table, or a value that may be given a
name. -/
inductive Result where
  | all
  | allOf (table : String)
  | value (value : Expr) (given : Option String)

/-- Where the rows of a selection come from. -/
inductive Origin where
  | table (path : List String) (given : Option String)
  | query (query : Query) (given : Option String)
  | nested (origin : Origin) (given : Option String)
  | join (kind : JoinKind) (left right : Origin) (condition : Option Expr)
      (common : List String)

/-- One selection, a list of rows, or a compound of two. -/
inductive Body where
  | selection (isDistinct : Bool) (results : List Result) (origin : Option Origin)
      (condition : Option Expr) (groups : List Expr) (having : Option Expr)
      (clauses : List (String × PeerClause))
  | rows (rows : List (List Expr))
  | compound (compound : Compound) (left right : Body)

/-- A query with the queries that it names, its order and its limits. -/
inductive Query where
  | mk (named : List NamedQuery) (body : Body) (terms : List Term) (limit offset : Option Expr)

/-- A query under a name, which may name its columns too. -/
inductive NamedQuery where
  | mk (name : String) (columns : List String) (query : Query)

end

end StreamAudit.Sql
