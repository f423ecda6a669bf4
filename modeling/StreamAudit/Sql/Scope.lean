import StreamAudit.Sql.Meaning
import StreamAudit.Sql.Syntax.Basic
import StreamAudit.Text.LetterCase

/-!
Where names are looked up. The rows that a selection reads have columns, which belong to tables; a
name may say the table, and for a stored one the schema. A name that fits several columns has no
meaning. A name that fits none may be one that the selection itself gives to a result.
-/

set_option autoImplicit false
set_option relaxedAutoImplicit false

namespace StreamAudit.Sql

open StreamAudit.Text

/-- How a column can be reached: by its name alone, only behind the name of its table, or as the
number of a row. -/
inductive Access where
  | free
  | ownedOnly
  | rowNumber
deriving DecidableEq, Repr

/-- A column that a name can mean. -/
structure Column where
  owners : List String
  isStored : Bool := false
  name : Option String
  affinity : Affinity := .nothing
  collation : Option Collation := some .binary
  access : Access := .free

namespace Column

/-- The name of the only schema. -/
def schema : String :=
  "main"

/-- The names that the number of a row goes by. -/
def rowNumberNames : List String :=
  ["rowid", "_rowid_", "oid"]

/-- Whether a column has a name, capital or small letters not told apart. -/
def isNamed (column : Column) (name : String) : Bool :=
  column.name.any (sameButAsciiCase name)

/-- Whether a column belongs to a table of a name. -/
def belongsTo (column : Column) (table : String) : Bool :=
  column.owners.any (sameButAsciiCase table)

/-- Whether names before the one of a column are those of its table and its schema. -/
def isUnder (column : Column) : List String → Bool
  | [] => true
  | [table] => column.belongsTo table
  | [first, table] => column.isStored && sameButAsciiCase first schema && column.belongsTo table
  | _ => false

/-- Whether a name with others before it means a column. -/
def isMeant (column : Column) (path : List String) : Bool :=
  match path.reverse with
  | [] => false
  | name :: before =>
    match column.access with
    | .free => column.isNamed name && column.isUnder before.reverse
    | .ownedOnly => !before.isEmpty && column.isNamed name && column.isUnder before.reverse
    | .rowNumber => false

/-- Whether a name with others before it means a column as the number of a row. -/
def isMeantAsNumber (column : Column) (path : List String) : Bool :=
  match path.reverse with
  | [] => false
  | name :: before =>
    column.access = .rowNumber && rowNumberNames.any (sameButAsciiCase name)
      && column.isUnder before.reverse

end Column

/-- What names can mean in a selection: the columns that it reads, and the results and the clauses
on peers that it names. It also says whether rows put together and the peers of a row may be looked
at. -/
structure Scope where
  columns : List Column
  results : List (String × Meaning) := []
  clauses : List (String × PeerClause) := []
  admitsGroups : Bool := false
  admitsPeers : Bool := false

namespace Scope

/-- The places of the columns that fit. -/
def places (scope : Scope) (fits : Column → Bool) : List (Column × Nat) :=
  scope.columns.zipIdx.filter fun pair ↦ fits pair.1

/-- The column that a name means, if there is one; nothing if there are several. -/
def column? (scope : Scope) (path : List String) : Option (Option (Column × Nat)) :=
  match scope.places (·.isMeant path) with
  | [single] => some (some single)
  | _ :: _ => none
  | [] =>
    match scope.places (·.isMeantAsNumber path) with
    | [single] => some (some single)
    | _ => some none

/-- The named result that a name means. -/
def result? (scope : Scope) (path : List String) : Option Meaning :=
  match path with
  | [name] => (scope.results.find? fun pair ↦ sameButAsciiCase pair.1 name).map Prod.snd
  | _ => none

/-- Whether a result may be used in a scope. -/
def admits (scope : Scope) (meaning : Meaning) : Bool :=
  (scope.admitsGroups || !meaning.usesGroup) && (scope.admitsPeers || !meaning.usesPeers)

end Scope

namespace Meaning

/-- The meaning of a column of a selection some levels outside of the innermost. -/
def ofColumn (level : Nat) (column : Column) (place : Nat) : Meaning where
  value around := some ((around.frames[level]?.bind fun frame ↦ frame.row[place]?).getD .null)
  affinity := column.affinity
  collation := column.collation
  column := column.name
  level := some level

/-- A meaning looked at from a selection some levels inside of its own. -/
def fromInside (meaning : Meaning) (levels : Nat) : Meaning :=
  if levels = 0 then meaning
  else
    { meaning with
      value := fun around ↦ meaning.value (around.outside levels)
      usesGroup := false
      usesPeers := false
      lead := none
      level := meaning.level.map (· + levels) }

/-- The meaning of a name in scopes from the innermost on, if it has one; nothing if it has several,
or if it may not be used. -/
def ofName? (path : List String) : Nat → List Scope → Option (Option Meaning)
  | _, [] => some none
  | level, scope :: rest =>
    match scope.column? path with
    | none => none
    | some (some (column, place)) => some (some (ofColumn level column place))
    | some none =>
      match scope.result? path with
      | some meaning => if scope.admits meaning then some (some (meaning.fromInside level))
          else none
      | none => ofName? path (level + 1) rest

end Meaning

end StreamAudit.Sql
