import StreamAudit.Sql.Relation
import StreamAudit.Sql.Syntax.Basic

/-!
What phrases are interpreted in: the values of parameters, the tables that have names, and the
scopes of the selections around a phrase. An interpreter finds the meaning of every kind of phrase;
it finds none for a phrase with a name that is not known.
-/

set_option autoImplicit false
set_option relaxedAutoImplicit false

namespace StreamAudit.Sql

open StreamAudit.Text

/-- The rows that a selection reads, with their columns. -/
structure Source where
  columns : List Column
  rows : List Frame → Option (List Row)

namespace Source

/-- The source under another name. -/
def named (source : Source) (name : Option String) : Source :=
  { source with columns := source.columns.map fun column ↦ { column with owners := name.toList } }

/-- The source of a selection from nothing: one row without columns. -/
def single : Source where
  columns := []
  rows _ := some [[]]

end Source

/-- A table under a name: a stored one, or a query whose names are looked up in the scopes where it
is used. One that refers to itself has no source. -/
structure Table where
  name : String
  isStored : Bool
  source : List Scope → Option Source

/-- What a phrase is interpreted in. -/
structure Setting where
  parameters : List Value
  tables : List Table
  scopes : List Scope := []

namespace Setting

/-- The setting within one more selection. -/
def within (setting : Setting) (scope : Scope) : Setting :=
  { setting with scopes := scope :: setting.scopes }

/-- The table that a name means, with that of the schema before it or not. -/
def table? (setting : Setting) (path : List String) : Option Table :=
  match path with
  | [name] => setting.tables.find? fun table ↦ sameButAsciiCase table.name name
  | [schema, name] =>
    if sameButAsciiCase schema Column.schema then
      setting.tables.find? fun table ↦ table.isStored && sameButAsciiCase table.name name
    else none
  | _ => none

end Setting

/-- Finds what phrases mean. -/
structure Interpreter where
  expr : Setting → Expr → Option Meaning
  query : Setting → Query → Option Relation
  body : Setting → Body → Option Relation
  origin : Setting → Origin → Option Source

namespace Interpreter

/-- The interpreter that finds no meaning. -/
def empty : Interpreter where
  expr _ _ := none
  query _ _ := none
  body _ _ := none
  origin _ _ := none

end Interpreter

end StreamAudit.Sql
