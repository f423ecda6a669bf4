import StreamAudit.Sql.Interpretation.Query
import StreamAudit.Sql.Placeholder
import StreamAudit.Sql.Syntax.Selection

/-!
Statements. A statement is a text with named parameters; its answer is the rows of the query that it
is. A statement that cannot be read, that names what is not there, or that fails on a row has no
answer.
-/

set_option autoImplicit false
set_option relaxedAutoImplicit false

namespace StreamAudit.Sql

/-- The rows that a statement answers on stored tables, with the values of its parameters by
name. -/
def answer? (tables : List Table) (parameters : List (String × Value)) (statement : String) :
    Option (List Row) := do
  let (text, names) := Placeholder.resolve statement
  let values ← names.mapM fun name ↦ List.lookup name parameters
  let (tokens, places) ← tokens? text
  guard (places = values.length)
  let query ← Query.ofTokens? tokens
  let relation ← (Interpreter.ofDepth (4 * tokens.length + 8)).query
    { parameters := values, tables } query
  relation.rows []

end StreamAudit.Sql
