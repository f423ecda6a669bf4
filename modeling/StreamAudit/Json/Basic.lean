import StreamAudit.Dictionary
import StreamAudit.Number.Binary64

/-!
JSON values. Integers and doubles are kept apart, since a number with a point or an exponent is read
as a double and any other as an integer of any size. An object keeps its members in the order in
which their names first appeared.
-/

set_option autoImplicit false
set_option relaxedAutoImplicit false

namespace StreamAudit

open StreamAudit.Number

/-- A JSON value. -/
inductive Json where
  | null
  | bool (value : Bool)
  | int (value : Int)
  | real (value : Binary64)
  | text (value : String)
  | list (items : List Json)
  | object (members : List (String × Json))
deriving BEq, Inhabited

namespace Json

/-- The members of an object. -/
abbrev Members :=
  Dictionary Json

/-- The members of an object, nothing for any other value. -/
def members? : Json → Option Members
  | .object members => some members
  | _ => none

/-- The value under a name of an object. -/
def get? (value : Json) (name : String) : Option Json :=
  value.members?.bind (·.get? name)

/-- Null, false, zero, and empty texts, lists and objects stand for nothing. -/
def isNothing : Json → Bool
  | .null => true
  | .bool value => !value
  | .int value => value == 0
  | .real value => value.isZero
  | .text value => value.isEmpty
  | .list items => items.isEmpty
  | .object members => members.isEmpty

/-- A text or null. -/
def ofText? : Option String → Json
  | some value => .text value
  | none => .null

end Json

end StreamAudit
