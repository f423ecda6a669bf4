import StreamAudit.Json.Basic
import StreamAudit.Number.Shortest
import StreamAudit.Text.Quoted

/-!
How a value is spelled when it stands in a message or in place of a label: the three words None,
True and False, the shortest text of a double, quoted texts, and lists and objects in their
brackets.
-/

set_option autoImplicit false
set_option relaxedAutoImplicit false

namespace StreamAudit.Json

open StreamAudit.Number StreamAudit.Text

mutual

/-- The spelling of a value, with texts in quotes. -/
def spelled : Json → String
  | .null => "None"
  | .bool value => if value then "True" else "False"
  | .int value => toString value
  | .real value => value.text
  | .text value => quoted value
  | .list items => "[" ++ ", ".intercalate (spelledItems items) ++ "]"
  | .object members => "\x7b" ++ ", ".intercalate (spelledMembers members) ++ "\x7d"

/-- The spellings of the items of a list. -/
def spelledItems : List Json → List String
  | [] => []
  | item :: rest => spelled item :: spelledItems rest

/-- The spellings of the members of an object. -/
def spelledMembers : List (String × Json) → List String
  | [] => []
  | (name, value) :: rest => (quoted name ++ ": " ++ spelled value) :: spelledMembers rest

end

end StreamAudit.Json
