import StreamAudit.Json.Basic
import StreamAudit.Number.Shortest

/-!
Writing JSON texts in ASCII. Characters outside the printable ASCII range are escaped as UTF-16 code
units. A value is written on one line, or over several with every level two blanks further in.
-/

set_option autoImplicit false
set_option relaxedAutoImplicit false

namespace StreamAudit.Json.Writer

open StreamAudit.Number

/-- The small hexadecimal digit of a number below sixteen. -/
def hexDigit (n : Nat) : Char :=
  if n < 10 then Char.ofNat (48 + n) else Char.ofNat (87 + n)

/-- A code unit as an escape. -/
def escapeUnit (n : Nat) : List Char :=
  ['\\', 'u', hexDigit (n / 4096 % 16), hexDigit (n / 256 % 16), hexDigit (n / 16 % 16),
    hexDigit (n % 16)]

/-- How a character stands in a text. -/
def escape (c : Char) : List Char :=
  let n := c.toNat
  if c == '"' then ['\\', '"']
  else if c == '\\' then ['\\', '\\']
  else if n == 8 then ['\\', 'b']
  else if n == 9 then ['\\', 't']
  else if n == 10 then ['\\', 'n']
  else if n == 12 then ['\\', 'f']
  else if n == 13 then ['\\', 'r']
  else if 0x20 ≤ n && n < 0x7F then [c]
  else if n < 0x10000 then escapeUnit n
  else
    escapeUnit (0xD800 + (n - 0x10000) / 0x400) ++ escapeUnit (0xDC00 + (n - 0x10000) % 0x400)

/-- A text between its marks. -/
def string (s : String) : String :=
  String.ofList ('"' :: s.toList.flatMap escape ++ ['"'])

/-- A double, with the words that the reader knows for what is not finite. -/
def real : Binary64 → String
  | .finite negative units => (Binary64.finite negative units).text
  | .infinite negative => if negative then "-Infinity" else "Infinity"
  | .nan => "NaN"

/-- Starts a line that many levels in. -/
def lineAt (depth : Nat) : String :=
  String.ofList ('\n' :: List.replicate (2 * depth) ' ')

/-- Values between their brackets, separated by commas, each on a line of its own. -/
def enclose (opening closing : String) (depth : Nat) (parts : List String) : String :=
  if parts.isEmpty then opening ++ closing
  else
    opening ++ lineAt (depth + 1) ++ ("," ++ lineAt (depth + 1)).intercalate parts ++
      lineAt depth ++ closing

end StreamAudit.Json.Writer

namespace StreamAudit.Json

open Writer

/-- The text of a value that has no parts. -/
def scalar : Json → String
  | .null => "null"
  | .bool value => if value then "true" else "false"
  | .int value => toString value
  | .real value => Writer.real value
  | .text value => string value
  | _ => ""

mutual

/-- A value on one line. -/
def compact : Json → String
  | .list items => "[" ++ ",".intercalate (compactItems items) ++ "]"
  | .object members =>
    "\x7b" ++ ",".intercalate (compactMembers members) ++ "\x7d"
  | value => scalar value

/-- The items of a list, each on one line. -/
def compactItems : List Json → List String
  | [] => []
  | item :: rest => compact item :: compactItems rest

/-- The members of an object, each on one line. -/
def compactMembers : List (String × Json) → List String
  | [] => []
  | (name, value) :: rest => (string name ++ ":" ++ compact value) :: compactMembers rest

end

mutual

/-- A value over several lines, its own first line being that many levels in. -/
def indented (depth : Nat) : Json → String
  | .list items => enclose "[" "]" depth (indentedItems (depth + 1) items)
  | .object members => enclose "\x7b" "\x7d" depth (indentedMembers (depth + 1) members)
  | value => scalar value

/-- The items of a list, each over several lines. -/
def indentedItems (depth : Nat) : List Json → List String
  | [] => []
  | item :: rest => indented depth item :: indentedItems depth rest

/-- The members of an object, each over several lines. -/
def indentedMembers (depth : Nat) : List (String × Json) → List String
  | [] => []
  | (name, value) :: rest =>
    (string name ++ ": " ++ indented depth value) :: indentedMembers depth rest

end

/-- A value over several lines. -/
def indentedText (value : Json) : String :=
  indented 0 value

end StreamAudit.Json
