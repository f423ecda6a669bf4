import StreamAudit.Text.Printable

/-!
Quoted texts as they appear in messages: single quotes, unless the text holds a single quote and no
double one; backslash, the quote in use, tab, line feed, carriage return and unprintable characters
are escaped.
-/

set_option autoImplicit false
set_option relaxedAutoImplicit false

namespace StreamAudit.Text.Quoted

/-- Lower case hexadecimal digits of a number, padded with zeros. -/
def hex (width n : Nat) : List Char :=
  let digits := Nat.toDigits 16 n
  List.replicate (width - digits.length) '0' ++ digits

/-- The mark that encloses a text. -/
def mark (s : List Char) : Char :=
  if s.contains '\'' && !s.contains '"' then '"' else '\''

/-- How one character stands between the marks. -/
def escape (enclosing c : Char) : List Char :=
  let n := c.toNat
  if c == enclosing || c == '\\' then ['\\', c]
  else if n == 9 then ['\\', 't']
  else if n == 10 then ['\\', 'n']
  else if n == 13 then ['\\', 'r']
  else if isPrintable c then [c]
  else if n < 0x100 then '\\' :: 'x' :: hex 2 n
  else if n < 0x10000 then '\\' :: 'u' :: hex 4 n
  else '\\' :: 'U' :: hex 8 n

/-- The quoted form of a text. -/
def encode (s : List Char) : List Char :=
  mark s :: s.flatMap (escape (mark s)) ++ [mark s]

end StreamAudit.Text.Quoted

namespace StreamAudit.Text

/-- The quoted form of a text. -/
def quoted (s : String) : String :=
  String.ofList (Quoted.encode s.toList)

end StreamAudit.Text
