import StreamAudit.Text.Utf8

/-!
Percent coding of texts in addresses. A character outside the kept class is written as the bytes of
its UTF-8 form, each as a percent sign and two hexadecimal digits. Reading takes every well formed
triple as a byte and leaves any other percent sign as it stands.
-/

set_option autoImplicit false
set_option relaxedAutoImplicit false

namespace StreamAudit.Text.Percent

/-- ASCII letters and digits, and the marks that need no coding anywhere in an address. -/
def isUnreserved (c : Char) : Bool :=
  c.isAlphanum || c == '_' || c == '.' || c == '-' || c == '~'

/-- The capital hexadecimal digit of a number below sixteen. -/
def hexDigit (n : Nat) : Char :=
  if n < 10 then Char.ofNat (48 + n) else Char.ofNat (55 + n)

/-- The value of a hexadecimal digit of either case. -/
def hexValue? (c : Char) : Option Nat :=
  let n := c.toNat
  if 48 ≤ n && n ≤ 57 then some (n - 48)
  else if 65 ≤ n && n ≤ 70 then some (n - 55)
  else if 97 ≤ n && n ≤ 102 then some (n - 87)
  else none

/-- One byte as a percent triple. -/
def encodeByte (b : Nat) : List Char :=
  ['%', hexDigit (b / 16), hexDigit (b % 16)]

/-- Writes a text, coding what is neither unreserved nor kept. -/
def encode (keeps : Char → Bool) (s : List Char) : List Char :=
  s.flatMap fun c ↦
    if isUnreserved c || keeps c then [c] else (Utf8.encodeChar c).flatMap encodeByte

/-- Writes a text with every blank as a plus sign. -/
def encodeForm (s : List Char) : List Char :=
  (encode (· == ' ') s).map fun c ↦ if c == ' ' then '+' else c

/-- The bytes that a coded text stands for. -/
def bytes : List Char → List Nat
  | [] => []
  | '%' :: high :: low :: rest =>
    match hexValue? high, hexValue? low with
    | some h, some l => (16 * h + l) :: bytes rest
    | _, _ => 0x25 :: bytes (high :: low :: rest)
  | c :: rest => Utf8.encodeChar c ++ bytes rest

/-- Reads a coded text. -/
def decode (s : List Char) : List Char :=
  Utf8.decode (bytes s)

/-- Reads a coded text in which a plus sign stands for a blank. -/
def decodeForm (s : List Char) : List Char :=
  decode (s.map fun c ↦ if c == '+' then ' ' else c)

end StreamAudit.Text.Percent
